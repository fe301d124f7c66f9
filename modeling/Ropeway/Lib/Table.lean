import Mathlib.Algebra.BigOperators.Fin
import Mathlib.Algebra.Order.BigOperators.Group.Finset

/-! Tables of processes: sums over one of which an entry is updated, and lists that hold one. -/

namespace Lib

variable {ι β M : Type} [Fintype ι] [DecidableEq ι] [AddCommMonoid M]

/-- Replacing one entry moves the difference of its two values into the sum. -/
theorem sum_update_at (w : ι → β → M) (g : ι → β) (i : ι) (b : β) :
    ∑ j, w j (Function.update g i b j) + w i (g i) = ∑ j, w j (g j) + w i b := by
  have hrest : ∑ j ∈ Finset.univ.erase i, w j (Function.update g i b j) =
      ∑ j ∈ Finset.univ.erase i, w j (g j) := by
    apply Finset.sum_congr rfl
    intro j hj
    rw [Function.update_of_ne (Finset.ne_of_mem_erase hj)]
  rw [← Finset.sum_erase_add _ _ (Finset.mem_univ i),← Finset.sum_erase_add Finset.univ
    (fun j => w j (g j)) (Finset.mem_univ i),hrest,Function.update_self]
  exact add_right_comm _ _ _

theorem sum_update (f : β → M) (g : ι → β) (i : ι) (b : β) :
    ∑ j, f (Function.update g i b j) + f (g i) = ∑ j, f (g j) + f b :=
  sum_update_at (fun _ => f) g i b

/-- A list that holds a table of `n` entries at its front and nothing else of interest. -/
theorem filter_map_table {α β : Type} {n : Nat} {l : List α} {f : α → Option β} {g : Fin n → Option β}
    (h : ∀ i : Fin n, (l[i.val]?).bind f = g i) (hrest : ∀ k a, n ≤ k → l[k]? = some a → f a = none) :
    l.filterMap f = (List.finRange n).filterMap g := by
  induction n generalizing l with
  | zero =>
    rw [List.finRange_zero,List.filterMap_nil,List.filterMap_eq_nil_iff]
    intro a ha
    obtain ⟨k,hk⟩ := List.mem_iff_getElem?.mp ha
    exact hrest k a (Nat.zero_le k) hk
  | succ n ih =>
    have htail : l.tail.filterMap f = (List.finRange n).filterMap (g ∘ Fin.succ) := by
      apply ih
      · intro i
        rw [List.getElem?_tail]
        exact h i.succ
      · intro k a hk ha
        rw [List.getElem?_tail] at ha
        exact hrest (k + 1) a (Nat.succ_le_succ hk) ha
    have hhead := h 0
    rw [List.finRange_succ]
    cases l with
    | nil =>
      simp only [List.filterMap_cons,← hhead,List.filterMap_map]
      exact htail
    | cons a l =>
      simp only [List.filterMap_cons,← hhead,List.filterMap_map]
      rw [← htail]
      rfl

/-- The sum of a column of the rows a table yields. -/
theorem sum_filter_map {β : Type} {n : Nat} (f : Fin n → Option β) (w : β → Nat) :
    (((List.finRange n).filterMap f).map w).sum = ∑ i, ((f i).map w).getD 0 := by
  rw [Fin.sum_univ_def]
  induction List.finRange n with
  | nil => rfl
  | cons i l ih =>
    rw [List.map_cons,List.sum_cons,← ih,List.filterMap_cons]
    cases f i with
    | none => simp
    | some b => simp

end Lib
