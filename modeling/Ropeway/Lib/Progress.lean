import Ropeway.Lib.Runs
import Mathlib.Algebra.Order.Group.Nat
import Mathlib.Algebra.Ring.Nat

/-! What is left of a run: a measure that some steps lower bounds their number, and where
there is always such a step the run can be completed. -/

namespace Lib

variable {σ α : Type} {step : σ → α → Option σ} {env : List (σ × α) → σ → α → Bool} {s₀ s t : σ}
  {tr post : List (σ × α)}

/-- A run can be continued with another one. -/
theorem Run.append (h : Run step env s₀ tr s) (h' : Run step (fun l => env (tr ++ l)) s post t) :
    Run step env s₀ (tr ++ post) t := by
  induction h' with
  | nil => rwa [List.append_nil]
  | snoc _ allowed taken ih =>
    rw [← List.append_assoc]
    exact ih.snoc allowed taken

/-- A run under a rule is one under every weaker rule. -/
theorem Run.mono {env' : List (σ × α) → σ → α → Bool} (h : Run step env s₀ tr s)
    (hle : ∀ l s a, env l s a = true → env' l s a = true) : Run step env' s₀ tr s := by
  induction h with
  | nil => exact .nil
  | snoc _ allowed taken ih => exact ih.snoc (hle _ _ _ allowed) taken

/-- Every step with property `p` lowers the measure and no step raises it by more than its
credit: the measure and the credits bound the number of steps with the property. -/
theorem Run.count_le (I : σ → Prop) (m : σ → Nat) (p : σ → α → Bool) (credit : α → Nat)
    (preserve : ∀ tr s a s', I s → env tr s a = true → step s a = some s' →
      I s' ∧ m s' + (p s a).toNat ≤ m s + credit a)
    (hs : I s) (h : Run step env s tr t) :
    I t ∧ m t + tr.countP (fun q => p q.1 q.2) ≤ m s + (tr.map fun q => credit q.2).sum := by
  induction h with
  | nil => exact ⟨hs,by simp⟩
  | @snoc tr s' t a h allowed taken ih =>
    obtain ⟨hi,hle⟩ := ih
    obtain ⟨hi',hle'⟩ := preserve _ _ _ _ hi allowed taken
    refine ⟨hi',?_⟩
    have hcount : (tr ++ [(s',a)]).countP (fun q => p q.1 q.2) =
        tr.countP (fun q => p q.1 q.2) + (p s' a).toNat := by
      cases hp : p s' a <;> simp [List.countP_append,hp]
    rw [hcount,List.map_append,List.sum_append]
    simp only [List.map_cons,List.map_nil,List.sum_cons,List.sum_nil]
    omega

/-- The same without credits. -/
theorem Run.count_le_measure (I : σ → Prop) (m : σ → Nat) (p : σ → α → Bool)
    (preserve : ∀ tr s a s', I s → env tr s a = true → step s a = some s' →
      I s' ∧ m s' + (p s a).toNat ≤ m s)
    (hs : I s) (h : Run step env s tr t) : tr.countP (fun q => p q.1 q.2) ≤ m s := by
  obtain ⟨-,hle⟩ := h.count_le I m p (fun _ => 0) preserve hs
  have hzero : (tr.map fun _ => 0).sum = 0 := by simp
  omega

/-- While the goal is not reached some allowed step lowers the measure: then the goal can
be reached. -/
theorem Run.completes (I : List (σ × α) → σ → Prop) (m : σ → Nat) (goal : σ → Prop)
    (progress : ∀ tr s, I tr s → ¬goal s → ∃ a s', env tr s a = true ∧ step s a = some s' ∧
      I (tr ++ [(s,a)]) s' ∧ m s' < m s)
    (hi : I tr s) (h : Run step env s₀ tr s) :
    ∃ post t, Run step env s₀ (tr ++ post) t ∧ goal t := by
  induction hm : m s using Nat.strong_induction_on generalizing tr s with
  | _ k ih =>
    by_cases hg : goal s
    · exact ⟨[],s,by rwa [List.append_nil],hg⟩
    · obtain ⟨a,s',allowed,taken,hi',hlt⟩ := progress tr s hi hg
      obtain ⟨post,t,hrun,ht⟩ := ih (m s') (hm ▸ hlt) hi' (h.snoc allowed taken) rfl
      refine ⟨(s,a) :: post,t,?_,ht⟩
      rwa [List.append_assoc] at hrun

end Lib
