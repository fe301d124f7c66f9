import Mathlib.Data.List.Basic
import Mathlib.Logic.Function.Basic
import Ropeway.Lib.Text

/-! Memory as cells from an address on, and the C strings that are stored in it. -/

namespace Lib

variable {α : Type*}

def storeList (m : Nat → α) (a : Nat) : List α → Nat → α
  | [] => m
  | x :: l => storeList (Function.update m a x) (a + 1) l

def loadList (m : Nat → α) (a : Nat) : Nat → List α
  | 0 => []
  | n + 1 => m a :: loadList m (a + 1) n

theorem store_list_append (m : Nat → α) (a : Nat) (l l' : List α) :
    storeList m a (l ++ l') = storeList (storeList m a l) (a + l.length) l' := by
  induction l generalizing m a with
  | nil => rfl
  | cons x l ih =>
    simp only [List.cons_append,storeList,ih,List.length_cons]
    congr 1
    omega

/-- Nothing is stored before the address. -/
theorem store_list_before (m : Nat → α) {a b : Nat} (l : List α) (h : b < a) :
    storeList m a l b = m b := by
  induction l generalizing m a with
  | nil => rfl
  | cons x l ih =>
    have hne : b ≠ a := by omega
    rw [storeList,ih _ (by omega),Function.update_of_ne hne]

/-- Nor after the last value. -/
theorem store_list_after (m : Nat → α) {a b : Nat} (l : List α) (h : a + l.length ≤ b) :
    storeList m a l b = m b := by
  induction l generalizing m a with
  | nil => rfl
  | cons x l ih =>
    simp only [List.length_cons] at h
    have hne : b ≠ a := by omega
    rw [storeList,ih _ (by omega),Function.update_of_ne hne]

/-- What was stored is loaded back. -/
theorem load_store_list (m : Nat → α) (a : Nat) (l : List α) :
    loadList (storeList m a l) a l.length = l := by
  induction l generalizing m a with
  | nil => rfl
  | cons x l ih =>
    have hfirst : storeList (Function.update m a x) (a + 1) l a = x := by
      rw [store_list_before _ l (by omega)]
      exact Function.update_self a x m
    simp only [List.length_cons,loadList,storeList]
    rw [hfirst,ih]

theorem load_list_add (m : Nat → α) (a n k : Nat) :
    loadList m a (n + k) = loadList m a n ++ loadList m (a + n) k := by
  induction n generalizing a with
  | zero => simp [loadList]
  | succ n ih =>
    rw [Nat.add_right_comm,loadList,loadList,ih,List.cons_append,Nat.add_assoc,Nat.add_comm 1 n]

/-- So a longer load begins with it. -/
theorem load_store_front (m : Nat → α) (a : Nat) {l : List α} {n : Nat} (h : l.length ≤ n) :
    ∃ rest, loadList (storeList m a l) a n = l ++ rest := by
  obtain ⟨k,rfl⟩ := Nat.exists_eq_add_of_le h
  refine ⟨loadList (storeList m a l) (a + l.length) k,?_⟩
  rw [load_list_add,load_store_list]

/-- A text stored with its NUL is the C string that is found there. -/
theorem cstr_store (m : Nat → Char) (a : Nat) {text : List Char} {n : Nat} (hnul : '\x00' ∉ text)
    (hn : text.length < n) :
    '\x00' ∈ loadList (storeList m a (text ++ ['\x00'])) a n ∧
      cstr (loadList (storeList m a (text ++ ['\x00'])) a n) = text := by
  have hlen : (text ++ ['\x00']).length ≤ n := by
    simp only [List.length_append,List.length_singleton]
    omega
  obtain ⟨rest,hrest⟩ := load_store_front m a hlen
  have hplain : ∀ c ∈ text, decide (c ≠ '\x00') = true := by
    intro c hc
    apply decide_eq_true
    rintro rfl
    exact hnul hc
  rw [hrest]
  refine ⟨by simp,?_⟩
  unfold cstr
  rw [List.append_assoc,List.takeWhile_append_of_pos hplain]
  simp

end Lib
