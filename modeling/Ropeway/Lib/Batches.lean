import Ropeway.Lib.Queue
import Mathlib.Algebra.Order.Group.Multiset

/-! Items that set out in labelled batches and are counted off one by one. A batch is
gone with its last item. -/

namespace Lib

variable {κ ι : Type}

/-- A batch and its items that have not been counted off. -/
structure Batch (κ ι : Type) where
  label : κ
  waiting : List ι
  deriving DecidableEq

def Batch.items (g : Batch κ ι) : List (ι × κ) := g.waiting.map (fun i => (i,g.label))

def load (gs : List (Batch κ ι)) : Multiset (ι × κ) := (gs.flatMap Batch.items : List (ι × κ))

@[simp] theorem load_nil : load ([] : List (Batch κ ι)) = 0 := rfl

@[simp] theorem load_cons (g : Batch κ ι) (gs : List (Batch κ ι)) :
    load (g :: gs) = g.items + load gs := rfl

@[simp] theorem load_append (gs hs : List (Batch κ ι)) : load (gs ++ hs) = load gs + load hs := by
  simp [load]

theorem load_perm {gs hs : List (Batch κ ι)} (h : gs.Perm hs) : load gs = load hs :=
  Multiset.coe_eq_coe.mpr (h.flatMap_right _)

theorem mem_load {gs : List (Batch κ ι)} {i : ι} {k : κ} (h : (i,k) ∈ load gs) :
    ∃ g ∈ gs, g.label = k ∧ i ∈ g.waiting := by
  simp only [load,Multiset.mem_coe,List.mem_flatMap] at h
  obtain ⟨g,hg,hi⟩ := h
  obtain ⟨j,hj,he⟩ := List.mem_map.mp hi
  cases he
  exact ⟨g,hg,rfl,hj⟩

variable [DecidableEq ι]

def Batch.strike (g : Batch κ ι) (i : ι) : List (Batch κ ι) :=
  if g.waiting.erase i = [] then [] else [{ g with waiting := g.waiting.erase i }]

theorem load_strike_batch {g : Batch κ ι} {i : ι} (h : i ∈ g.waiting) :
    load (g.strike i) + {(i,g.label)} = g.items := by
  have hperm : (g.waiting.erase i ++ [i]).Perm g.waiting :=
    (List.perm_append_singleton i _).trans (List.perm_cons_erase h).symm
  have hitems : ((g.waiting.erase i).map (fun j => (j,g.label)) ++ [(i,g.label)]).Perm g.items := by
    simpa [Batch.items] using hperm.map (fun j => (j,g.label))
  unfold Batch.strike
  split
  · rename_i he
    rw [he] at hitems
    exact Multiset.coe_eq_coe.mpr hitems
  · rw [← Multiset.coe_eq_coe.mpr hitems,← Multiset.coe_add]
    simp [Batch.items]

variable [DecidableEq κ]

def batchOf (i : ι) (k : κ) (gs : List (Batch κ ι)) : Option (Batch κ ι × List (Batch κ ι)) :=
  takeFirst (fun g => g.label = k ∧ i ∈ g.waiting) gs

def strike (i : ι) (k : κ) (gs : List (Batch κ ι)) : List (Batch κ ι) :=
  match batchOf i k gs with
  | none => gs
  | some (g,rest) => g.strike i ++ rest

/-- An outstanding item has a batch, which is one of the given ones. -/
theorem exists_batch {gs : List (Batch κ ι)} {i : ι} {k : κ} (h : (i,k) ∈ load gs) :
    ∃ g rest, batchOf i k gs = some (g,rest) ∧ gs.Perm (g :: rest) ∧ g.label = k ∧
      i ∈ g.waiting := by
  obtain ⟨g,hg,hk,hi⟩ := mem_load h
  cases ho : batchOf i k gs with
  | none =>
    have hno := take_first_none ho g hg
    simp [hk,hi] at hno
  | some p =>
    obtain ⟨a,b,rfl,hr,hp,-⟩ := take_first_some ho
    simp only [decide_eq_true_eq] at hp
    refine ⟨p.1,p.2,rfl,?_,hp.1,hp.2⟩
    rw [hr]
    exact List.perm_middle

/-- Counting an item off takes it out of the load and nothing else. -/
theorem load_strike {gs : List (Batch κ ι)} {i : ι} {k : κ} (h : (i,k) ∈ load gs) :
    load (strike i k gs) + {(i,k)} = load gs := by
  obtain ⟨g,rest,ho,hp,rfl,hi⟩ := exists_batch h
  have hs : strike i g.label gs = g.strike i ++ rest := by simp [strike,ho]
  rw [hs,load_perm hp,load_append,load_cons,← load_strike_batch hi]
  exact add_right_comm _ _ _

end Lib
