import Mathlib.Logic.Function.Basic

/-! Named objects with ids that are never given out twice: exclusive creation and lookup
by name, removal by id. -/

namespace Lib
open Function (update)

/-- At most one object under each name. Ids from `next` on are unused. -/
structure Registry (κ : Type) where
  table : κ → Option Nat
  next : Nat
  used : ∀ {o id}, table o = some id → id < next
  inj : ∀ {o o' id}, table o = some id → table o' = some id → o = o'

namespace Registry
variable {κ : Type} {g g' : Registry κ} {o o' : κ} {id j : Nat}

def empty (κ : Type) (n : Nat) : Registry κ := ⟨fun _ => none,n,by simp,by simp⟩

def remove (g : Registry κ) (id : Nat) : Registry κ where
  table o := if g.table o = some id then none else g.table o
  next := g.next
  used := by
    intro o j h
    split at h
    · cases h
    · exact g.used h
  inj := by
    intro o o' j h h'
    split at h
    · cases h
    · split at h'
      · cases h'
      · exact g.inj h h'

@[simp] theorem remove_next : (g.remove id).next = g.next := rfl

theorem remove_gone (h : g.table o = some id) : (g.remove id).table o = none := by
  simp [remove,h]

theorem remove_other (h : g.table o ≠ some id) : (g.remove id).table o = g.table o := by
  simp [remove,h]

/-- What is left was there before. -/
theorem remove_left (h : (g.remove id).table o = some j) : g.table o = some j := by
  simp only [remove] at h
  split at h
  · cases h
  · exact h

theorem remove_never (g : Registry κ) (id : Nat) (o : κ) : (g.remove id).table o ≠ some id := by
  intro h
  simp only [remove] at h
  split at h
  · cases h
  · contradiction

/-- An id names one object. -/
theorem remove_ne (ho : g.table o = some id) (hne : o' ≠ o) :
    (g.remove id).table o' = g.table o' := by
  apply remove_other
  intro h
  exact hne (g.inj h ho)

variable [DecidableEq κ]

def add (g : Registry κ) (o : κ) : Registry κ where
  table := update g.table o (some g.next)
  next := g.next + 1
  used := by
    intro p id h
    by_cases hp : p = o
    · subst hp
      simp only [Function.update_self,Option.some.injEq] at h
      omega
    · rw [Function.update_of_ne hp] at h
      have hlt := g.used h
      omega
  inj := by
    -- An old object cannot have the new id.
    have hnew : ∀ p, g.table p ≠ some g.next := fun p h => Nat.lt_irrefl _ (g.used h)
    intro p q id hp hq
    by_cases hpo : p = o <;> by_cases hqo : q = o
    · rw [hpo,hqo]
    · subst hpo
      rw [Function.update_self] at hp
      rw [Function.update_of_ne hqo,← hp] at hq
      exact absurd hq (hnew q)
    · subst hqo
      rw [Function.update_self] at hq
      rw [Function.update_of_ne hpo,← hq] at hp
      exact absurd hp (hnew p)
    · rw [Function.update_of_ne hpo] at hp
      rw [Function.update_of_ne hqo] at hq
      exact g.inj hp hq

def create (g : Registry κ) (o : κ) : Option (Nat × Registry κ) :=
  if g.table o = none then some (g.next,g.add o) else none

@[simp] theorem add_table : (g.add o).table = update g.table o (some g.next) := rfl

@[simp] theorem add_next : (g.add o).next = g.next + 1 := rfl

theorem create_free (h : g.table o = none) : g.create o = some (g.next,g.add o) := by
  simp [create,h]

end Registry

end Lib
