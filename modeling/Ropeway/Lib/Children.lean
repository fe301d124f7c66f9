import Mathlib.Data.List.Perm.Basic

/-! The children of a process. A child that has exited is a zombie until its parent waits
for it. SIGCHLD is one bit: several exits may leave a single signal. -/

namespace Lib

structure Children (ι : Type) where
  living : List ι
  zombies : List ι
  sigchld : Bool
  deriving DecidableEq, Repr

namespace Children
variable {ι : Type} {c c' : Children ι} {i : ι}

def none (ι : Type) : Children ι := ⟨[], [], false⟩

def all (c : Children ι) : List ι := c.living ++ c.zombies

def fork (c : Children ι) (i : ι) : Children ι := { c with living := c.living ++ [i] }

def hear (c : Children ι) : Children ι := { c with sigchld := false }

theorem fork_all (c : Children ι) (i : ι) : (c.fork i).all.Perm (i :: c.all) := by
  simp only [all,fork,List.append_assoc]
  exact List.perm_middle

variable [DecidableEq ι]

def exit (c : Children ι) (i : ι) : Option (Children ι) :=
  if i ∈ c.living then some ⟨c.living.erase i, c.zombies ++ [i], true⟩ else Option.none

def reap (c : Children ι) (i : ι) : Option (Children ι) :=
  if i ∈ c.zombies then some { c with zombies := c.zombies.erase i } else Option.none

theorem exit_some (h : c.exit i = some c') :
    i ∈ c.living ∧ c' = ⟨c.living.erase i, c.zombies ++ [i], true⟩ := by
  unfold exit at h
  split at h
  · rename_i hi
    cases h
    exact ⟨hi,rfl⟩
  · cases h

theorem reap_some (h : c.reap i = some c') :
    i ∈ c.zombies ∧ c' = { c with zombies := c.zombies.erase i } := by
  unfold reap at h
  split at h
  · rename_i hi
    cases h
    exact ⟨hi,rfl⟩
  · cases h

theorem exit_all (h : c.exit i = some c') : c'.all.Perm c.all := by
  obtain ⟨hi,rfl⟩ := exit_some h
  calc c.living.erase i ++ (c.zombies ++ [i])
      _ = c.living.erase i ++ c.zombies ++ [i] := (List.append_assoc _ _ _).symm
      List.Perm _ (i :: (c.living.erase i ++ c.zombies)) := List.perm_append_singleton _ _
      List.Perm _ (c.living ++ c.zombies) := ((List.perm_cons_erase hi).append_right _).symm

theorem reap_all (h : c.reap i = some c') : c.all.Perm (i :: c'.all) := by
  obtain ⟨hi,rfl⟩ := reap_some h
  calc c.living ++ c.zombies
      List.Perm _ (c.living ++ i :: c.zombies.erase i) := (List.perm_cons_erase hi).append_left _
      List.Perm _ (i :: (c.living ++ c.zombies.erase i)) := List.perm_middle

theorem exit_count (h : c.exit i = some c') :
    c'.living.length + 1 = c.living.length ∧ c'.zombies.length = c.zombies.length + 1 := by
  obtain ⟨hi,rfl⟩ := exit_some h
  have hpos := List.length_pos_of_mem hi
  simp only [List.length_erase_of_mem hi,List.length_append,List.length_singleton]
  exact ⟨by omega,trivial⟩

theorem reap_count (h : c.reap i = some c') :
    c'.living = c.living ∧ c'.zombies.length + 1 = c.zombies.length := by
  obtain ⟨hi,rfl⟩ := reap_some h
  have hpos := List.length_pos_of_mem hi
  simp only [List.length_erase_of_mem hi]
  exact ⟨trivial,by omega⟩

/-- A zombie can be waited for. -/
theorem exists_reap (h : c.zombies ≠ []) : ∃ i c', c.reap i = some c' := by
  obtain ⟨i,hi⟩ := List.exists_mem_of_ne_nil _ h
  exact ⟨i,_,if_pos hi⟩

end Children
end Lib
