import Mathlib.Data.List.Basic
import Mathlib.Order.MinMax

/-! System V message queues: one list of messages in the order they were sent,
read by message type. -/

namespace Lib

variable {μ : Type}

def takeFirst (p : μ → Bool) : List μ → Option (μ × List μ)
  | [] => none
  | m :: q => if p m then some (m,q) else (takeFirst p q).map (fun (x,r) => (x,m :: r))

def lowestType (mtype : μ → Nat) (bound : Nat) (q : List μ) : Option Nat :=
  (q.map mtype).filter (· ≤ bound) |>.min?

/-- `msgrcv` without `IPC_NOWAIT`: `none` means the caller blocks. Type 0 takes
the oldest message, a positive type the oldest of that type, a negative type the
oldest message of the lowest type not above its absolute value. -/
def msgrcv (mtype : μ → Nat) (q : List μ) (typ : Int) : Option (μ × List μ) :=
  if typ = 0 then takeFirst (fun _ => true) q
  else if 0 < typ then takeFirst (fun m => mtype m == typ.toNat) q
  else
    match lowestType mtype typ.natAbs q with
    | none => none
    | some k => takeFirst (fun m => mtype m == k) q

/-- What is taken satisfies the test, nothing before it does, and the rest of
the queue keeps its order. -/
theorem take_first_some {p : μ → Bool} {q r : List μ} {m : μ}
    (h : takeFirst p q = some (m,r)) :
    ∃ a b, q = a ++ m :: b ∧ r = a ++ b ∧ p m = true ∧ ∀ x ∈ a, p x = false := by
  induction q generalizing r with
  | nil => simp [takeFirst] at h
  | cons x q ih =>
    simp only [takeFirst] at h
    split at h
    · rename_i hp
      simp only [Option.some.injEq,Prod.mk.injEq] at h
      obtain ⟨rfl,rfl⟩ := h
      exact ⟨[],q,rfl,rfl,hp,by simp⟩
    · rename_i hp
      obtain ⟨⟨y,s⟩,hy,he⟩ := Option.map_eq_some_iff.mp h
      simp only [Prod.mk.injEq] at he
      obtain ⟨rfl,rfl⟩ := he
      obtain ⟨a,b,rfl,rfl,hm,ha⟩ := ih hy
      refine ⟨x :: a,b,rfl,rfl,hm,?_⟩
      intro z hz
      rcases List.mem_cons.mp hz with rfl | hz
      · simpa using hp
      · exact ha z hz

theorem take_first_none {p : μ → Bool} {q : List μ} (h : takeFirst p q = none) :
    ∀ x ∈ q, p x = false := by
  induction q with
  | nil => simp
  | cons x q ih =>
    simp only [takeFirst] at h
    split at h
    · cases h
    · rename_i hp
      intro y hy
      rcases List.mem_cons.mp hy with rfl | hy
      · simpa using hp
      · exact ih (by simpa using h) y hy

/-- A receive with type 0 takes the oldest message. -/
theorem msgrcv_any {mtype : μ → Nat} {q r : List μ} {m : μ}
    (h : msgrcv mtype q 0 = some (m,r)) : q = m :: r := by
  cases q with
  | nil => cases h
  | cons x q =>
    simp only [msgrcv,takeFirst,if_true,Option.some.injEq,Prod.mk.injEq] at h
    rw [h.1,h.2]

/-- A receive with a positive type. -/
theorem msgrcv_type {mtype : μ → Nat} {q : List μ} {k : Nat} (hk : 0 < k) :
    msgrcv mtype q k = takeFirst (fun m => mtype m == k) q := by
  have h0 : k ≠ 0 := by omega
  simp [msgrcv,h0,hk]

/-- What such a receive takes out has that type, and the rest keeps its order. -/
theorem msgrcv_split {mtype : μ → Nat} {q r : List μ} {k : Nat} {m : μ} (hk : 0 < k)
    (h : msgrcv mtype q k = some (m,r)) :
    ∃ a b, q = a ++ m :: b ∧ r = a ++ b ∧ mtype m = k ∧ ∀ x ∈ a, mtype x ≠ k := by
  rw [msgrcv_type hk] at h
  obtain ⟨a,b,hq,hr,hm,ha⟩ := take_first_some h
  refine ⟨a,b,hq,hr,by simpa using hm,?_⟩
  intro x hx
  simpa using ha x hx

/-- The receive blocks when no message has the type. -/
theorem msgrcv_none {mtype : μ → Nat} {q : List μ} {k : Nat} (hk : 0 < k)
    (h : ∀ x ∈ q, mtype x ≠ k) : msgrcv mtype q k = none := by
  rw [msgrcv_type hk]
  cases ht : takeFirst (fun m => mtype m == k) q with
  | none => rfl
  | some p =>
    obtain ⟨a,b,hq,-,hm,-⟩ := take_first_some ht
    have hmem : p.1 ∈ q := by simp [hq]
    exact absurd (by simpa using hm) (h p.1 hmem)

/-- What a receive with a negative type takes out is the oldest message of its type,
and no message within the bound has a lower type. -/
theorem msgrcv_lowest {mtype : μ → Nat} {q r : List μ} {typ : Int} {m : μ} (ht : typ < 0)
    (h : msgrcv mtype q typ = some (m,r)) :
    ∃ a b, q = a ++ m :: b ∧ r = a ++ b ∧ (∀ x ∈ a, mtype x ≠ mtype m) ∧
      ∀ x ∈ q, mtype x ≤ typ.natAbs → mtype m ≤ mtype x := by
  have h0 : typ ≠ 0 := by omega
  have h1 : ¬0 < typ := by omega
  simp only [msgrcv,if_neg h0,if_neg h1] at h
  split at h
  · cases h
  · rename_i k hk
    obtain ⟨a,b,hq,hr,hm,ha⟩ := take_first_some h
    have hmk : mtype m = k := by simpa using hm
    refine ⟨a,b,hq,hr,?_,?_⟩
    · intro x hx
      simpa [hmk] using ha x hx
    · intro x hx hle
      rw [hmk]
      refine (List.min?_eq_some_iff.mp hk).2 (mtype x) ?_
      exact List.mem_filter.mpr ⟨List.mem_map_of_mem hx,by simpa using hle⟩

end Lib
