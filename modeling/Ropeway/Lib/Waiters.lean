import Ropeway.Lib.Table

/-! Counted wake-ups: sleepers register in a counter and wait for a token, and a
releaser takes the counter and later posts that many tokens. Tokens have no owner. -/

namespace Lib

variable {ι ρ : Type}

section Headcount
variable [Fintype ι] {f g : ι → Bool} {i : ι}

def headcount (f : ι → Bool) : Nat := ∑ i, (f i).toNat

theorem headcount_mono (h : ∀ i, f i = true → g i = true) : headcount f ≤ headcount g := by
  apply Finset.sum_le_sum
  intro i _
  exact Bool.toNat_le_toNat (h i)

/-- Those that pass both tests, and those that pass the first only. -/
theorem headcount_split (f g : ι → Bool) :
    headcount f = headcount (fun i => f i && g i) + headcount (fun i => f i && !g i) := by
  unfold headcount
  rw [← Finset.sum_add_distrib]
  apply Finset.sum_congr rfl
  intro i _
  dsimp only
  cases f i <;> cases g i <;> rfl

variable [DecidableEq ι]

theorem headcount_insert (h : f i = false) :
    headcount (Function.update f i true) = headcount f + 1 := by
  have hup := sum_update Bool.toNat f i true
  rw [h] at hup
  exact hup

theorem headcount_remove (h : f i = true) :
    headcount (Function.update f i false) + 1 = headcount f := by
  have hup := sum_update Bool.toNat f i false
  rw [h] at hup
  exact hup

end Headcount

/-- Where a releaser is: `called` before it has taken the counter, `counted k` with `k`
tokens in its hand, `released` between posting them and its own end. -/
inductive Stage
  | away | called | counted (k : Nat) | released
  deriving DecidableEq, Repr

def Stage.hand : Stage → Nat
  | .counted k => k
  | _ => 0

def Stage.past : Stage → Bool
  | .counted _ | .released => true
  | _ => false

@[ext] structure Pool (ι ρ : Type) where
  tokens : Nat
  waiters : Nat
  stage : ρ → Stage
  registered : ι → Bool

/-- One step: `giveUp` is a sleeper that returns without a token, `skip` a releaser that
returns without having looked at the counter. -/
inductive Event (ι ρ : Type)
  | idle
  | register (i : ι) | wake (i : ι) | giveUp (i : ι)
  | call (r : ρ) | take (r : ρ) | post (r : ρ) | finish (r : ρ) | skip (r : ρ)

/-- The releases a sleeper has to do with: `early r i` while it has been registered since
before releaser `r` called, `late r i` if it registered after `r` took the counter. -/
structure Book (ι ρ : Type) where
  early : ρ → ι → Bool
  late : ρ → ι → Bool

def Book.empty : Book ι ρ := ⟨fun _ _ => false, fun _ _ => false⟩

def Pool.Enabled (p : Pool ι ρ) : Event ι ρ → Prop
  | .idle => True
  | .register i => p.registered i = false
  | .wake i => p.registered i = true ∧ 0 < p.tokens
  | .giveUp i => p.registered i = true
  | .call r => p.stage r = .away
  | .take r | .skip r => p.stage r = .called
  | .post r => (p.stage r).past = true
  | .finish r => p.stage r = .released

def hands [Fintype ρ] (stage : ρ → Stage) : Nat := ∑ r, (stage r).hand

/-- A releaser moves on and its hand changes. -/
theorem hands_move [Fintype ρ] [DecidableEq ρ] (stage : ρ → Stage) (r : ρ) (k : Stage) :
    hands (Function.update stage r k) + (stage r).hand = hands stage + k.hand :=
  sum_update Stage.hand stage r k

theorem hands_still [Fintype ρ] [DecidableEq ρ] {stage : ρ → Stage} {r : ρ} {k : Stage}
    (h : (stage r).hand = k.hand) : hands (Function.update stage r k) = hands stage := by
  have hm := hands_move stage r k
  omega

/-- Nobody gives up, no release is skipped, the counter is taken while every hand is
empty, and nobody takes a token that was counted out before it registered. -/
def Pool.Fair [Fintype ρ] (p : Pool ι ρ) (b : Book ι ρ) : Event ι ρ → Prop
  | .giveUp _ | .skip _ => False
  | .take _ => hands p.stage = 0
  | .wake i => ∀ r, (p.stage r).past = true → b.late r i = false
  | _ => True

variable [DecidableEq ι] [DecidableEq ρ]

def Pool.next (p : Pool ι ρ) : Event ι ρ → Pool ι ρ
  | .idle => p
  | .register i =>
    { p with waiters := p.waiters + 1, registered := Function.update p.registered i true }
  | .wake i => { p with tokens := p.tokens - 1, registered := Function.update p.registered i false }
  | .giveUp i => { p with registered := Function.update p.registered i false }
  | .call r => { p with stage := Function.update p.stage r .called }
  | .take r => { p with waiters := 0, stage := Function.update p.stage r (.counted p.waiters) }
  | .post r =>
    { p with
      tokens := p.tokens + (p.stage r).hand
      stage := Function.update p.stage r .released }
  | .finish r => { p with stage := Function.update p.stage r .away }
  | .skip r => { p with stage := Function.update p.stage r .released }

def Book.next (b : Book ι ρ) (p : Pool ι ρ) : Event ι ρ → Book ι ρ
  | .register i => { b with late := fun r => Function.update (b.late r) i (p.stage r).past }
  | .wake i | .giveUp i => { b with early := fun r => Function.update (b.early r) i false }
  | .call r => { b with early := Function.update b.early r p.registered }
  | .take r => { b with late := Function.update b.late r (fun _ => false) }
  | _ => b

variable [Fintype ι] [Fintype ρ] {p : Pool ι ρ} {b : Book ι ρ} {e : Event ι ρ}

/-- Every registered sleeper has a token, a place in the counter or a token in a hand. -/
def Pool.Exact (p : Pool ι ρ) : Prop := p.tokens + p.waiters + hands p.stage = headcount p.registered

theorem Pool.Exact.next (h : p.Exact) (hen : p.Enabled e) (hstay : ∀ i, e ≠ .giveUp i) :
    (p.next e).Exact := by
  unfold Pool.Exact at h ⊢
  cases e with
  | idle => exact h
  | register i =>
    have hc := headcount_insert hen
    simp only [Pool.next] at h hc ⊢
    omega
  | wake i =>
    have hc := headcount_remove hen.1
    have ht := hen.2
    simp only [Pool.next] at h hc ⊢
    omega
  | giveUp i => exact absurd rfl (hstay i)
  | call r | finish r | skip r =>
    simp only [Pool.next]
    rw [hands_still (by rw [show p.stage r = _ from hen]; rfl)]
    exact h
  | take r =>
    have hh := hands_move p.stage r (.counted p.waiters)
    rw [show p.stage r = _ from hen] at hh
    simp only [Pool.next,Stage.hand] at hh ⊢
    omega
  | post r =>
    have hh := hands_move p.stage r .released
    simp only [Pool.next,Stage.hand] at hh ⊢
    omega

/-- While a releaser is past its count, whoever has no token registered after it. -/
structure Balanced (p : Pool ι ρ) (b : Book ι ρ) : Prop where
  exact : p.Exact
  early : ∀ r i, b.early r i = true → p.registered i = true
  apart : ∀ r i, (p.stage r).past = true → b.early r i = true → b.late r i = false
  window : ∀ r, (p.stage r).past = true →
    p.waiters + hands p.stage ≤ headcount (fun i => p.registered i && b.late r i) + (p.stage r).hand

omit [DecidableEq ι] [DecidableEq ρ] in
/-- The sleepers that were there before a release have a token when it is over. -/
theorem Balanced.tokens (h : Balanced p b) {r : ρ} (hr : p.stage r = .released) :
    headcount (b.early r) ≤ p.tokens := by
  have hw := h.window r (by rw [hr]; rfl)
  have he := h.exact
  have hsplit := headcount_split p.registered (b.late r)
  have hmono : headcount (b.early r) ≤ headcount (fun i => p.registered i && !b.late r i) := by
    apply headcount_mono
    intro i hi
    simp [h.early r i hi,h.apart r i (by rw [hr]; rfl) hi]
  rw [hr] at hw
  simp only [Stage.hand] at hw
  unfold Pool.Exact at he
  omega

omit [DecidableEq ι] in
/-- A releaser moves on without touching the counter or a full hand. -/
theorem Balanced.stage (h : Balanced p b) {r : ρ} {k : Stage} {c : ρ → ι → Bool}
    (hk : (p.stage r).hand = k.hand) (hpast : k.past = true → (p.stage r).past = true)
    (hc : ∀ q i, c q i = true → b.early q i = true ∨ q = r ∧ k.past = false ∧ p.registered i = true) :
    Balanced { p with stage := Function.update p.stage r k } { b with early := c } := by
  have hh := hands_still hk
  have hstage : ∀ q, (Function.update p.stage r k q).past = true →
      (p.stage q).past = true ∧ (Function.update p.stage r k q).hand = (p.stage q).hand := by
    intro q hq
    by_cases hqr : q = r
    · subst hqr
      rw [Function.update_self] at hq ⊢
      exact ⟨hpast hq,hk.symm⟩
    · rw [Function.update_of_ne hqr] at hq ⊢
      exact ⟨hq,rfl⟩
  refine ⟨?_,?_,?_,?_⟩
  · have he := h.exact
    unfold Pool.Exact at he ⊢
    simp only [hh]
    exact he
  · intro q i hi
    rcases hc q i hi with ho | ⟨-,-,hn⟩
    · exact h.early q i ho
    · exact hn
  · intro q i hq hi
    rcases hc q i hi with ho | ⟨rfl,hn,-⟩
    · exact h.apart q i (hstage q hq).1 ho
    · simp only [Function.update_self,hn] at hq
      cases hq
  · intro q hq
    obtain ⟨hp,he⟩ := hstage q hq
    simp only [hh,he]
    exact h.window q hp

theorem Balanced.register {i : ι} (h : Balanced p b) (hexact : (p.next (.register i)).Exact)
    (hout : p.registered i = false) : Balanced (p.next (.register i)) (b.next p (.register i)) := by
  refine ⟨hexact,?_,?_,?_⟩
  · intro r j hj
    by_cases hji : j = i
    · subst hji
      exact Function.update_self ..
    · simp only [Pool.next,Function.update_of_ne hji]
      exact h.early r j hj
  · intro r j hr hj
    have hji : j ≠ i := by
      rintro rfl
      rw [h.early r j hj] at hout
      cases hout
    simp only [Book.next,Function.update_of_ne hji]
    exact h.apart r j hr hj
  · intro r hr
    have hnew : (fun j => (p.next (.register i)).registered j && (b.next p (.register i)).late r j) =
        Function.update (fun j => p.registered j && b.late r j) i true := by
      funext j
      by_cases hji : j = i
      · subst hji
        have hpast : (p.stage r).past = true := hr
        simp [Pool.next,Book.next,hpast]
      · simp [Pool.next,Book.next,hji]
    have hw := h.window r hr
    rw [hnew,headcount_insert (by simp [hout])]
    simp only [Pool.next] at hw ⊢
    omega

theorem Balanced.wake {i : ι} (h : Balanced p b) (hexact : (p.next (.wake i)).Exact)
    (hf : p.Fair b (.wake i)) : Balanced (p.next (.wake i)) (b.next p (.wake i)) := by
  refine ⟨hexact,?_,?_,?_⟩
  · intro r j hj
    by_cases hji : j = i
    · subst hji
      simp [Book.next] at hj
    · simp only [Book.next,Function.update_of_ne hji] at hj
      simp only [Pool.next,Function.update_of_ne hji]
      exact h.early r j hj
  · intro r j hr hj
    by_cases hji : j = i
    · subst hji
      simp [Book.next] at hj
    · simp only [Book.next,Function.update_of_ne hji] at hj
      exact h.apart r j hr hj
  · intro r hr
    -- The sleeper was not late, so it was not counted here.
    have hnew : (fun j => (p.next (.wake i)).registered j && (b.next p (.wake i)).late r j) =
        fun j => p.registered j && b.late r j := by
      funext j
      by_cases hji : j = i
      · subst hji
        simp [Book.next,hf r hr]
      · simp [Pool.next,Book.next,hji]
    rw [hnew]
    exact h.window r hr

theorem Balanced.take {r : ρ} (h : Balanced p b) (hexact : (p.next (.take r)).Exact)
    (hcalled : p.stage r = .called) (hzero : hands p.stage = 0) :
    Balanced (p.next (.take r)) (b.next p (.take r)) := by
  have hmove := hands_move p.stage r (.counted p.waiters)
  rw [hcalled] at hmove
  simp only [Stage.hand] at hmove
  refine ⟨hexact,h.early,?_,?_⟩
  · intro q j hq hj
    by_cases hqr : q = r
    · subst hqr
      simp [Book.next]
    · simp only [Pool.next,Function.update_of_ne hqr] at hq
      simp only [Book.next,Function.update_of_ne hqr]
      exact h.apart q j hq hj
  · intro q hq
    by_cases hqr : q = r
    · subst hqr
      simp only [Pool.next,Function.update_self,Stage.hand]
      omega
    · simp only [Pool.next,Function.update_of_ne hqr] at hq
      have hw := h.window q hq
      simp only [Pool.next,Book.next,Function.update_of_ne hqr]
      omega

theorem Balanced.post {r : ρ} (h : Balanced p b) (hexact : (p.next (.post r)).Exact)
    (hpast : (p.stage r).past = true) : Balanced (p.next (.post r)) (b.next p (.post r)) := by
  have hmove : hands (Function.update p.stage r .released) + (p.stage r).hand = hands p.stage :=
    hands_move p.stage r .released
  refine ⟨hexact,h.early,?_,?_⟩
  · intro q j hq hj
    by_cases hqr : q = r
    · subst hqr
      exact h.apart q j hpast hj
    · simp only [Pool.next,Function.update_of_ne hqr] at hq
      exact h.apart q j hq hj
  · intro q hq
    by_cases hqr : q = r
    · subst hqr
      have hw := h.window q hpast
      have hhand : Stage.released.hand = 0 := rfl
      simp only [Pool.next,Book.next,Function.update_self]
      omega
    · simp only [Pool.next,Function.update_of_ne hqr] at hq
      have hw := h.window q hq
      simp only [Pool.next,Book.next,Function.update_of_ne hqr]
      omega

theorem Balanced.next (h : Balanced p b) (hen : p.Enabled e) (hf : p.Fair b e) :
    Balanced (p.next e) (b.next p e) := by
  have hexact : (p.next e).Exact := by
    apply h.exact.next hen
    rintro i rfl
    exact hf
  cases e with
  | idle => exact h
  | giveUp i | skip r => exact absurd hf id
  | call r =>
    apply h.stage (by rw [show p.stage r = _ from hen]; rfl) (by simp [Stage.past])
    intro q i hq
    by_cases hqr : q = r
    · subst hqr
      rw [Function.update_self] at hq
      exact .inr ⟨rfl,rfl,hq⟩
    · rw [Function.update_of_ne hqr] at hq
      exact .inl hq
  | finish r =>
    exact h.stage (by rw [show p.stage r = _ from hen]; rfl) (by simp [Stage.past]) fun _ _ => .inl
  | register i => exact h.register hexact hen
  | wake i => exact h.wake hexact hf
  | take r => exact h.take hexact hen hf
  | post r => exact h.post hexact hen

end Lib
