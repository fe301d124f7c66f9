import Ropeway.Emergency
import Ropeway.Handshake.Summons

/-! The initiator of an emergency: the lock, the flag `g_is_emergency_initiator` and the
start time that is zero while there is none. -/

namespace Ropeway.Handshake
open Function (update)
variable {f : Faults} {v v' : Protocol} {r : Role}

/-- The holder of the lock is about to note that it is the initiator, has done so, or has been
called into an acknowledgement. There it stays, for the other party cannot offer to resume. -/
def Led (v : Protocol) : Prop :=
  ∀ r, v.held r = true →
    v.phase r = .stamping ∨ v.initiator r = true ∨ v.phase r = .stopping ∨ v.phase r = .waiting

theorem Led.own (h : Led v) (x : Exclusive v) (s : Session v) (m : Move f r v v')
    (hr : v'.held r = true) : v'.phase r = .stamping ∨ v'.initiator r = true ∨
      v'.phase r = .stopping ∨ v'.phase r = .waiting := by
  cases m with
  | rest => exact h r hr
  | win => exact .inl (by simp)
  | stamp => exact .inr (.inl (by simp))
  | heed | stray => exact .inr (.inr (.inl (by simp)))
  | mark => exact .inr (.inr (.inr (by simp)))
  | retreat | release => simp at hr
  | take hp got =>
    obtain ⟨-,-,hother,-⟩ := s.take hp got
    rw [(x.only hr).2] at hother
    cases hother
  | finish hp =>
    rw [x.done r hp] at hr
    cases hr
  | reopen hp => exact h r hr
  | alarm hp | ready hp | raise hp | call hp | answer hp | clear hp | back hp | enter hp | offer hp
  | hear hp =>
    rcases h r hr with hs | hs | hs | hs
    · simp [hp] at hs
    · exact .inr (.inl hs)
    · simp [hp] at hs
    · simp [hp] at hs

/-- A move of `r` says nothing about the lock of the other party. -/
theorem Move.held_other (m : Move f r v v') : v'.held r.other = v.held r.other := by
  cases m <;> simp

theorem Led.move (h : Led v) (x : Exclusive v) (s : Session v) (m : Move f r v v') : Led v' := by
  refine r.both (h.own x s m) ?_
  intro hr
  rw [m.held_other] at hr
  rw [m.frame.phase,m.frame.initiator]
  exact h r.other hr

theorem Led.turn (h : Led v) (x : Exclusive v) (s : Session v) (hf : ∀ r, ¬f.fails r)
    (t : Turn f v v') : Led v' := by
  cases t with
  | move r m => exact h.move x s m
  | signal | handle => exact h
  | fail r ok => exact absurd ok (hf r)

theorem start_led : Led start := by
  intro r hr
  cases hr

end Ropeway.Handshake

namespace Ropeway
open Handshake
variable {n : Nat} {s : Sys n} {u : Setup n} {tr : List (Sys n × Act n)}

/-- A worker that evaluates `g_is_emergency_initiator && g_emergency_start_time_sim > 0` finds it
true exactly when it has acquired `SEM_EMERGENCY_LOCK` and not released it. -/
def TestsLock (tr : List (Sys n × Act n)) (s : Sys n) : Prop :=
  ∀ r, (s.worker r).pc = .checkInitiator →
    ((s.worker r).isInitiator = true ∧ 0 < (s.worker r).emergencyStart ↔ (ledger tr).held r = true)

theorem run_led {rules : List (Env n)} (hlow : triggerUninterrupted .lower ∈ rules)
    (hup : triggerUninterrupted .upper ∈ rules) (h : Runs rules u tr s) :
    Exclusive (protocol tr s) ∧ Session (protocol tr s) ∧ Led (protocol tr s) := by
  have ok := never_fails hlow hup
  refine run_session Led ok start_led ?_ h
  intro tr s a v' x hs hl allowed t
  exact hl.turn x hs (ok tr s a allowed) t

/-- When no wait inside `worker_trigger_emergency_stop` is interrupted and no emergency begins at
the time 0, the loop test tells who holds the lock. -/
theorem tests_lock
    (h : Runs [triggerUninterrupted .lower,triggerUninterrupted .upper,noZeroStart] u tr s) :
    TestsLock tr s := by
  obtain ⟨x,-,hl⟩ := run_led (by simp) (by simp) h
  have hdated := run_dated (by simp) h
  intro r hp
  have hphase : (protocol tr s).phase r = .loop := view_phase _ hp
  constructor
  · intro htest
    exact x.init r htest.1 (by rw [hphase]; decide)
  · intro hheld
    have hinit : (s.worker r).isInitiator = true := by
      rcases hl r hheld with hs | hs | hs | hs
      · rw [hphase] at hs
        cases hs
      · exact hs
      · rw [hphase] at hs
        cases hs
      · rw [hphase] at hs
        cases hs
    exact ⟨hinit,hdated r hinit⟩

def dangerBelow : List (Act 1) := reachPlatform 0 ++ alarmed .lower 21

theorem tests_lock_initiator : ∃ tr s,
    Runs [triggerUninterrupted .lower,triggerUninterrupted .upper,noZeroStart] (sample 1) tr s ∧
      (s.worker .lower).pc = .checkInitiator ∧ (ledger tr).held .lower = true ∧ TestsLock tr s := by
  have hr : reaches [triggerUninterrupted .lower,triggerUninterrupted .upper,noZeroStart] (sample 1)
      dangerBelow (fun tr s => (s.worker .lower).pc == .checkInitiator && (ledger tr).held .lower) = true := by
    decide +kernel
  obtain ⟨tr,s,h,ht⟩ := exists_run hr
  simp only [Bool.and_eq_true,beq_iff_eq] at ht
  exact ⟨tr,s,h,ht.1,ht.2,tests_lock h⟩

/-- After an emergency above, the lower worker meets a danger of its own. Its SIGUSR2 comes while
it waits for `SEM_STATE` with the lock taken: it gives the lock back and remains the initiator. -/
def interruptedStart : List (Act 3) :=
  rideAlone 0 ++ walks 0 1 ++ alarmed .upper 13 ++ [.deliver .lower .usr1] ++ safe .lower 4 ++
    safe .upper 4 ++ safe .lower 5 ++ safe .upper 11 ++ reachPlatform 1 ++
    walks 2 1 ++ List.replicate 7 .cashier ++ walks 2 5 ++ alarmed .lower 15 ++ walks 2 1 ++
    [.sleep .lower, .deliver .lower .usr2] ++ safe .lower 3

/-- An interrupted start leaves an initiator without the lock, and an emergency that begins at
the time 0 a holder of the lock whose test fails. -/
theorem test_misses_lock :
    (∃ tr s, Runs [beforeShutdown,workersOnly] (sample 3) tr s ∧ ¬TestsLock tr s) ∧
      ∃ tr s, Runs [beforeShutdown,workersOnly,noFailingSemop] midnight tr s ∧ ¬TestsLock tr s := by
  constructor
  · have hr : reaches [beforeShutdown,workersOnly] (sample 3) interruptedStart (fun tr s =>
        (s.worker .lower).pc == .checkInitiator && (s.worker .lower).isInitiator &&
          decide (0 < (s.worker .lower).emergencyStart) && !(ledger tr).held .lower) = true := by
      decide +kernel
    obtain ⟨tr,s,h,ht⟩ := exists_run hr
    simp only [Bool.and_eq_true,beq_iff_eq,decide_eq_true_eq,Bool.not_eq_true'] at ht
    obtain ⟨⟨⟨hp,hinit⟩,hpos⟩,hfree⟩ := ht
    refine ⟨tr,s,h,?_⟩
    intro htest
    rw [(htest .lower hp).1 ⟨hinit,hpos⟩] at hfree
    cases hfree
  · have hr : reaches [beforeShutdown,workersOnly,noFailingSemop] midnight dangerBelow (fun tr s =>
        (s.worker .lower).pc == .checkInitiator && (s.worker .lower).emergencyStart == 0 &&
          (ledger tr).held .lower) = true := by
      decide +kernel
    obtain ⟨tr,s,h,ht⟩ := exists_run hr
    simp only [Bool.and_eq_true,beq_iff_eq] at ht
    obtain ⟨⟨hp,hzero⟩,hheld⟩ := ht
    refine ⟨tr,s,h,?_⟩
    intro htest
    have hpos := ((htest .lower hp).2 hheld).2
    rw [hzero] at hpos
    cases hpos

end Ropeway
