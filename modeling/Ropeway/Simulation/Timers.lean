import Ropeway.Simulation.Roster

/-! The timers of 100 ms (`ualarm`) that the two workers arm before a `pause()`. -/

namespace Ropeway
open Function (update)

variable {n : Nat} {s s' : Sys n} {w w' : World n} {e : Event n} {u : Setup n} {tr : WorldTrace n}

/-- The 100 ms that a worker sets with `ualarm` before its `pause()` do not run out before the
worker is asleep there. -/
def timersHeld : WorldEnv n := fun _ w e =>
  match e with
  | .act (.deliver r .alrm) => (w.sys.worker r).pc != .pause || (w.sys.worker r).asleep
  | _ => true

def Armed (s : Sys n) : Prop := ∀ r, (s.worker r).pc = .pause → (s.worker r).alarm = true

theorem lower_no_pause {p : LowerPc} {x : Nat} (h : lowerWorkerMain s x p = some s') :
    (s'.worker .lower).pc ≠ .pause := by
  cases p with
  | checkWait | recheckWait =>
    obtain ⟨t,-,rfl⟩ := Option.map_eq_some_iff.mp h
    simp
  | receive =>
    obtain ⟨⟨m,q⟩,-,rfl⟩ := Option.map_eq_some_iff.mp h
    simp
  | checkPost | recheckPost | place =>
    simp only [lowerWorkerMain] at h
    repeat' split at h
    all_goals
      cases h
      simp [Sys.enterAck]
  | dispatchWait site =>
    simp only [lowerWorkerMain] at h
    split at h
    · cases h
      cases site <;> simp [afterDispatch]
    · obtain ⟨t,-,rfl⟩ := Option.map_eq_some_iff.mp h
      simp
  | dispatchSend site i =>
    simp only [lowerWorkerMain] at h
    split at h <;> cases h
    · simp
    · cases site <;> simp [afterDispatch]
  | _ =>
    cases h
    simp [requeuePlatform]

theorem upper_no_pause {p : UpperPc} (h : upperWorkerMain s p = some s') : (s'.worker .upper).pc ≠ .pause := by
  cases p with
  | receive =>
    obtain ⟨⟨m,q⟩,-,rfl⟩ := Option.map_eq_some_iff.mp h
    simp
  | track =>
    simp only [upperWorkerMain] at h
    repeat' split at h
    all_goals
      cases h
      simp
  | release =>
    cases h
    simp

theorem emergency_no_pause {pc : WorkerPc} (h : inEmergency pc = true) : pc ≠ .pause := by
  intro he
  rw [he] at h
  cases h

/-- A worker gets to its `pause()` from the call that arms the timer. -/
theorem worker_armed {r : Role} {x : Nat} (hown : ownPc r (s.worker r).pc = true)
    (h : workerStep s r x = some s') (hp : (s'.worker r).pc = .pause) : (s'.worker r).alarm = true := by
  cases worker_runs h with
  | danger _ hs =>
    rw [hs] at hp
    exact absurd hp (emergency_no_pause (danger_pc r s x))
  | trigger _ hs => exact absurd hp (emergency_no_pause (trigger_pc hs))
  | ack _ hs => exact absurd hp (emergency_no_pause (ack_pc hs))
  | resume _ hs => exact absurd hp (emergency_no_pause (resume_pc hs))
  | lower hpc hs =>
    obtain rfl := own_lower hown hpc
    exact absurd hp (lower_no_pause hs)
  | upper hpc hs =>
    obtain rfl := own_upper hown hpc
    exact absurd hp (upper_no_pause hs)
  | @head p _ _ hs =>
    cases p with
    | pauseArm =>
      cases hs
      simp
    | top =>
      simp only [workerLoopHead] at hs
      repeat' split at hs
      all_goals
        cases hs
        simp [Sys.enterAck] at hp
    | checkInitiator =>
      simp only [workerLoopHead] at hs
      repeat' split at hs
      all_goals
        cases hs
        simp at hp
    | checkResume =>
      cases hs
      simp at hp
    | _ => cases hs

theorem wake_no_pause (l : LowerLocals) (pc : WorkerPc) : wakePc l pc ≠ .pause := by
  unfold wakePc
  repeat' split
  all_goals simp_all

theorem Armed.setWorker (h : Armed s) {r : Role} {k : Worker} {l : LowerLocals}
    (hk : k.pc = .pause → k.alarm = true) : Armed ({ s with lower := l }.setWorker r k) := by
  refine r.both (by simpa using hk) ?_
  simpa using h r.other

theorem failure_no_pause {r : Role} {x : Errno} (hown : ownPc r (s.worker r).pc = true)
    (h : workerFailure s r x = some s') : (s'.worker r).pc ≠ .pause := by
  unfold workerFailure at h
  split at h
  case h_11 p hp =>
    obtain rfl := own_lower hown hp
    cases p <;> simp only [lowerFailure,reduceCtorEq] at h
    case dispatchWait site | dispatchSend site i =>
      cases h
      cases site <;> simp [afterDispatch]
    all_goals cases x <;> cases h <;> simp
  case h_12 => cases x <;> cases h <;> simp
  case h_13 => cases h
  all_goals
    cases h
    simp [Sys.enterAck]

theorem Armed.deliver {r : Role} {sig : Signal} (h : Armed s) (hown : ownPc r (s.worker r).pc = true)
    (held : sig = .alrm → (s.worker r).pc = .pause → (s.worker r).asleep = true)
    (hs : deliverSignal s r sig = some s') : Armed s' := by
  obtain ⟨k,hk,⟨hwake,rfl⟩ | ⟨hwake,al,rfl⟩⟩ := deliver_eq hown hs
  · refine h.setWorker (l := s.lower) ?_
    intro hp
    rw [(handler_frame hk).1] at hp
    cases sig with
    | alrm => simp [wakes,held rfl hp] at hwake
    | cont =>
      cases hk
      exact h r hp
    | usr1 | usr2 =>
      simp only [handler] at hk
      split at hk <;> cases hk
      exact h r hp
  · exact h.setWorker (l := s.lower) fun hp => absurd hp (wake_no_pause _ _)

theorem Armed.act {a : Act n} (h : Armed s) (hown : ∀ r, ownPc r (s.worker r).pc = true)
    (held : ∀ r, a = .deliver r .alrm → (s.worker r).pc = .pause → (s.worker r).asleep = true)
    (hs : step s a = some s') : Armed s' := by
  by_cases ho : a.outside = true
  · intro r
    rw [(outside_same ho hs).worker]
    exact h r
  · cases a with
    | worker r x =>
      refine r.both (worker_armed (hown r) hs) ?_
      obtain ⟨a,b,hpeer⟩ := worker_peer (hown r) hs
      rw [hpeer]
      exact h r.other
    | sleep r =>
      simp only [step] at hs
      split at hs <;> cases hs
      exact h.setWorker (l := s.lower) (h r)
    | deliver r sig => exact h.deliver (hown r) (fun hsig => held r (by rw [hsig])) hs
    | kill r sig =>
      obtain ⟨k,hk,rfl⟩ := Option.map_eq_some_iff.mp hs
      cases sig <;> cases hk <;> exact h.setWorker (l := s.lower) (h r)
    | _ => exact absurd rfl ho

theorem Armed.step (h : Armed w.sys) (hown : ∀ r, ownPc r (w.sys.worker r).pc = true)
    (held : timersHeld tr w e = true) (hs : w.step e = some w') : Armed w'.sys := by
  cases he : e.ofMain with
  | true =>
    obtain ⟨b,c,hsys⟩ := (main_only he hs).sys
    rw [hsys]
    exact h
  | false =>
    cases e with
    | main | mainSleep | mainSignal => cases he
    | act a =>
      refine h.act hown ?_ (act_allowed hs).2
      rintro r rfl hp
      simpa [timersHeld,hp] using held
    | fail r x =>
      simp only [World.step] at hs
      split at hs
      · obtain ⟨s,hf,rfl⟩ := Option.map_eq_some_iff.mp hs
        have hne := failure_no_pause (hown r) hf
        obtain ⟨k,l,rfl,-⟩ := worker_failure (hown r) hf
        exact h.setWorker fun hp => absurd hp (by simpa using hne)
      · cases hs
    | boot p ok =>
      simp only [World.step] at hs
      split at hs
      · cases hs
        unfold World.bootChild
        split
        · exact h
        · cases p with
          | worker r => exact h.setWorker (l := w.sys.lower) (by simp)
          | _ => exact h
      · cases hs
    | term p =>
      simp only [World.step] at hs
      split at hs
      · cases hs
        cases p with
        | worker r =>
          simp only [World.termChild]
          split
          · obtain ⟨al,he⟩ := interrupted_eq (hown r)
            rw [he]
            exact h.setWorker (l := w.sys.lower) fun hp => absurd hp (wake_no_pause _ _)
          · exact h
        | _ => exact h
      · cases hs
    | quit r =>
      simp only [World.step] at hs
      split at hs <;> cases hs
      cases r <;> exact h.setWorker (l := w.sys.lower) (by simp)
    | time ms =>
      simp only [World.step] at hs
      split at hs
      · cases hp : w.timeServer <;> simp only [World.timeStep,hp,reduceCtorEq] at hs
        case firstUpdate | update =>
          obtain ⟨s,ht,rfl⟩ := Option.map_eq_some_iff.mp hs
          exact h.act hown (by simp) ht
        all_goals
          try split at hs
          all_goals
            cases hs
            exact h
      · cases hs
    | spawner | reaper | exit | leave =>
      simp only [World.step] at hs
      split at hs
      · obtain ⟨g,-,rfl⟩ := Option.map_eq_some_iff.mp hs
        exact h
      · cases hs

theorem run_armed (h : WorldRuns timersHeld u tr w) : Armed w.sys :=
  world_invariant (fun _ w => Armed w.sys) (by simp [Armed,Setup.world,Setup.start,Worker.init])
    (fun _ _ _ _ hown hi held hs => hi.step hown held hs) h

end Ropeway
