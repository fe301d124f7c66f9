import Ropeway.Frames.Workers

/-! What a step of a worker does to the record of its own emergency: the initiator flag and
the start time. -/

namespace Ropeway
variable {n : Nat} {s s' t : Sys n} {r : Role}

/-- `worker_initiate_resume` up to the answer. -/
def resuming : WorkerPc → Bool
  | .resume .send | .resume .receive => true
  | _ => false

/-- The worker has not become an initiator, the start of its emergency is the same, and it has
gone on to resume only an emergency that has one. -/
structure SameStart (r : Role) (s s' : Sys n) : Prop where
  init : (s'.worker r).isInitiator = true → (s.worker r).isInitiator = true
  start : (s'.worker r).emergencyStart = (s.worker r).emergencyStart
  resume : resuming (s'.worker r).pc = true →
    resuming (s.worker r).pc = true ∨ 0 < (s.worker r).emergencyStart

theorem SameStart.setWorker {w : Worker} (hi : w.isInitiator = true → (s.worker r).isInitiator = true)
    (hs : w.emergencyStart = (s.worker r).emergencyStart) (hp : resuming w.pc = false) :
    SameStart r s (t.setWorker r w) := by
  refine ⟨by simpa using hi,by simpa using hs,?_⟩
  simp [hp]

theorem SameStart.goto (h : t.worker r = s.worker r) {pc : WorkerPc} (hp : resuming pc = false) :
    SameStart r s (t.goto r pc) :=
  .setWorker (by simp [h]) (by simp [h]) hp

theorem SameStart.enterAck (h : t.worker r = s.worker r) : SameStart r s (t.enterAck r) :=
  .setWorker (by simp) (by simp [h]) rfl

theorem trigger_same {p : TriggerPc} (hp : p ≠ .stamp)
    (h : workerTriggerEmergencyStop r s p = some s') : SameStart r s s' := by
  cases p with
  | stamp => exact absurd rfl hp
  | tryWait =>
    simp only [workerTriggerEmergencyStop] at h
    split at h
    · cases h
      exact .enterAck rfl
    · rename_i t hw
      obtain ⟨-,rfl⟩ := sem_wait_some hw
      cases h
      exact .goto (by rfl) rfl
  | waitState =>
    obtain ⟨-,rfl⟩ := sem_wait_map h
    exact .goto (by rfl) rfl
  | kill =>
    cases h
    exact .goto (by simp) rfl
  | setFlag | postState | unlock =>
    cases h
    exact .goto (by rfl) rfl

theorem ack_same {p : AckPc} (h : workerAcknowledgeEmergencyStop r s p = some s') : SameStart r s s' := by
  cases p with
  | waitState | waitClear =>
    obtain ⟨-,rfl⟩ := sem_wait_map h
    exact .goto (by rfl) rfl
  | receive =>
    obtain ⟨m,hm,rfl⟩ := Option.map_eq_some_iff.mp h
    exact .goto (by rfl) rfl
  | setFlag | postState | send | clear | postClear =>
    cases h
    exact .goto (by rfl) rfl

theorem resume_same {p : ResumePc} (hpc : (s.worker r).pc = .resume p) (hp : p ≠ .finish)
    (h : workerInitiateResume r s p = some s') : SameStart r s s' := by
  cases p with
  | finish => exact absurd rfl hp
  | send =>
    cases h
    exact ⟨by simp,by simp,fun _ => .inl (by rw [hpc]; rfl)⟩
  | waitState | releaseWait =>
    obtain ⟨-,rfl⟩ := sem_wait_map h
    exact .goto (by rfl) rfl
  | receive =>
    obtain ⟨m,hm,rfl⟩ := Option.map_eq_some_iff.mp h
    exact .goto (by rfl) rfl
  | kill =>
    cases h
    exact .goto (by simp) rfl
  | clear | postState | releaseTake | releasePost | releaseTokens | unlock =>
    cases h
    exact .goto (by rfl) rfl

theorem head_same {p : WorkerPc} (h : workerLoopHead r s p = some s') : SameStart r s s' := by
  cases p with
  | top =>
    simp only [workerLoopHead] at h
    split at h
    · cases r with
      | lower | upper =>
        cases h
        exact .goto (by rfl) rfl
    · split at h
      · cases h
        exact .setWorker (by simp) (by simp) rfl
      · cases h
        exact .goto (by rfl) rfl
  | checkResume | pauseArm =>
    cases h
    exact .setWorker id rfl rfl
  | checkInitiator =>
    simp only [workerLoopHead] at h
    split at h
    · rename_i hinit
      split at h
      · cases h
        exact ⟨by simp,by simp,fun _ => .inr hinit.2⟩
      · cases h
        exact .goto (by rfl) rfl
    · cases r with
      | lower | upper =>
        cases h
        exact .goto (by rfl) rfl
  | _ => cases h

theorem danger_same (r : Role) (s : Sys n) (x : Nat) : SameStart r s (checkForDanger r s x) := by
  simp only [checkForDanger]
  repeat' split
  all_goals first | exact .goto (by rfl) rfl | exact .setWorker id rfl rfl

theorem lower_same {p : LowerPc} {x : Nat} (h : lowerWorkerMain s x p = some s') :
    SameStart .lower s s' := by
  cases p with
  | checkWait | recheckWait =>
    obtain ⟨-,rfl⟩ := sem_wait_map h
    exact .goto (by rfl) rfl
  | checkRead | recheckRead | arm =>
    cases h
    exact .setWorker id rfl rfl
  | checkPost =>
    simp only [lowerWorkerMain] at h
    split at h
    · cases h
      exact .enterAck (by rfl)
    · cases h
      exact .goto (by rfl) rfl
  | recheckPost =>
    simp only [lowerWorkerMain] at h
    split at h
    all_goals
      cases h
      exact .goto (by rfl) rfl
  | receive =>
    obtain ⟨m,hm,rfl⟩ := Option.map_eq_some_iff.mp h
    exact .setWorker id rfl rfl
  | requeueStop | requeue =>
    cases h
    exact .goto (by rfl) rfl
  | place =>
    simp only [lowerWorkerMain] at h
    repeat' split at h
    all_goals
      cases h
      exact .goto (by rfl) rfl
  | dispatchWait site =>
    simp only [lowerWorkerMain] at h
    split at h
    · cases h
      cases site <;> exact .goto (by rfl) rfl
    · obtain ⟨-,rfl⟩ := sem_wait_map h
      exact .goto (by rfl) rfl
  | dispatchSend site i =>
    simp only [lowerWorkerMain] at h
    split at h
    · cases h
      exact .goto (by rfl) rfl
    · cases h
      cases site <;> exact .goto (by rfl) rfl

theorem upper_same {p : UpperPc} (h : upperWorkerMain s p = some s') : SameStart .upper s s' := by
  cases p with
  | receive =>
    obtain ⟨m,hm,rfl⟩ := Option.map_eq_some_iff.mp h
    exact .goto (by rfl) rfl
  | track =>
    simp only [upperWorkerMain] at h
    repeat' split at h
    all_goals
      cases h
      exact .goto (by rfl) rfl
  | release =>
    cases h
    exact .goto (by rfl) rfl

/-- The record of an emergency is written by its stamp and erased at its end. -/
theorem worker_same {x : Nat} (hown : ownPc r (s.worker r).pc = true)
    (h1 : (s.worker r).pc ≠ .trigger .stamp) (h2 : (s.worker r).pc ≠ .resume .finish)
    (h : workerStep s r x = some s') : SameStart r s s' := by
  cases worker_runs h with
  | danger hp hs =>
    rw [hs]
    exact danger_same r s x
  | trigger hp hs => exact trigger_same (by rintro rfl; exact h1 hp) hs
  | ack hp hs => exact ack_same hs
  | resume hp hs => exact resume_same hp (by rintro rfl; exact h2 hp) hs
  | lower hp hs =>
    obtain rfl := own_lower hown hp
    exact lower_same hs
  | upper hp hs =>
    obtain rfl := own_upper hown hp
    exact upper_same hs
  | head hp idle hs => exact head_same hs

end Ropeway
