import Ropeway.Frames.Outside

/-! What a step of a worker leaves alone, and where it can take the worker. -/

namespace Ropeway
open Function (update)
variable {n : Nat} {s t s' : Sys n}

/-- Worker `r` has only touched its own record, the flag, the waiters, the three
semaphores of the emergency code and the pending signals of the other worker. -/
structure Calm (r : Role) (s s' : Sys n) : Prop where
  tourists : s'.tourists = s.tourists
  cashier : s'.cashier = s.cashier
  mqCashier : s'.mqCashier = s.mqCashier
  mqCashierMax : s'.mqCashierMax = s.mqCashierMax
  mqPlatform : s'.mqPlatform = s.mqPlatform
  mqBoarding : s'.mqBoarding = s.mqBoarding
  mqArrivals : s'.mqArrivals = s.mqArrivals
  lower : s'.lower = s.lower
  upper : s'.upper = s.upper
  sem : ∀ j, j ≠ .state → j ≠ .emergencyClear → j ≠ .emergencyLock → s'.sem j = s.sem j
  shm : ∃ a b, s'.shm = { s.shm with emergencyStop := a, emergencyWaiters := b }
  peer : ∃ a b, s'.worker r.other =
    { s.worker r.other with pendingUsr1 := a, pendingUsr2 := b }

variable {r : Role}

theorem Calm.refl (r : Role) (s : Sys n) : Calm r s s :=
  ⟨rfl,rfl,rfl,rfl,rfl,rfl,rfl,rfl,rfl,fun _ _ _ _ => rfl,⟨_,_,rfl⟩,⟨_,_,rfl⟩⟩

theorem Calm.setWorker (h : Calm r s t) (w : Worker) : Calm r s (t.setWorker r w) := by
  refine ⟨h.tourists,h.cashier,h.mqCashier,h.mqCashierMax,h.mqPlatform,h.mqBoarding,h.mqArrivals,
    h.lower,h.upper,h.sem,h.shm,?_⟩
  obtain ⟨a,b,hw⟩ := h.peer
  exact ⟨a,b,by simpa using hw⟩

theorem Calm.goto (h : Calm r s t) (pc : WorkerPc) : Calm r s (t.goto r pc) := h.setWorker _

theorem Calm.enterAck (h : Calm r s t) : Calm r s (t.enterAck r) := h.setWorker _

theorem Calm.semSet (s : Sys n) {j : Sem} (k : Nat)
    (hj : j = .state ∨ j = .emergencyClear ∨ j = .emergencyLock) :
    Calm r s { s with sem := update s.sem j k } := by
  refine ⟨rfl,rfl,rfl,rfl,rfl,rfl,rfl,rfl,rfl,?_,⟨_,_,rfl⟩,⟨_,_,rfl⟩⟩
  intro i h1 h2 h3
  rcases hj with rfl | rfl | rfl <;> simp [h1,h2,h3]

theorem Calm.wait {j : Sem} {k : Nat} (h : semWait s j k = some t)
    (hj : j = .state ∨ j = .emergencyClear ∨ j = .emergencyLock) : Calm r s t := by
  obtain ⟨-,rfl⟩ := sem_wait_some h
  exact .semSet s _ hj

theorem Calm.stop (s : Sys n) (b : Bool) : Calm r s { s with shm.emergencyStop := b } :=
  ⟨rfl,rfl,rfl,rfl,rfl,rfl,rfl,rfl,rfl,fun _ _ _ _ => rfl,⟨_,_,rfl⟩,⟨_,_,rfl⟩⟩

theorem Calm.mail (s : Sys n) (q : List WorkerMsg) : Calm r s { s with mqWorker := q } :=
  ⟨rfl,rfl,rfl,rfl,rfl,rfl,rfl,rfl,rfl,fun _ _ _ _ => rfl,⟨_,_,rfl⟩,⟨_,_,rfl⟩⟩

theorem Calm.pend (s : Sys n) (a b : Bool) :
    Calm r s (s.setWorker r.other { s.worker r.other with pendingUsr1 := a, pendingUsr2 := b }) :=
  ⟨rfl,rfl,rfl,rfl,rfl,rfl,rfl,rfl,rfl,fun _ _ _ _ => rfl,⟨_,_,rfl⟩,⟨a,b,by simp⟩⟩

theorem trigger_calm {p : TriggerPc} (h : workerTriggerEmergencyStop r s p = some s') :
    Calm r s s' := by
  cases p with
  | tryWait =>
    simp only [workerTriggerEmergencyStop] at h
    split at h
    · cases h
      exact (Calm.refl r s).enterAck
    · rename_i hw
      cases h
      exact (Calm.wait hw (by simp)).goto _
  | stamp =>
    cases h
    exact (Calm.refl r s).setWorker _
  | waitState =>
    obtain ⟨t,hw,rfl⟩ := Option.map_eq_some_iff.mp h
    exact (Calm.wait hw (by simp)).goto _
  | setFlag =>
    cases h
    exact (Calm.stop s true).goto _
  | postState | unlock =>
    cases h
    exact (Calm.semSet s _ (by simp)).goto _
  | kill =>
    cases h
    exact (Calm.pend s true _).goto _

theorem ack_calm {p : AckPc} (h : workerAcknowledgeEmergencyStop r s p = some s') :
    Calm r s s' := by
  cases p with
  | waitState | waitClear =>
    obtain ⟨t,hw,rfl⟩ := Option.map_eq_some_iff.mp h
    exact (Calm.wait hw (by simp)).goto _
  | setFlag | clear =>
    cases h
    exact (Calm.stop s _).goto _
  | postState | postClear =>
    cases h
    exact (Calm.semSet s _ (by simp)).goto _
  | receive =>
    obtain ⟨⟨m,q⟩,-,rfl⟩ := Option.map_eq_some_iff.mp h
    exact (Calm.mail s q).goto _
  | send =>
    cases h
    exact (Calm.mail s _).goto _

theorem resume_calm {p : ResumePc} (h : workerInitiateResume r s p = some s') :
    Calm r s s' := by
  cases p with
  | send =>
    cases h
    exact (Calm.mail s _).goto _
  | receive =>
    obtain ⟨⟨m,q⟩,-,rfl⟩ := Option.map_eq_some_iff.mp h
    exact (Calm.mail s q).goto _
  | kill =>
    cases h
    exact (Calm.pend s _ true).goto _
  | waitState | releaseWait =>
    obtain ⟨t,hw,rfl⟩ := Option.map_eq_some_iff.mp h
    exact (Calm.wait hw (by simp)).goto _
  | clear =>
    cases h
    exact (Calm.stop s false).goto _
  | postState | releasePost | releaseTokens | unlock =>
    cases h
    exact (Calm.semSet s _ (by simp)).goto _
  | releaseTake =>
    cases h
    refine Calm.goto ?_ _
    exact ⟨rfl,rfl,rfl,rfl,rfl,rfl,rfl,rfl,rfl,fun _ _ _ _ => rfl,⟨_,_,rfl⟩,⟨_,_,rfl⟩⟩
  | finish =>
    cases h
    exact (Calm.refl r s).setWorker _

theorem danger_calm (r : Role) (s : Sys n) (x : Nat) : Calm r s (checkForDanger r s x) := by
  simp only [checkForDanger]
  repeat' split
  all_goals exact (Calm.refl r s).setWorker _

theorem head_calm {p : WorkerPc} (h : workerLoopHead r s p = some s') : Calm r s s' := by
  cases p with
  | top =>
    simp only [workerLoopHead] at h
    split at h
    · cases r <;> cases h <;> exact (Calm.refl _ s).goto _
    · split at h
      · cases h
        exact ((Calm.refl r s).setWorker _).enterAck
      · cases h
        exact (Calm.refl r s).goto _
  | checkResume | pauseArm =>
    cases h
    exact (Calm.refl r s).setWorker _
  | checkInitiator =>
    simp only [workerLoopHead] at h
    split at h
    · split at h <;> cases h <;> exact (Calm.refl r s).goto _
    · cases r <;> cases h <;> exact (Calm.refl _ s).goto _
  | _ => cases h

def atWork : WorkerPc → Bool
  | .lower _ | .upper _ => true
  | _ => false

/-- How a worker gets to its own work: the lower worker to its check or, when the
simulation has stopped, to its last dispatch, the upper worker to its receive. -/
inductive Enters (s : Sys n) : Role → WorkerPc → Prop
  | lower (h : (s.worker .lower).pc = .checkInitiator) : Enters s .lower (.lower .checkWait)
  | upper (h : (s.worker .upper).pc = .checkInitiator) : Enters s .upper (.upper .receive)
  | last (h : (s.worker .lower).pc = .top) (stopped : s.shm.running = false) :
      Enters s .lower (.lower (.dispatchWait .shutdown))

theorem head_pc {p : WorkerPc} (hpc : (s.worker r).pc = p) (h : workerLoopHead r s p = some s') :
    atWork (s'.worker r).pc = false ∨ Enters s r (s'.worker r).pc := by
  cases p with
  | top =>
    simp only [workerLoopHead] at h
    split at h
    · rename_i hrun
      cases r with
      | lower =>
        cases h
        simp only [Sys.goto_worker,Function.update_self]
        exact .inr (.last hpc (by simpa using hrun))
      | upper =>
        cases h
        exact .inl (by simp [atWork])
    · split at h
      · cases h
        exact .inl (by simp [atWork,Sys.enterAck])
      · cases h
        exact .inl (by simp [atWork])
  | checkResume | pauseArm =>
    cases h
    exact .inl (by simp [atWork])
  | checkInitiator =>
    simp only [workerLoopHead] at h
    split at h
    · split at h
      all_goals
        cases h
        exact .inl (by simp [atWork])
    · cases r with
      | lower =>
        cases h
        simp only [Sys.goto_worker,Function.update_self]
        exact .inr (.lower hpc)
      | upper =>
        cases h
        simp only [Sys.goto_worker,Function.update_self]
        exact .inr (.upper hpc)
  | _ => cases h

def inEmergency : WorkerPc → Bool
  | .top | .trigger _ | .ack _ | .resume _ => true
  | _ => false

theorem emergency_off_work {pc : WorkerPc} (h : inEmergency pc = true) : atWork pc = false := by
  cases pc <;> first | rfl | cases h

theorem trigger_pc {p : TriggerPc} (h : workerTriggerEmergencyStop r s p = some s') :
    inEmergency (s'.worker r).pc = true := by
  cases p with
  | tryWait =>
    simp only [workerTriggerEmergencyStop] at h
    split at h <;> cases h <;> simp [inEmergency,Sys.enterAck]
  | waitState =>
    obtain ⟨t,hw,rfl⟩ := Option.map_eq_some_iff.mp h
    simp [inEmergency]
  | _ =>
    cases h
    simp [inEmergency]

theorem ack_pc {p : AckPc} (h : workerAcknowledgeEmergencyStop r s p = some s') :
    inEmergency (s'.worker r).pc = true := by
  cases p with
  | waitState | waitClear | receive =>
    obtain ⟨t,hw,rfl⟩ := Option.map_eq_some_iff.mp h
    simp [inEmergency]
  | _ =>
    cases h
    simp [inEmergency]

theorem resume_pc {p : ResumePc} (h : workerInitiateResume r s p = some s') :
    inEmergency (s'.worker r).pc = true := by
  cases p with
  | waitState | releaseWait | receive =>
    obtain ⟨t,hw,rfl⟩ := Option.map_eq_some_iff.mp h
    simp [inEmergency]
  | _ =>
    cases h
    simp [inEmergency]

theorem danger_pc (r : Role) (s : Sys n) (x : Nat) :
    inEmergency ((checkForDanger r s x).worker r).pc = true := by
  simp only [checkForDanger]
  repeat' split
  all_goals simp [inEmergency]

inductive WorkerRuns (s : Sys n) (r : Role) (x : Nat) (s' : Sys n) : Prop
  | danger (hp : (s.worker r).pc = .danger) (hs : s' = checkForDanger r s x)
  | trigger {p : TriggerPc} (hp : (s.worker r).pc = .trigger p)
      (hs : workerTriggerEmergencyStop r s p = some s')
  | ack {p : AckPc} (hp : (s.worker r).pc = .ack p)
      (hs : workerAcknowledgeEmergencyStop r s p = some s')
  | resume {p : ResumePc} (hp : (s.worker r).pc = .resume p)
      (hs : workerInitiateResume r s p = some s')
  | lower {p : LowerPc} (hp : (s.worker r).pc = .lower p) (hs : lowerWorkerMain s x p = some s')
  | upper {p : UpperPc} (hp : (s.worker r).pc = .upper p) (hs : upperWorkerMain s p = some s')
  | head {p : WorkerPc} (hp : (s.worker r).pc = p) (idle : atWork p = false)
      (hs : workerLoopHead r s p = some s')

theorem worker_runs {x : Nat} (h : workerStep s r x = some s') : WorkerRuns s r x s' := by
  cases hp : (s.worker r).pc with
  | danger =>
    simp only [workerStep,hp,Option.some.injEq] at h
    exact .danger hp h.symm
  | trigger p =>
    simp only [workerStep,hp] at h
    exact .trigger hp h
  | ack p =>
    simp only [workerStep,hp] at h
    exact .ack hp h
  | resume p =>
    simp only [workerStep,hp] at h
    exact .resume hp h
  | lower p =>
    simp only [workerStep,hp] at h
    exact .lower hp h
  | upper p =>
    simp only [workerStep,hp] at h
    exact .upper hp h
  | exited => simp [workerStep,hp] at h
  | top | checkResume | checkInitiator | pauseArm | pause =>
    simp only [workerStep,hp] at h
    exact .head hp rfl h

theorem worker_pc {x : Nat} (hp : atWork (s.worker r).pc = false)
    (h : workerStep s r x = some s') :
    atWork (s'.worker r).pc = false ∨ Enters s r (s'.worker r).pc := by
  cases worker_runs h with
  | danger hpc hs =>
    rw [hs]
    exact .inl (emergency_off_work (danger_pc r s x))
  | trigger hpc hs => exact .inl (emergency_off_work (trigger_pc hs))
  | ack hpc hs => exact .inl (emergency_off_work (ack_pc hs))
  | resume hpc hs => exact .inl (emergency_off_work (resume_pc hs))
  | lower hpc hs | upper hpc hs => simp [hpc,atWork] at hp
  | head hpc idle hs => exact head_pc hpc hs

theorem worker_calm {x : Nat} (hp : atWork (s.worker r).pc = false)
    (h : workerStep s r x = some s') : Calm r s s' := by
  cases worker_runs h with
  | danger hpc hs =>
    rw [hs]
    exact danger_calm r s x
  | trigger hpc hs => exact trigger_calm hs
  | ack hpc hs => exact ack_calm hs
  | resume hpc hs => exact resume_calm hs
  | lower hpc hs | upper hpc hs => simp [hpc,atWork] at hp
  | head hpc idle hs => exact head_calm hs

inductive WorkerActs (s : Sys n) (r : Role) (x : Nat) (s' : Sys n) : Prop
  | calm (hp : atWork (s.worker r).pc = false) (hs : Calm r s s')
  | lower {p : LowerPc} (hp : (s.worker r).pc = .lower p) (hs : lowerWorkerMain s x p = some s')
  | upper {p : UpperPc} (hp : (s.worker r).pc = .upper p) (hs : upperWorkerMain s p = some s')

theorem worker_acts {x : Nat} (h : workerStep s r x = some s') : WorkerActs s r x s' := by
  cases hw : atWork (s.worker r).pc with
  | false => exact .calm hw (worker_calm hw h)
  | true =>
    cases worker_runs h with
    | lower hp hs => exact .lower hp hs
    | upper hp hs => exact .upper hp hs
    | danger hp | trigger hp | ack hp | resume hp => simp [hp,atWork] at hw
    | head hp idle =>
      rw [hp,idle] at hw
      cases hw

/-! ### The work of the two workers -/

def ownPc : Role → WorkerPc → Bool
  | .lower, .upper _ => false
  | .upper, .lower _ => false
  | _, _ => true

theorem own_lower {p : LowerPc} (hown : ownPc r (s.worker r).pc = true)
    (hp : (s.worker r).pc = .lower p) : r = .lower := by
  cases r with
  | lower => rfl
  | upper => simp [hp,ownPc] at hown

theorem own_upper {p : UpperPc} (hown : ownPc r (s.worker r).pc = true)
    (hp : (s.worker r).pc = .upper p) : r = .upper := by
  cases r with
  | lower => simp [hp,ownPc] at hown
  | upper => rfl

/-- The lower worker has only touched its own state, the platform and boarding
queues, `SEM_STATE` and `SEM_CHAIRS`. -/
structure LowerOnly (s s' : Sys n) : Prop where
  tourists : s'.tourists = s.tourists
  cashier : s'.cashier = s.cashier
  mqCashier : s'.mqCashier = s.mqCashier
  mqCashierMax : s'.mqCashierMax = s.mqCashierMax
  mqArrivals : s'.mqArrivals = s.mqArrivals
  mqWorker : s'.mqWorker = s.mqWorker
  upper : s'.upper = s.upper
  shm : s'.shm = s.shm
  sem : ∀ j, j ≠ .state → j ≠ .chairs → s'.sem j = s.sem j
  peer : s'.worker .upper = s.worker .upper
  own : ownPc .lower (s'.worker .lower).pc = true

theorem LowerOnly.setWorker (s : Sys n) {q b : List PlatformMsg} {l : LowerLocals} (w : Worker)
    (hw : ownPc .lower w.pc = true) :
    LowerOnly s ({ s with mqPlatform := q, mqBoarding := b, lower := l }.setWorker .lower w) :=
  ⟨rfl,rfl,rfl,rfl,rfl,rfl,rfl,rfl,fun _ _ _ => rfl,by simp,by simpa using hw⟩

theorem LowerOnly.semSet {j : Sem} {l : LowerLocals} (s : Sys n) (k : Nat) (w : Worker)
    (hj : j = .state ∨ j = .chairs) (hw : ownPc .lower w.pc = true) :
    LowerOnly s ({ s with sem := update s.sem j k, lower := l }.setWorker .lower w) := by
  refine ⟨rfl,rfl,rfl,rfl,rfl,rfl,rfl,rfl,?_,by simp,by simpa using hw⟩
  intro i h1 h2
  rcases hj with rfl | rfl <;> simp [h1,h2]

theorem after_dispatch_only (s : Sys n) (l : LowerLocals) (site : Site) :
    LowerOnly s (afterDispatch { s with lower := l } site) := by
  cases site <;> exact .setWorker s _ rfl

theorem lower_only {p : LowerPc} {x : Nat} (h : lowerWorkerMain s x p = some s') :
    LowerOnly s s' := by
  cases p with
  | checkWait | recheckWait =>
    obtain ⟨-,rfl⟩ := sem_wait_map h
    exact .semSet s _ _ (.inl rfl) rfl
  | checkRead | recheckRead | arm | requeueStop | requeue =>
    cases h
    exact .setWorker s _ rfl
  | checkPost | recheckPost =>
    simp only [lowerWorkerMain] at h
    split at h
    all_goals
      cases h
      exact .semSet s _ _ (.inl rfl) rfl
  | receive =>
    obtain ⟨⟨m,q⟩,-,rfl⟩ := Option.map_eq_some_iff.mp h
    exact .setWorker s _ rfl
  | place =>
    simp only [lowerWorkerMain] at h
    repeat' split at h
    all_goals
      cases h
      exact .setWorker s _ rfl
  | dispatchWait site =>
    simp only [lowerWorkerMain] at h
    split at h
    · cases h
      exact after_dispatch_only s s.lower site
    · obtain ⟨-,rfl⟩ := sem_wait_map h
      exact .semSet s _ _ (.inr rfl) rfl
  | dispatchSend site i =>
    simp only [lowerWorkerMain] at h
    split at h
    · cases h
      exact .setWorker s _ rfl
    · cases h
      exact after_dispatch_only s { s.lower with pending := [] } site

/-- The upper worker has only touched its own state, the arrivals and `SEM_CHAIRS`. -/
structure UpperOnly (s s' : Sys n) : Prop where
  tourists : s'.tourists = s.tourists
  cashier : s'.cashier = s.cashier
  mqCashier : s'.mqCashier = s.mqCashier
  mqCashierMax : s'.mqCashierMax = s.mqCashierMax
  mqPlatform : s'.mqPlatform = s.mqPlatform
  mqBoarding : s'.mqBoarding = s.mqBoarding
  mqWorker : s'.mqWorker = s.mqWorker
  lower : s'.lower = s.lower
  shm : s'.shm = s.shm
  sem : ∀ j, j ≠ .chairs → s'.sem j = s.sem j
  peer : s'.worker .lower = s.worker .lower
  own : ownPc .upper (s'.worker .upper).pc = true

theorem upper_only {p : UpperPc} (h : upperWorkerMain s p = some s') : UpperOnly s s' := by
  cases p with
  | receive =>
    obtain ⟨⟨m,q⟩,-,rfl⟩ := Option.map_eq_some_iff.mp h
    exact ⟨rfl,rfl,rfl,rfl,rfl,rfl,rfl,rfl,rfl,fun _ _ => rfl,by simp,by simp [ownPc]⟩
  | track =>
    simp only [upperWorkerMain] at h
    repeat' split at h
    all_goals
      cases h
      exact ⟨rfl,rfl,rfl,rfl,rfl,rfl,rfl,rfl,rfl,fun _ _ => rfl,by simp,by simp [ownPc]⟩
  | release =>
    cases h
    refine ⟨rfl,rfl,rfl,rfl,rfl,rfl,rfl,rfl,rfl,?_,by simp,by simp [ownPc]⟩
    intro j hj
    simp [hj]

/-- Where a worker goes on when the call it sleeps in fails with EINTR. -/
def wakePc (l : LowerLocals) : WorkerPc → WorkerPc
  | .trigger .waitState => .trigger .unlock
  | .resume .releaseWait => .resume .unlock
  | .lower .checkWait | .lower .recheckWait | .upper .receive | .pause => .top
  | .lower .receive => if l.pending = [] then .top else .lower (.dispatchWait .timeout)
  | pc => pc

/-- The handler of a sleeping worker makes its call fail; nothing but its own record
changes. -/
theorem interrupted_eq (hown : ownPc r (s.worker r).pc = true) : ∃ al,
    interrupted s r = s.setWorker r { s.worker r with
      pc := wakePc s.lower (s.worker r).pc, asleep := false, alarm := al } := by
  unfold interrupted
  split
  case h_5 hp =>
    cases r with
    | lower => exact ⟨false,by simp [hp,platformInterrupted,wakePc]⟩
    | upper => simp [hp,ownPc] at hown
  case h_7 hp => exact ⟨false,by simp [hp,wakePc]⟩
  case h_8 =>
    refine ⟨(s.worker r).alarm,?_⟩
    unfold wakePc
    split <;> simp_all [Sys.goto]
  all_goals
    rename_i hp
    exact ⟨(s.worker r).alarm,by simp [hp,Sys.goto,wakePc]⟩

theorem handler_frame {w : Worker} {sig : Signal} (h : handler (s.worker r) sig = some w) :
    w.pc = (s.worker r).pc ∧ w.isInitiator = (s.worker r).isInitiator ∧
      w.emergencyStart = (s.worker r).emergencyStart := by
  cases sig <;> simp only [handler] at h
  case cont =>
    cases h
    exact ⟨rfl,rfl,rfl⟩
  all_goals
    split at h
    · cases h
      exact ⟨rfl,rfl,rfl⟩
    · cases h

/-- A delivered signal runs its handler and, if the worker sleeps, wakes it. -/
theorem deliver_eq {sig : Signal} (hown : ownPc r (s.worker r).pc = true)
    (h : deliverSignal s r sig = some s') : ∃ w, handler (s.worker r) sig = some w ∧
      (wakes (s.worker r) sig = false ∧ s' = s.setWorker r w ∨
        wakes (s.worker r) sig = true ∧ ∃ al, s' = s.setWorker r { w with
          pc := wakePc s.lower (s.worker r).pc, asleep := false, alarm := al }) := by
  obtain ⟨w,hw,hs⟩ := Option.map_eq_some_iff.mp h
  have hpc := (handler_frame hw).1
  refine ⟨w,hw,?_⟩
  split at hs
  · rename_i hwake
    obtain ⟨al,he⟩ := interrupted_eq (s := s.setWorker r w) (r := r) (by simpa [hpc] using hown)
    refine .inr ⟨hwake,al,?_⟩
    rw [← hs,he]
    simp [hpc,Sys.setWorker]
  · rename_i hwake
    exact .inl ⟨by simpa using hwake,hs.symm⟩

theorem wakes_asleep {w : Worker} {sig : Signal} (h : wakes w sig = true) : w.asleep = true := by
  unfold wakes at h
  exact (Bool.and_eq_true_iff.mp h).1

/-- Signals and sleeping change one worker record. -/
theorem signal_record {a : Act n} (hown : ∀ r, ownPc r (s.worker r).pc = true)
    (ha : a.outside = false) (hw : ∀ r x, a ≠ .worker r x) (h : step s a = some s') :
    ∃ r w, s' = s.setWorker r w ∧
      (w.pc = (s.worker r).pc ∨ w.pc = wakePc s.lower (s.worker r).pc) ∧
        w.isInitiator = (s.worker r).isInitiator ∧
          w.emergencyStart = (s.worker r).emergencyStart := by
  cases a with
  | worker r x => exact absurd rfl (hw r x)
  | sleep r =>
    simp only [step] at h
    split at h
    · cases h
      exact ⟨r,_,rfl,.inl rfl,rfl,rfl⟩
    · cases h
  | deliver r sig =>
    obtain ⟨w,hh,⟨-,rfl⟩ | ⟨-,al,rfl⟩⟩ := deliver_eq (hown r) h
    · exact ⟨r,_,rfl,.inl (handler_frame hh).1,(handler_frame hh).2⟩
    · exact ⟨r,_,rfl,.inr rfl,(handler_frame hh).2⟩
  | kill r sig =>
    obtain ⟨w,hs,rfl⟩ := Option.map_eq_some_iff.mp h
    refine ⟨r,w,rfl,?_⟩
    cases sig <;> cases hs <;> exact ⟨.inl rfl,rfl,rfl⟩
  | _ => cases ha

theorem Enters.own {pc : WorkerPc} (h : Enters s r pc) : ownPc r pc = true := by
  cases h <;> rfl

theorem own_of_calm {pc : WorkerPc} (h : atWork pc = false) (r : Role) : ownPc r pc = true := by
  cases r <;> cases pc <;> first | rfl | cases h

theorem wake_own {l : LowerLocals} {pc : WorkerPc} (h : ownPc r pc = true) :
    ownPc r (wakePc l pc) = true := by
  unfold wakePc
  repeat' split
  all_goals first | exact h | (cases r <;> first | rfl | cases h)

/-- A worker's step leaves the other worker's record alone, but for its pending
signals. -/
theorem worker_peer {x : Nat} (hown : ownPc r (s.worker r).pc = true)
    (h : workerStep s r x = some s') : ∃ a b, s'.worker r.other =
      { s.worker r.other with pendingUsr1 := a, pendingUsr2 := b } := by
  cases worker_acts h with
  | calm _ hs => exact hs.peer
  | lower hp hs =>
    obtain rfl := own_lower hown hp
    exact ⟨_,_,(lower_only hs).peer⟩
  | upper hp hs =>
    obtain rfl := own_upper hown hp
    exact ⟨_,_,(upper_only hs).peer⟩

/-- The upper worker does not touch the chair being loaded. -/
theorem upper_lower {x : Nat} (hown : ownPc .upper (s.worker .upper).pc = true)
    (h : workerStep s .upper x = some s') : s'.lower = s.lower := by
  cases worker_acts h with
  | calm _ hs => exact hs.lower
  | lower hp => simp [hp,ownPc] at hown
  | upper _ hs => exact (upper_only hs).lower

theorem worker_own {x : Nat} (hown : ∀ q, ownPc q (s.worker q).pc = true)
    (h : workerStep s r x = some s') : ∀ q, ownPc q (s'.worker q).pc = true := by
  have hself : ownPc r (s'.worker r).pc = true := by
    cases worker_acts h with
    | calm hp _ =>
      rcases worker_pc hp h with hc | he
      · exact own_of_calm hc r
      · exact he.own
    | lower hp hs =>
      obtain rfl := own_lower (hown r) hp
      exact (lower_only hs).own
    | upper hp hs =>
      obtain rfl := own_upper (hown r) hp
      exact (upper_only hs).own
  obtain ⟨a,b,hpeer⟩ := worker_peer (hown r) h
  refine r.both hself ?_
  rw [hpeer]
  exact hown r.other

theorem step_own {a : Act n} (hown : ∀ q, ownPc q (s.worker q).pc = true)
    (h : step s a = some s') : ∀ q, ownPc q (s'.worker q).pc = true := by
  by_cases ha : a.outside = true
  · rw [(outside_same ha h).worker]
    exact hown
  · by_cases hw : ∃ r x, a = .worker r x
    · obtain ⟨r,x,rfl⟩ := hw
      exact worker_own hown h
    · obtain ⟨r,w,rfl,hpc,-⟩ :=
        signal_record hown (by simpa using ha) (fun r x he => hw ⟨r,x,he⟩) h
      refine r.both ?_ (by simpa using hown r.other)
      simp only [Sys.setWorker_worker,Function.update_self]
      rcases hpc with hpc | hpc
      · rw [hpc]
        exact hown r
      · rw [hpc]
        exact wake_own (hown r)

/-- In every run each worker stays in its own program: an invariant has to be shown for
the steps from such states only. -/
theorem run_invariant {rules : List (Env n)} {u : Setup n} {tr : List (Sys n × Act n)}
    (I : List (Sys n × Act n) → Sys n → Prop) (start : I [] u.start)
    (preserve : ∀ tr s a s', (∀ q, ownPc q (s.worker q).pc = true) → I tr s →
      allow rules tr s a = true → step s a = some s' → I (tr ++ [(s,a)]) s')
    (h : Runs rules u tr s) : I tr s := by
  have hboth : (∀ q, ownPc q (s.worker q).pc = true) ∧ I tr s := by
    refine h.invariant (fun tr s => (∀ q, ownPc q (s.worker q).pc = true) ∧ I tr s) ?_ ?_
    · refine ⟨?_,start⟩
      intro q
      cases q <;> rfl
    · intro tr s a s' hi allowed hstep
      exact ⟨step_own hi.1 hstep,preserve tr s a s' hi.1 hi.2 allowed hstep⟩
  exact hboth.2

end Ropeway
