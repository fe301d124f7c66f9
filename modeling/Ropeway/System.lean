import Ropeway.LowerWorker
import Ropeway.UpperWorker
import Ropeway.Tourist
import Ropeway.Lib.Runs

/-! The processes put together: which atomic step comes next is up to the
schedule, and signals are delivered between any two steps of their target. -/

namespace Ropeway

variable {n : Nat}

/-- The signals a worker sees. `cont` is a stop followed by a continue: it has no
handler but makes a blocked `semop` fail. -/
inductive Signal
  | usr1 | usr2 | alrm | cont
  deriving DecidableEq, Repr

/-- One action of the schedule. The numbers are what `rand()` or the real clock
return in that step. -/
inductive Act (n : Nat)
  | worker (r : Role) (x : Nat)
  /-- Worker `r` falls asleep in the call it cannot complete. -/
  | sleep (r : Role)
  /-- The handler of a pending signal runs in worker `r`. -/
  | deliver (r : Role) (sig : Signal)
  /-- A SIGUSR1 or SIGUSR2 from outside the program. -/
  | kill (r : Role) (sig : Signal)
  | cashier
  | cashierFail (pc : CashierPc)
  | tourist (i : Fin n) (x : Nat)
  | touristCont (i : Fin n)
  | touristFail (i : Fin n)
  /-- The time server publishes a later time. -/
  | tick (ms : Nat)
  | close
  | shutdown
  deriving DecidableEq, Repr

def workerStep (s : Sys n) (r : Role) (x : Nat) : Option (Sys n) :=
  match (s.worker r).pc with
  | .danger => some (checkForDanger r s x)
  | .trigger p => workerTriggerEmergencyStop r s p
  | .ack p => workerAcknowledgeEmergencyStop r s p
  | .resume p => workerInitiateResume r s p
  | .lower p => lowerWorkerMain s x p
  | .upper p => upperWorkerMain s p
  | .exited => none
  | pc => workerLoopHead r s pc

def inSemop : WorkerPc → Bool
  | .trigger .waitState | .ack .waitState | .ack .waitClear | .resume .waitState
  | .resume .releaseWait | .lower .checkWait | .lower .recheckWait | .lower (.dispatchWait _) => true
  | _ => false

/-- The call worker `r` sleeps in fails with EINTR. The loops around the waits of
the acknowledgement, of the resume and of `sem_wait_pauseable` make the call again;
the others take the error path of their caller. -/
def interrupted (s : Sys n) (r : Role) : Sys n :=
  match (s.worker r).pc with
  | .trigger .waitState => s.goto r (.trigger .unlock)
  | .resume .releaseWait => s.goto r (.resume .unlock)
  | .lower .checkWait => s.goto r .top
  | .lower .recheckWait => s.goto r .top
  | .lower .receive => platformInterrupted s
  | .upper .receive => s.goto r .top
  | .pause => s.setWorker r { s.worker r with pc := .top, asleep := false, alarm := false }
  | pc => s.goto r pc

/-- Run the handler of `sig` in worker `r`: `none` when it is not pending. -/
def handler (w : Worker) : Signal → Option Worker
  | .usr1 => if w.pendingUsr1 then
      some { w with pendingUsr1 := false, emergencySignal := true } else none
  | .usr2 => if w.pendingUsr2 then
      some { w with pendingUsr2 := false, resumeSignal := true } else none
  | .alrm => if w.alarm then some { w with alarm := false } else none
  | .cont => some w

/-- A signal wakes a sleeping worker, except that a stop and continue is only
noticed by `semop`. -/
def wakes (w : Worker) (sig : Signal) : Bool :=
  w.asleep && (sig != .cont || inSemop w.pc)

def deliverSignal (s : Sys n) (r : Role) (sig : Signal) : Option (Sys n) :=
  (handler (s.worker r) sig).map (fun w =>
    if wakes (s.worker r) sig then interrupted (s.setWorker r w) r else s.setWorker r w)

def Worker.signal (w : Worker) : Signal → Option Worker
  | .usr1 => some { w with pendingUsr1 := true }
  | .usr2 => some { w with pendingUsr2 := true }
  | _ => none

def step (s : Sys n) : Act n → Option (Sys n)
  | .worker r x => workerStep s r x
  | .sleep r =>
    if (s.worker r).pc ≠ .exited ∧ (workerStep s r 0).isNone ∧ (s.worker r).asleep = false then
      some (s.setWorker r { s.worker r with asleep := true })
    else none
  | .deliver r sig => deliverSignal s r sig
  | .kill r sig => ((s.worker r).signal sig).map (s.setWorker r)
  | .cashier => cashierMain s
  | .cashierFail pc => if pc ∈ cashierFailures s.cashier.pc then some (s.serve pc) else none
  | .tourist i x => touristMain s i x
  | .touristCont i =>
    if (touristMain s i 0).isNone then (touristInterrupted (s.tourists i).pc).map (s.walk i)
    else none
  | .touristFail i => (touristFailure (s.tourists i).data (s.tourists i).pc).map (s.walk i)
  | .tick ms =>
    if s.shm.currentSimTimeMs ≤ ms then some { s with shm.currentSimTimeMs := ms } else none
  | .close => some { s with shm.closing := true }
  | .shutdown => some { s with shm.running := false }

abbrev Env (n : Nat) := List (Sys n × Act n) → Sys n → Act n → Bool

/-- Nothing has been removed and `running` is still 1. -/
def beforeShutdown : Env n := fun _ _ a =>
  match a with
  | .shutdown | .touristFail _ | .cashierFail _ => false
  | _ => true

/-- SIGUSR1 and SIGUSR2 are sent by the workers only. -/
def workersOnly : Env n := fun _ _ a =>
  match a with
  | .kill _ _ => false
  | _ => true

/-- No `semop` fails: no signal reaches a worker or tourist asleep in one. -/
def noFailingSemop : Env n := fun _ s a =>
  match a with
  | .deliver r _ => !((s.worker r).asleep && inSemop (s.worker r).pc)
  | .touristCont _ => false
  | _ => true

def touristInSemop : TouristPc → Bool
  | .recordWait | .closingWait | .gateWait | .stationWait | .countWait | .leaveWait
  | .platformWait | .departWait | .boardWait | .clearWait | .clearSleep | .exitWait
  | .updateWait => true
  | _ => false

/-- The semaphore set exists: no wait of a tourist or the cashier fails for good. The
queues may have been removed already. -/
def setExists : Env n := fun _ s a =>
  match a with
  | .touristFail i => !touristInSemop (s.tourists i).pc
  | .cashierFail _ => s.cashier.pc != .statsWait
  | _ => true

/-- The wait for `SEM_STATE` in `worker_trigger_emergency_stop` of worker `r` is
not interrupted. -/
def triggerUninterrupted (r : Role) : Env n := fun _ s a =>
  match a with
  | .deliver q _ => !(q == r && (s.worker q).asleep && (s.worker q).pc == .trigger .waitState)
  | _ => true

def allow (rules : List (Env n)) : Env n := fun tr s a => rules.all (fun e => e tr s a)

theorem allow_cons (e : Env n) (es : List (Env n)) (tr : List (Sys n × Act n)) (s : Sys n)
    (a : Act n) : allow (e :: es) tr s a = true ↔ e tr s a = true ∧ allow es tr s a = true := by
  simp [allow]

theorem allow_mem {e : Env n} {rules : List (Env n)} {tr : List (Sys n × Act n)} {s : Sys n}
    {a : Act n} (he : e ∈ rules) (h : allow rules tr s a = true) : e tr s a = true :=
  List.all_eq_true.mp h e he

abbrev Runs (rules : List (Env n)) (u : Setup n) (tr : List (Sys n × Act n)) (s : Sys n) : Prop :=
  Lib.Run step (allow rules) u.start tr s

def reaches (rules : List (Env n)) (u : Setup n) (acts : List (Act n))
    (test : List (Sys n × Act n) → Sys n → Bool) : Bool :=
  (Lib.exec step (allow rules) [] acts u.start).any (fun p => test p.1 p.2)

theorem exists_run {rules : List (Env n)} {u : Setup n} {acts : List (Act n)}
    {test : List (Sys n × Act n) → Sys n → Bool} (h : reaches rules u acts test = true) :
    ∃ tr s, Runs rules u tr s ∧ test tr s = true := Lib.exists_run acts test h

/-- Dangers are likely and over at once; everything else is the default. -/
def sampleConfig : Config :=
  { configDefaults with dangerProbability := 50, dangerDurationSim := 0 }

def sampleArgs : TouristArgs := ⟨30, .walker, false, 0, .daily, by decide, by decide⟩

def sample (n : Nat) : Setup n :=
  ⟨sampleConfig, by decide, semValues sampleConfig, by decide, 5, by decide, fun _ => sampleArgs⟩

/-- `k` steps of a worker that sees no danger, and of one that does. -/
def safe (r : Role) (k : Nat) : List (Act n) := List.replicate k (.worker r 99)

def alarmed (r : Role) (k : Nat) : List (Act n) := List.replicate k (.worker r 0)

def walks (i k : Nat) : List (Act n) :=
  if h : i < n then List.replicate k (.tourist ⟨i, h⟩ 1) else []

def reachPlatform (i : Nat) : List (Act n) :=
  walks i 1 ++ List.replicate 7 .cashier ++ walks i 24

def timeout : List (Act n) := safe .lower 7 ++ [.sleep .lower, .deliver .lower .alrm]

/-- A tourist comes, boards a chair of its own and is about to leave it. -/
def rideAlone (i : Nat) : List (Act n) :=
  reachPlatform i ++ safe .lower 13 ++ timeout ++ safe .lower 3 ++ walks i 4

end Ropeway
