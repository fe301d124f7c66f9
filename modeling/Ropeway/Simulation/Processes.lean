import Ropeway.System
import Ropeway.Ipc
import Ropeway.Reaper

/-! The whole simulation from the first `spawn_worker` in `main` to its exit: the main
process, its five children, the tourists of the generator, and the IPC objects as they are
removed. -/

namespace Ropeway
open Function (update)
open Ipc (Obj)

variable {n : Nat}

inductive Child
  | timeServer | cashier | worker (r : Role) | generator
  deriving DecidableEq, Repr

/-- The children that post `SEM_WORKER_READY`, in the order they are spawned. -/
def staff : List Child := [.timeServer, .cashier, .worker .lower, .worker .upper]

inductive TimePc
  | firstUpdate | top | update | pause | exited
  deriving DecidableEq, Repr

/-- Where `main` is after its handlers have been installed: `unready` when its wait at the barrier
has failed. The three `reap` places are those of `reap_zombies`, `kill` and `rmid` those of
`shutdown_workers`. -/
inductive MainPlace
  | spawn (rest : List Child) | check | barrier | unready | spawnGenerator
  | test | reapTest | reapClear | reapWait | overTest | arm | pause
  | stop | kill (rest : List Child) | rmid (rest : List Obj) | wait | report | destroy | exited
  deriving DecidableEq, Repr

/-- `handler` is what the `sigterm_handler` that is running has left to remove, `ready` the
value of `SEM_WORKER_READY`. A process in `spawned` has its pid stored in the shared state, one
in `booted` has passed the startup barrier, and `term` are those whose own `g_running` is 0. -/
structure World (n : Nat) where
  sys : Sys n
  removed : List Obj
  ready : Nat
  spawned : List Child
  booted : List Child
  term : List Child
  timeServer : TimePc
  gen : Generator
  main : MainPlace
  asleep : Bool
  gRunning : Bool
  gChildExited : Bool
  alarm : Bool
  handler : List Obj
  children : Lib.Children Child

def Setup.world (u : Setup n) : World n where
  sys := u.start
  removed := []
  ready := 0
  spawned := []
  booted := []
  term := []
  timeServer := .firstUpdate
  gen := .init
  main := .spawn staff
  asleep := false
  gRunning := true
  gChildExited := false
  alarm := false
  handler := []
  children := .none Child

def workerCountForBarrier : Nat := 4

/-- A removed object fails the calls that wait on it with EIDRM and later ones with EINVAL. -/
inductive Errno
  | eidrm | einval
  deriving DecidableEq, Repr

/-- The object of the call a worker is about to make or waits in; `sem_post` is never waited
for and its failures are ignored. -/
def workerCall (s : Sys n) : WorkerPc → Option Obj
  | .trigger .tryWait | .trigger .waitState => some .sem
  | .ack .waitState | .ack .waitClear => some .sem
  | .ack .receive | .ack .send => some .worker
  | .resume .send | .resume .receive => some .worker
  | .resume .waitState | .resume .releaseWait => some .sem
  | .lower .checkWait | .lower .recheckWait => some .sem
  | .lower .receive | .lower .requeueStop | .lower .requeue => some .platform
  | .lower (.dispatchWait _) => if s.lower.pending = [] then none else some .sem
  | .lower (.dispatchSend _ i) => if i < s.lower.pending.length then some .boarding else none
  | .upper .receive => some .arrivals
  | _ => none

def lowerFailure (s : Sys n) (e : Errno) : LowerPc → Option (Sys n)
  | .checkWait | .recheckWait | .requeueStop => some (s.goto .lower .top)
  | .receive =>
    some (s.setWorker .lower { s.worker .lower with
      pc := match e with
        | .eidrm => .lower (.dispatchWait .shutdown)
        | .einval => .top
      asleep := false
      alarm := false })
  | .requeue =>
    match e with
    | .eidrm => some (s.goto .lower (.lower (.dispatchWait .shutdown)))
    | .einval => some (s.goto .lower .top)
  -- The buffered tourists stay in `g_pending` when there is no slot to wait for.
  | .dispatchWait site => some (afterDispatch s site)
  | .dispatchSend site _ => some (afterDispatch { s with lower := { s.lower with pending := [] } } site)
  | _ => none

def workerFailure (s : Sys n) (r : Role) (e : Errno) : Option (Sys n) :=
  match (s.worker r).pc with
  | .trigger .tryWait => some (s.enterAck r)
  | .trigger .waitState => some (s.goto r (.trigger .unlock))
  | .ack .waitState | .ack .receive | .ack .send | .ack .waitClear => some (s.goto r .top)
  | .resume .send | .resume .receive | .resume .waitState => some (s.goto r .top)
  | .resume .releaseWait => some (s.goto r (.resume .unlock))
  | .lower p => lowerFailure s e p
  | .upper .receive =>
    match e with
    | .eidrm => some (s.goto r .exited)
    | .einval => some (s.goto r .top)
  | _ => none

def cashierCall : CashierPc → Option Obj
  | .receive | .send | .refuse => some .cashier
  | .statsWait => some .sem
  | _ => none

def touristCall (pc : TouristPc) : Option Obj :=
  if touristInSemop pc then some .sem
  else match pc with
    | .buySend | .buyReceive => some .cashier
    | .boardSend => some .platform
    | .boardReceive => some .boarding
    | .arriveSend => some .arrivals
    | _ => none

/-! ### Events -/

/-- The signals of the main process; `term` stands for SIGTERM and SIGINT. -/
inductive MainSignal
  | chld | alrm | term
  deriving DecidableEq, Repr

inductive Event (n : Nat)
  /-- The next step of `main`: whether `fork` succeeds, and the zombie `waitpid` returns. -/
  | main (ok : Bool) (pid : Child)
  | mainSleep
  | mainSignal (sig : MainSignal)
  /-- A child gets to its startup barrier; `ok` is false when the time server has no clock. -/
  | boot (p : Child) (ok : Bool)
  | act (a : Act n)
  | fail (r : Role) (e : Errno)
  /-- The handler of SIGTERM or SIGINT runs in a child. -/
  | term (p : Child)
  /-- A worker leaves its loop because of its own `g_running`. -/
  | quit (r : Role)
  | time (ms : Nat)
  | spawner (ok : Bool) (pid : Nat)
  | reaper (own : Bool) (pid : Nat)
  | exit (p : Child)
  | leave (i : Fin n)
  deriving DecidableEq, Repr

/-- A child that has been forked, has passed the barrier if it has one, and has not exited. -/
def World.up (w : World n) (p : Child) : Prop := p ∈ w.children.living ∧ (p = .generator ∨ p ∈ w.booted)

instance (w : World n) (p : Child) : Decidable (w.up p) := inferInstanceAs (Decidable (_ ∧ _))

/-- The call does not concern an object that is gone. -/
def World.answers (w : World n) (o : Option Obj) : Prop := ∀ x ∈ o, x ∉ w.removed

instance (w : World n) (o : Option Obj) : Decidable (w.answers o) :=
  match o with
  | none => .isTrue (by simp [World.answers])
  | some x => decidable_of_iff (x ∉ w.removed) (by simp [World.answers])

def World.ended (w : World n) : Child → Prop
  | .timeServer => w.timeServer = .exited
  | .cashier => w.sys.cashier.pc = .exited
  | .worker r => (w.sys.worker r).pc = .exited
  | .generator => w.gen.spawner = .returned

instance (w : World n) (p : Child) : Decidable (w.ended p) :=
  match p with
  | .timeServer => inferInstanceAs (Decidable (w.timeServer = .exited))
  | .cashier => inferInstanceAs (Decidable (w.sys.cashier.pc = .exited))
  | .worker r => inferInstanceAs (Decidable ((w.sys.worker r).pc = .exited))
  | .generator => inferInstanceAs (Decidable (w.gen.spawner = .returned))

/-- When a step of the simulation proper can be taken. A wait on the semaphore set fails for
good only when the set is gone; other calls of a tourist or of the cashier also fail on a
signal. -/
def World.allows (w : World n) : Act n → Prop
  | .worker r _ => w.up (.worker r) ∧ w.answers (workerCall w.sys (w.sys.worker r).pc) ∧
      ((w.sys.worker r).pc = .top → .worker r ∉ w.term)
  | .sleep r => w.up (.worker r) ∧ w.answers (workerCall w.sys (w.sys.worker r).pc)
  | .deliver r _ => w.up (.worker r)
  | .kill r _ => w.up (.worker r)
  | .cashier => w.up .cashier ∧ w.answers (cashierCall w.sys.cashier.pc) ∧
      (w.sys.cashier.pc = .top → .cashier ∉ w.term)
  | .cashierFail pc => w.up .cashier ∧ (w.sys.cashier.pc = .top → .cashier ∈ w.term) ∧
      (w.sys.cashier.pc = .statsWait → .sem ∈ w.removed) ∧
      (w.sys.cashier.pc ≠ .top → pc = .exited → .cashier ∈ w.removed)
  | .tourist i _ => touristId i ∈ w.gen.children.living ∧ w.answers (touristCall (w.sys.tourists i).pc)
  | .touristCont i => touristId i ∈ w.gen.children.living
  | .touristFail i => touristId i ∈ w.gen.children.living ∧
      (touristInSemop (w.sys.tourists i).pc = true → .sem ∈ w.removed)
  | .tick _ | .close | .shutdown => False

instance (w : World n) (a : Act n) : Decidable (w.allows a) :=
  match a with
  | .worker _ _ | .cashier => inferInstanceAs (Decidable (_ ∧ _ ∧ (_ → _)))
  | .sleep _ | .tourist _ _ => inferInstanceAs (Decidable (_ ∧ _))
  | .deliver r _ | .kill r _ => inferInstanceAs (Decidable (w.up (.worker r)))
  | .cashierFail _ => inferInstanceAs (Decidable (_ ∧ (_ → _) ∧ (_ → _) ∧ (_ → _ → _)))
  | .touristCont _ => inferInstanceAs (Decidable (_ ∈ _))
  | .touristFail _ => inferInstanceAs (Decidable (_ ∧ (_ → _)))
  | .tick _ | .close | .shutdown => .isFalse id

/-! ### The main process -/

def World.stopRunning (w : World n) : World n := { w with sys.shm.running := false }

def cleanupOrder : List Obj := Ipc.queues ++ [.sem, .shm]

/-- One step of `main` outside its handlers. -/
def World.mainStep (w : World n) (ok : Bool) (pid : Child) : Option (World n) :=
  match w.main with
  | .spawn [] => some { w with main := .check }
  | .spawn (p :: rest) =>
    if ok then some { w with
      main := .spawn rest, children := w.children.fork p, spawned := p :: w.spawned }
    else some { w with main := .spawn rest }
  | .check =>
    if ∀ p ∈ staff, p ∈ w.spawned then some { w with main := .barrier }
    else some { w.stopRunning with main := .test }
  | .barrier =>
    if .sem ∈ w.removed then some { w with main := .unready, asleep := false }
    else if workerCountForBarrier ≤ w.ready then
      some { w with main := .spawnGenerator, ready := w.ready - workerCountForBarrier, asleep := false }
    else none
  | .unready => some { w.stopRunning with main := .test }
  | .spawnGenerator =>
    if ok then some { w with
      main := .test, children := w.children.fork .generator, spawned := .generator :: w.spawned }
    else some { w.stopRunning with main := .test }
  | .test =>
    if w.gRunning && w.sys.shm.running then some { w with main := .reapTest }
    else some { w with main := .stop }
  | .reapTest => some { w with main := if w.gChildExited then .reapClear else .overTest }
  | .reapClear => some { w with main := .reapWait, gChildExited := false }
  | .reapWait =>
    if w.children.zombies = [] then some { w with main := .overTest }
    else (w.children.reap pid).map fun c => { w with children := c }
  | .overTest =>
    if w.sys.shm.simEndMinutes ≤ w.sys.shm.simMinutes then
      some { w with main := .stop, sys.shm.closing := true }
    else some { w with main := .arm }
  | .arm => some { w with main := .pause, alarm := true }
  -- `pause()` returns only through a handler.
  | .pause => none
  | .stop => some { w.stopRunning with main := .kill (staff ++ [.generator]) }
  -- The handler runs in the child, at any later time.
  | .kill (_ :: rest) => some { w with main := .kill rest }
  | .kill [] => some { w with main := .rmid (Ipc.queues ++ [.sem]) }
  | .rmid (o :: rest) => some { w with main := .rmid rest, removed := o :: w.removed }
  | .rmid [] => some { w with main := .wait }
  | .wait =>
    if w.children.all = [] then some { w with main := .report, asleep := false }
    else (w.children.reap pid).map fun c => { w with children := c, asleep := false }
  | .report => some { w with main := .destroy }
  | .destroy => some { w with main := .exited, removed := .shm :: w.removed }
  | .exited => none

/-- The call `main` is about to make does not return at once. -/
def World.blocked (w : World n) : Prop :=
  w.main = .pause ∨ w.main = .barrier ∧ .sem ∉ w.removed ∧ w.ready < workerCountForBarrier ∨
    w.main = .wait ∧ w.children.zombies = [] ∧ w.children.living ≠ []

instance (w : World n) : Decidable w.blocked := inferInstanceAs (Decidable (_ ∨ _ ∨ _))

/-- A handler that is running goes on first. -/
def World.mainNext (w : World n) (ok : Bool) (pid : Child) : Option (World n) :=
  match w.handler with
  | o :: rest => some { w with handler := rest, removed := o :: w.removed }
  | [] => w.mainStep ok pid

/-- A handler is entered; `none` when the signal is not pending. -/
def World.mainHandler (w : World n) : MainSignal → Option (World n)
  | .chld => if w.children.sigchld then
      some { w with children := w.children.hear, gChildExited := true } else none
  | .alrm => if w.alarm then some { w with alarm := false } else none
  | .term => some { w with gRunning := false, handler := cleanupOrder ++ w.handler }

/-- The call `main` sleeps in fails with EINTR: the wait for the workers gives up, `pause`
returns and `waitpid` is made again. -/
def World.mainWoken (w : World n) : World n :=
  match w.main with
  | .barrier => { w with main := .unready, asleep := false }
  | .pause => { w with main := .test, asleep := false }
  | _ => { w with asleep := false }

/-! ### The children -/

/-- `ipc_signal_worker_ready` and what comes before it. -/
def World.bootChild (w : World n) (p : Child) (ok : Bool) : World n :=
  if .sem ∉ w.removed ∧ (ok ∨ p ≠ .timeServer) then
    { w with ready := w.ready + 1, booted := p :: w.booted }
  else match p with
    | .timeServer => { w with timeServer := .exited }
    | .cashier => { w with sys := w.sys.serve .exited }
    | .worker r => { w with sys := w.sys.goto r .exited }
    | .generator => w

/-- The handler clears `g_running`, and makes the call a worker sleeps in fail. -/
def World.termChild (w : World n) (p : Child) : World n :=
  match p with
  | .worker r => { w with
      term := p :: w.term
      sys := if (w.sys.worker r).asleep then interrupted w.sys r else w.sys }
  | .generator => { w with gen := { w.gen with gRunning := false } }
  | _ => { w with term := p :: w.term }

/-- One step of `time_server_main`; the published time never goes back. -/
def World.timeStep (w : World n) (ms : Nat) : Option (World n) :=
  match w.timeServer with
  | .firstUpdate => (step w.sys (.tick ms)).map fun s => { w with sys := s, timeServer := .top }
  | .top =>
    if .timeServer ∉ w.term ∧ w.sys.shm.running = true then some { w with timeServer := .update }
    else some { w with timeServer := .exited }
  | .update => (step w.sys (.tick ms)).map fun s => { w with sys := s, timeServer := .pause }
  -- The interval timer ends every `pause()`.
  | .pause => some { w with timeServer := .top }
  | .exited => none

def leaveLoop (s : Sys n) (r : Role) : Sys n :=
  match r with
  | .lower => s.goto r (.lower (.dispatchWait .shutdown))
  | .upper => s.goto r .exited

def World.step (w : World n) : Event n → Option (World n)
  | .main ok pid => w.mainNext ok pid
  | .mainSleep =>
    if w.handler = [] ∧ w.asleep = false ∧ w.blocked then some { w with asleep := true } else none
  | .mainSignal sig =>
    (w.mainHandler sig).map fun w' => if w.asleep then w'.mainWoken else w'
  | .boot p ok =>
    if p ∈ w.children.living ∧ p ∈ staff ∧ p ∉ w.booted ∧ ¬w.ended p then some (w.bootChild p ok)
    else none
  | .act a => if w.allows a then (Ropeway.step w.sys a).map fun s => { w with sys := s } else none
  | .fail r e =>
    if w.up (.worker r) ∧ ¬w.answers (workerCall w.sys (w.sys.worker r).pc) then
      (workerFailure w.sys r e).map fun s => { w with sys := s }
    else none
  | .term p => if w.up p then some (w.termChild p) else none
  | .quit r =>
    if w.up (.worker r) ∧ (w.sys.worker r).pc = .top ∧ .worker r ∈ w.term then
      some { w with sys := leaveLoop w.sys r }
    else none
  | .time ms => if w.up .timeServer then w.timeStep ms else none
  | .spawner ok pid =>
    if w.up .generator then
      (w.gen.spawn n ⟨w.sys.shm.running, w.sys.shm.closing, ok, pid⟩).map fun g => { w with gen := g }
    else none
  | .reaper own pid =>
    if w.up .generator then (w.gen.reap own pid).map fun g => { w with gen := g } else none
  | .exit p =>
    if w.ended p then (w.children.exit p).map fun c => { w with children := c } else none
  | .leave i =>
    if (w.sys.tourists i).pc = .gone then
      (w.gen.children.exit (touristId i)).map fun c => { w with gen := { w.gen with children := c } }
    else none

abbrev WorldTrace (n : Nat) := List (World n × Event n)

abbrev WorldEnv (n : Nat) := WorldTrace n → World n → Event n → Bool

def anyEvent : WorldEnv n := fun _ _ _ => true

abbrev WorldRuns (env : WorldEnv n) (u : Setup n) (tr : WorldTrace n) (w : World n) : Prop :=
  Lib.Run World.step env u.world tr w

def worldReaches (env : WorldEnv n) (u : Setup n) (es : List (Event n))
    (test : WorldTrace n → World n → Bool) : Bool :=
  (Lib.exec World.step env [] es u.world).any (fun p => test p.1 p.2)

theorem exists_world_run {env : WorldEnv n} {u : Setup n} {es : List (Event n)}
    {test : WorldTrace n → World n → Bool} (h : worldReaches env u es test = true) :
    ∃ tr w, WorldRuns env u tr w ∧ test tr w = true := Lib.exists_run es test h

def mains (k : Nat) : List (Event n) := List.replicate k (.main true .generator)

def acts (l : List (Act n)) : List (Event n) := l.map .act

/-- All children are spawned and pass the barrier, and the generator is started. -/
def launch : List (Event n) := mains 6 ++ staff.map (.boot · true) ++ mains 2

def spawnerSteps (k : Nat) : List (Event n) := List.replicate k (.spawner true 1)

def firstRide : List (Event n) := launch ++ spawnerSteps 6 ++ acts (rideAlone 0 ++ walks 0 8)

end Ropeway
