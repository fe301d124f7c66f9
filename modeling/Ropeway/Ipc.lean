import Ropeway.Lib.Registry

/-! The IPC objects of a simulation and the main process that creates and removes them:
`ipc/ipc.c`, `shm.c`, `sem.c`, `mq.c`, `lifecycle/process_signals.c` and `main.c`. Each
system call and each access to the segment or to `g_res` is a step of its own. -/

namespace Ropeway.Ipc

inductive Obj
  | shm | sem | cashier | platform | boarding | arrivals | worker
  deriving DecidableEq, Repr

def queues : List Obj := [.cashier, .platform, .boarding, .arrivals, .worker]

/-- The objects of the machine and `main_pid` in each segment. A removed segment lives on
where it is attached, and the ids of removed objects are not used again. -/
structure Kernel where
  objects : Lib.Registry Obj
  mainPid : Nat → Nat

def Kernel.get (k : Kernel) (o : Obj) : Option Nat := k.objects.table o

def Kernel.rmid (k : Kernel) (id : Nat) : Kernel := { k with objects := k.objects.remove id }

/-- `IPC_CREAT | IPC_EXCL`. The kernel hands out segments filled with zeros. -/
def Kernel.create (k : Kernel) (o : Obj) : Option (Nat × Kernel) :=
  (k.objects.create o).map (fun (id,g) =>
    (id, { objects := g, mainPid := Function.update k.mainPid id 0 }))

def Kernel.storePid (k : Kernel) (shm pid : Nat) : Kernel :=
  { k with mainPid := Function.update k.mainPid shm pid }

/-- The id -1 is `none`; `state` is the attached segment. -/
structure IPCResources where
  id : Obj → Option Nat
  state : Option Nat

def IPCResources.init : IPCResources := ⟨fun _ => none, none⟩

def IPCResources.setId (res : IPCResources) (o : Obj) (id : Option Nat) : IPCResources :=
  { res with id := Function.update res.id o id }

inductive Teardown
  /-- `if (id != -1) { ctl(id, IPC_RMID); id = -1; }` -/
  | rmid (o : Obj)
  /-- `if (state) { shmdt(state); state = NULL; }` -/
  | shmdt
  deriving DecidableEq, Repr

def ipcMqDestroy : List Teardown := queues.map .rmid

def ipcSemDestroy : List Teardown := [.rmid .sem]

def ipcShmDestroy : List Teardown := [.shmdt, .rmid .shm]

def ipcDestroy : List Teardown := ipcMqDestroy ++ ipcSemDestroy ++ ipcShmDestroy

def ipcMqDestroySignalSafe : List Teardown := queues.map .rmid

def ipcSemDestroySignalSafe : List Teardown := [.rmid .sem]

def ipcShmDestroySignalSafe : List Teardown := [.rmid .shm]

def ipcCleanupSignalSafe : List Teardown :=
  ipcMqDestroySignalSafe ++ ipcSemDestroySignalSafe ++ ipcShmDestroySignalSafe

def shutdownWorkers : List Teardown := queues.map .rmid ++ [.rmid .sem]

inductive Substep
  | test | ctl | clear
  deriving DecidableEq, Repr

structure Removal where
  todo : List Teardown
  sub : Substep

def Removal.start (l : List Teardown) : Removal := ⟨l, .test⟩

/-- The next step of a removal. The id is read again for the call. -/
def Removal.next (k : Kernel) (res : IPCResources) (r : Removal) : Kernel × IPCResources × Removal :=
  match r.todo, r.sub with
  | [], _ => (k, res, r)
  | .shmdt :: l, _ => (k, { res with state := none }, ⟨l, .test⟩)
  | .rmid o :: l, .test =>
    if res.id o = none then (k, res, ⟨l, .test⟩) else (k, res, ⟨.rmid o :: l, .ctl⟩)
  | .rmid o :: l, .ctl =>
    match res.id o with
    | some id => (k.rmid id, res, ⟨.rmid o :: l, .clear⟩)
    | none => (k, res, ⟨.rmid o :: l, .clear⟩)
  | .rmid o :: l, .clear => (k, res.setId o none, ⟨l, .test⟩)

inductive StalePc
  | shmget
  | shmat (shm : Nat)
  | read (shm : Nat)
  | kill (shm mainPid : Nat)
  | msgget (shm : Nat) (ids : List (Option Nat)) (rest : List Obj)
  | msgctl (shm : Nat) (ids : List (Option Nat))
  | semget (shm : Nat)
  | semctl (shm sem : Nat)
  | shmctl (shm : Nat)
  deriving DecidableEq, Repr

/-- Places of `ipc_create`; `cleanup` is its error path. -/
inductive CreatePc
  | shmget | shmat | zero | semget | setall
  | msgget (rest : List Obj)
  | init
  | cleanup (r : Removal)

inductive TermSignal
  | int | term
  deriving DecidableEq, Repr

inductive MainPc
  | stale (p : StalePc)
  | create (p : CreatePc)
  | timeInit | storePid
  | sigaction (rest : List TermSignal)
  | spawn | loop
  | shutdown (r : Removal)
  | waitForWorkers | report
  | destroy (r : Removal)
  | exited (status : Nat)

structure Main where
  pid : Nat
  pc : MainPc
  res : IPCResources
  gRunning : Bool
  gMainPid : Nat
  /-- The signals whose handler is installed. -/
  installed : List TermSignal
  /-- The handlers on the stack, the innermost first. -/
  frames : List (TermSignal × Removal)

def Main.init (pid : Nat) : Main := ⟨pid, .stale .shmget, .init, true, 0, [], []⟩

def Main.goto (p : Main) (pc : MainPc) : Main := { p with pc := pc }

/-- One step of `ipc_cleanup_stale`. `alive` is what `kill(pid, 0)` finds. Whether a
removed segment can still be attached by its id depends on the system and on who has it
attached: `x` decides. -/
def ipcCleanupStale (alive : Nat → Bool) (k : Kernel) (x : Bool) : StalePc → Kernel × MainPc
  | .shmget =>
    match k.get .shm with
    | none => (k, .create .shmget)
    | some shm => (k, .stale (.shmat shm))
  | .shmat shm =>
    if k.get .shm = some shm ∨ x then (k, .stale (.read shm)) else (k, .create .shmget)
  | .read shm => (k, .stale (.kill shm (k.mainPid shm)))
  | .kill shm mainPid =>
    if 0 < mainPid ∧ alive mainPid then (k, .create .shmget)
    else (k, .stale (.msgget shm [] queues))
  | .msgget shm ids [] => (k, .stale (.msgctl shm ids))
  | .msgget shm ids (o :: rest) => (k, .stale (.msgget shm (ids ++ [k.get o]) rest))
  | .msgctl shm [] => (k, .stale (.semget shm))
  | .msgctl shm (none :: ids) => (k, .stale (.msgctl shm ids))
  | .msgctl shm (some id :: ids) => (k.rmid id, .stale (.msgctl shm ids))
  | .semget shm =>
    match k.get .sem with
    | none => (k, .stale (.shmctl shm))
    | some sem => (k, .stale (.semctl shm sem))
  | .semctl shm sem => (k.rmid sem, .stale (.shmctl shm))
  | .shmctl shm => (k.rmid shm, .create .shmget)

def CreatePc.failed : CreatePc := .cleanup (.start ipcDestroy)

def createObject (k : Kernel) (res : IPCResources) (o : Obj) (next : CreatePc) :
    Kernel × IPCResources × MainPc :=
  match k.create o with
  | none => (k, res, .create .failed)
  | some (id,k') => (k', res.setId o (some id), .create next)

/-- One step of `ipc_create`. `SETALL` fails on a set that is gone. -/
def ipcCreate (k : Kernel) (res : IPCResources) (x : Bool) : CreatePc → Kernel × IPCResources × MainPc
  | .shmget => createObject k res .shm .shmat
  | .shmat =>
    if k.get .shm = res.id .shm ∨ x then (k, { res with state := res.id .shm }, .create .zero)
    else (k, res, .create .failed)
  | .zero =>
    match res.state with
    | some shm => (k.storePid shm 0, res, .create .semget)
    | none => (k, res, .create .semget)
  | .semget => createObject k res .sem .setall
  | .setall =>
    if k.get .sem = res.id .sem then (k, res, .create (.msgget queues))
    else (k, res, .create .failed)
  | .msgget [] => (k, res, .create .init)
  | .msgget (o :: rest) => createObject k res o (.msgget rest)
  | .init => (k, res, .timeInit)
  | .cleanup r =>
    match r.todo with
    | [] => (k, res, .exited 1)
    | _ :: _ => ((r.next k res).1, (r.next k res).2.1, .create (.cleanup (r.next k res).2.2))

def Main.remove (p : Main) (k : Kernel) (r : Removal) (place : Removal → MainPc) (after : MainPc) :
    Kernel × Main :=
  match r.todo with
  | [] => (k, p.goto after)
  | _ :: _ => ((r.next k p.res).1, { p with res := (r.next k p.res).2.1, pc := place (r.next k p.res).2.2 })

/-- One step of `main` outside its handlers. In the main loop `x` says that `running` has
been cleared or that the simulation time is over. -/
def Main.program (alive : Nat → Bool) (k : Kernel) (p : Main) (x : Bool) : Option (Kernel × Main) :=
  match p.pc with
  | .stale c => some ((ipcCleanupStale alive k x c).1, p.goto (ipcCleanupStale alive k x c).2)
  | .create c =>
    some ((ipcCreate k p.res x c).1,
      { p with res := (ipcCreate k p.res x c).2.1, pc := (ipcCreate k p.res x c).2.2 })
  | .timeInit => some (k, p.goto .storePid)
  | .storePid =>
    match p.res.state with
    | some shm => some (k.storePid shm p.pid, { p with pc := .sigaction [.int, .term], gMainPid := p.pid })
    | none => none
  | .sigaction [] => some (k, p.goto .spawn)
  | .sigaction (sig :: rest) =>
    some (k, { p with pc := .sigaction rest, installed := sig :: p.installed })
  | .spawn => some (k, p.goto .loop)
  | .loop =>
    if !p.gRunning || x then some (k, p.goto (.shutdown (.start shutdownWorkers)))
    else some (k, p)
  | .shutdown r => some (p.remove k r .shutdown .waitForWorkers)
  | .waitForWorkers => some (k, p.goto .report)
  | .report => some (k, p.goto (.destroy (.start ipcDestroy)))
  | .destroy r => some (p.remove k r .destroy (.exited 0))
  | .exited _ => none

/-- One step of the main process: the innermost handler runs first. -/
def Main.step (alive : Nat → Bool) (k : Kernel) (p : Main) (x : Bool) : Option (Kernel × Main) :=
  match p.frames with
  | [] => p.program alive k x
  | (sig,r) :: fs =>
    match r.todo with
    | [] => some (k, { p with frames := fs })
    | _ :: _ => some ((r.next k p.res).1,
        { p with res := (r.next k p.res).2.1, frames := (sig, (r.next k p.res).2.2) :: fs })

theorem Main.step_calm {p : Main} (h : p.frames = []) (alive : Nat → Bool) (k : Kernel) (x : Bool) :
    p.step alive k x = p.program alive k x := by
  unfold Main.step
  rw [h]

def Main.sigtermHandler (p : Main) (sig : TermSignal) : Main :=
  if p.gMainPid = 0 ∨ p.pid ≠ p.gMainPid then { p with gRunning := false }
  else { p with gRunning := false, frames := (sig, .start ipcCleanupSignalSafe) :: p.frames }

end Ropeway.Ipc
