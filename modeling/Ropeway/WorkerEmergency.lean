import Ropeway.State

/-! `common/worker_emergency.c` and the part of `ipc/sync.c` it calls, one atomic
step for each access to a shared object. -/

namespace Ropeway

variable {n : Nat}

/-- `get_my_dest`: the message type a worker reads from `MQ_WORKER`;
`get_other_dest` is this at the other role. -/
def Role.dest : Role → Nat
  | .lower => 1
  | .upper => 2

@[simp] theorem Role.dest_other_ne (r : Role) : r.other.dest ≠ r.dest := by
  cases r <;> decide

@[simp] theorem Role.dest_ne_other (r : Role) : r.dest ≠ r.other.dest := by
  cases r <;> decide

def WorkerMsg.to (r : Role) (t : WorkerMsgType) : WorkerMsg := ⟨r.dest, t⟩

def receiveWorker (s : Sys n) (r : Role) : Option (WorkerMsg × List WorkerMsg) :=
  Lib.msgrcv WorkerMsg.mtype s.mqWorker r.dest

def Sys.enterAck (s : Sys n) (r : Role) : Sys n :=
  s.setWorker r { s.worker r with pc := .ack .waitState, asleep := false, isInitiator := false }

def workerTriggerEmergencyStop (r : Role) (s : Sys n) : TriggerPc → Option (Sys n)
  | .tryWait =>
    match semWait s .emergencyLock 1 with
    | none => some (s.enterAck r)
    | some s' => some (s'.goto r (.trigger .stamp))
  | .stamp =>
    some (s.setWorker r { s.worker r with
      pc := .trigger .waitState
      isInitiator := true
      emergencyStart := s.shm.currentSimTimeMs })
  | .waitState => (semWait s .state 1).map (·.goto r (.trigger .setFlag))
  | .setFlag => some ({ s with shm.emergencyStop := true }.goto r (.trigger .postState))
  | .postState => some ((semPost s .state 1).goto r (.trigger .kill))
  | .kill =>
    some ((s.setWorker r.other { s.worker r.other with pendingUsr1 := true }).goto r .top)
  -- The return after an interrupted wait: the lock goes back, the flags stay set.
  | .unlock => some ((semPost s .emergencyLock 1).goto r .top)

def workerAcknowledgeEmergencyStop (r : Role) (s : Sys n) : AckPc → Option (Sys n)
  | .waitState => (semWait s .state 1).map (·.goto r (.ack .setFlag))
  | .setFlag => some ({ s with shm.emergencyStop := true }.goto r (.ack .postState))
  | .postState => some ((semPost s .state 1).goto r (.ack .receive))
  -- The type of the message is only logged when it is unexpected.
  | .receive => (receiveWorker s r).map (fun (_,q) => { s with mqWorker := q }.goto r (.ack .send))
  | .send =>
    some ({ s with mqWorker := s.mqWorker ++ [WorkerMsg.to r.other .iAmReady] }.goto r (.ack .waitClear))
  | .waitClear => (semWait s .state 1).map (·.goto r (.ack .clear))
  | .clear => some ({ s with shm.emergencyStop := false }.goto r (.ack .postClear))
  | .postClear => some ((semPost s .state 1).goto r .top)

def workerInitiateResume (r : Role) (s : Sys n) : ResumePc → Option (Sys n)
  | .send =>
    some ({ s with mqWorker := s.mqWorker ++ [WorkerMsg.to r.other .readyToResume] }.goto r
      (.resume .receive))
  | .receive =>
    (receiveWorker s r).map (fun (_,q) => { s with mqWorker := q }.goto r (.resume .kill))
  | .kill =>
    some ((s.setWorker r.other { s.worker r.other with pendingUsr2 := true }).goto r
      (.resume .waitState))
  | .waitState => (semWait s .state 1).map (·.goto r (.resume .clear))
  | .clear => some ({ s with shm.emergencyStop := false }.goto r (.resume .postState))
  | .postState => some ((semPost s .state 1).goto r (.resume .releaseWait))
  | .releaseWait => (semWait s .state 1).map (·.goto r (.resume .releaseTake))
  | .releaseTake =>
    some ({ s with shm.emergencyWaiters := 0 }.goto r
      (.resume (.releasePost s.shm.emergencyWaiters)))
  | .releasePost k => some ((semPost s .state 1).goto r (.resume (.releaseTokens k)))
  | .releaseTokens k => some ((semPost s .emergencyClear k).goto r (.resume .unlock))
  | .unlock => some ((semPost s .emergencyLock 1).goto r (.resume .finish))
  | .finish =>
    some (s.setWorker r { s.worker r with
      pc := .top
      asleep := false
      isInitiator := false
      emergencyStart := 0 })

/-- `check_for_danger`, the same code in both workers; `x` is the value of
`rand()`. -/
def checkForDanger (r : Role) (s : Sys n) (x : Nat) : Sys n :=
  let w := s.worker r
  if s.shm.dangerProbability ≤ 0 then s.goto r .top
  else if 0 < w.lastDanger ∧
      (s.shm.currentSimTimeMs : Int) - w.lastDanger < minutesMs s.shm.dangerDurationSim then
    s.goto r .top
  else if ((x % 100 : Nat) : Int) < s.shm.dangerProbability then
    s.setWorker r { w with
      pc := .trigger .tryWait
      asleep := false
      lastDanger := s.shm.currentSimTimeMs }
  else s.goto r .top

def workerLoopHead (r : Role) (s : Sys n) : WorkerPc → Option (Sys n)
  | .top =>
    if !s.shm.running then
      match r with
      | .lower => some (s.goto r (.lower (.dispatchWait .shutdown)))
      | .upper => some (s.goto r .exited)
    else if (s.worker r).emergencySignal then
      some (s.setWorker r { s.worker r with emergencySignal := false } |>.enterAck r)
    else some (s.goto r .checkResume)
  | .checkResume =>
    some (s.setWorker r { s.worker r with
      pc := .checkInitiator
      asleep := false
      resumeSignal := false })
  | .checkInitiator =>
    let w := s.worker r
    if w.isInitiator ∧ 0 < w.emergencyStart then
      if minutesMs s.shm.dangerDurationSim ≤ (s.shm.currentSimTimeMs : Int) - w.emergencyStart then
        some (s.goto r (.resume .send))
      else some (s.goto r .pauseArm)
    else
      match r with
      | .lower => some (s.goto r (.lower .checkWait))
      | .upper => some (s.goto r (.upper .receive))
  | .pauseArm =>
    some (s.setWorker r { s.worker r with pc := .pause, asleep := false, alarm := true })
  -- `pause()` returns only through a handler.
  | _ => none

end Ropeway
