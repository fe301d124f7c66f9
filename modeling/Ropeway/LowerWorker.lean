import Ropeway.WorkerEmergency

/-! `processes/lower_worker.c`: boarding, requeueing and `dispatch_chair`. -/

namespace Ropeway

variable {n : Nat}

def nextChair (k : Nat) : Nat := k % totalChairs + 1

def confirmation (l : LowerLocals) (p : PendingBoarding) : PlatformMsg where
  mtype := p.touristId
  touristId := p.touristId
  touristType := .walker
  slotsNeeded := 0
  kidCount := 0
  departureTime := l.departureTime
  chairId := l.chairNumber
  touristsOnChair := l.pending.length

/-- `current_chair_slots = 0` and the next chair number, after three of the four
calls of `dispatch_chair`. -/
def LowerLocals.newChair (l : LowerLocals) : LowerLocals :=
  { l with currentChairSlots := 0, chairNumber := nextChair l.chairNumber }

def afterDispatch (s : Sys n) : Site → Sys n
  | .timeout => { s with lower := s.lower.newChair }.goto .lower .top
  | .noFit => { s with lower := s.lower.newChair }.goto .lower (.lower .requeue)
  | .full => { s with lower := s.lower.newChair }.goto .lower .danger
  | .shutdown => s.goto .lower .exited

/-- Both requeue paths put the message back with `mtype` 1. -/
def requeuePlatform (s : Sys n) : Sys n :=
  { s with mqPlatform := s.mqPlatform ++ [{ s.lower.msg with mtype := 1 }] }.goto .lower .top

def receivePlatform (s : Sys n) : Option (PlatformMsg × List PlatformMsg) :=
  Lib.msgrcv PlatformMsg.mtype s.mqPlatform (-2)

def LowerLocals.fits (l : LowerLocals) : Bool :=
  l.currentChairSlots + l.msg.slotsNeeded ≤ chairCapacity

def LowerLocals.buffer (l : LowerLocals) : LowerLocals :=
  { l with
    pending := if l.pending.length < 4 then
        l.pending ++ [⟨l.msg.touristId, l.msg.slotsNeeded⟩]
      else l.pending
    currentChairSlots := l.currentChairSlots + l.msg.slotsNeeded }

/-- One step of `lower_worker_main` below the common head; `x` is the clock value
that `time(NULL)` returns in `dispatch_chair`. -/
def lowerWorkerMain (s : Sys n) (x : Nat) : LowerPc → Option (Sys n)
  | .checkWait => (semWait s .state 1).map (·.goto .lower (.lower .checkRead))
  | .checkRead =>
    some (s.setWorker .lower { s.worker .lower with
      pc := .lower .checkPost
      asleep := false
      emergency := s.shm.emergencyStop })
  | .checkPost =>
    if (s.worker .lower).emergency then some ((semPost s .state 1).enterAck .lower)
    else some ((semPost s .state 1).goto .lower (.lower .arm))
  | .arm =>
    some (s.setWorker .lower { s.worker .lower with
      pc := .lower .receive
      asleep := false
      alarm := true })
  | .receive =>
    (receivePlatform s).map (fun (m,q) =>
      { s with mqPlatform := q, lower := { s.lower with msg := m } }.setWorker .lower
        { s.worker .lower with pc := .lower .recheckWait, asleep := false, alarm := false })
  | .recheckWait => (semWait s .state 1).map (·.goto .lower (.lower .recheckRead))
  | .recheckRead =>
    some (s.setWorker .lower { s.worker .lower with
      pc := .lower .recheckPost
      asleep := false
      emergency := s.shm.emergencyStop })
  | .recheckPost =>
    if (s.worker .lower).emergency then
      some ((semPost s .state 1).goto .lower (.lower .requeueStop))
    else some ((semPost s .state 1).goto .lower (.lower .place))
  | .requeueStop => some (requeuePlatform s)
  | .place =>
    if s.lower.fits then
      if chairCapacity ≤ s.lower.buffer.currentChairSlots then
        some ({ s with lower := s.lower.buffer }.goto .lower (.lower (.dispatchWait .full)))
      else some ({ s with lower := s.lower.buffer }.goto .lower .danger)
    else if s.lower.pending = [] then
      some ({ s with lower := s.lower.newChair }.goto .lower (.lower .requeue))
    else some (s.goto .lower (.lower (.dispatchWait .noFit)))
  | .requeue => some (requeuePlatform s)
  | .dispatchWait site =>
    if s.lower.pending = [] then some (afterDispatch s site)
    else (semWait s .chairs 1).map (fun s' =>
      { s' with lower := { s'.lower with departureTime := x } }.goto .lower
        (.lower (.dispatchSend site 0)))
  | .dispatchSend site i =>
    match s.lower.pending[i]? with
    | some p =>
      some ({ s with mqBoarding := s.mqBoarding ++ [confirmation s.lower p] }.goto .lower
        (.lower (.dispatchSend site (i + 1))))
    | none => some (afterDispatch { s with lower := { s.lower with pending := [] } } site)

/-- The platform `msgrcv` failed with EINTR: cancel the timer and dispatch what
is buffered. -/
def platformInterrupted (s : Sys n) : Sys n :=
  s.setWorker .lower { s.worker .lower with
    pc := if s.lower.pending = [] then .top else .lower (.dispatchWait .timeout)
    asleep := false
    alarm := false }

end Ropeway
