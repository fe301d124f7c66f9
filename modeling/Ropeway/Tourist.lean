import Ropeway.Cashier

/-! The tourist process: `tourist/lifecycle.c`, `boarding.c`, `stats.c`,
`ipc_wait_emergency_clear` and the ride loop of `tourist/main.c`. -/

namespace Ropeway

variable {n : Nat}

/-- The request of `tourist_buy_ticket`. The field `ticket_valid_until` is not
initialised there and not read by the cashier. -/
def TouristData.request (d : TouristData) : CashierMsg where
  mtype := msgCashierRequest
  touristId := d.id
  touristType := d.type
  age := d.age
  isVip := d.isVip
  ticketType := some d.ticketType
  ticketValidUntil := 0
  kidCount := d.kidCount

def TouristData.platformMsg (d : TouristData) : PlatformMsg where
  mtype := 2
  touristId := d.id
  touristType := d.type
  slotsNeeded := d.chairSlots
  kidCount := d.kidCount
  departureTime := 0
  chairId := 0
  touristsOnChair := 0

def Tourist.arrival (t : Tourist) : ArrivalMsg where
  mtype := 1
  touristId := t.data.id
  touristType := t.data.type
  kidCount := t.data.kidCount
  chairId := t.chairId
  touristsOnChair := t.touristsOnChair

def touristIsTicketValid (m : SharedState) (d : TouristData) : Bool :=
  if d.ticketType = .single then d.ridesCompleted == 0
  else m.simMinutes < d.ticketValidUntil

def touristIsTooScared (m : SharedState) (d : TouristData) (x : Nat) : Bool :=
  m.scaredEnabled && !(1 < d.ridesCompleted) && x % 10 == 0

/-- The critical section of `tourist_record_entry`; `idx = id - 1` is negative
for id 0. -/
def SharedState.recordEntry (m : SharedState) (d : TouristData) : SharedState :=
  if 0 < d.id ∧ d.id - 1 < m.maxTrackedTourists then
    { m with
      touristEntries := m.touristEntries.set (d.id - 1)
        ⟨true, d.id, some d.ticketType, m.simMinutes, 0, d.isVip, d.type, d.kidCount⟩
      touristEntryCount := max m.touristEntryCount d.id }
  else m

def SharedState.updateStats (m : SharedState) (d : TouristData) : SharedState :=
  { m with
    totalRides := m.totalRides + (1 + d.kidCount)
    ridesByTicket := Function.update m.ridesByTicket d.ticketType
      (m.ridesByTicket d.ticketType + (1 + d.kidCount))
    touristEntries :=
      if 0 < d.id ∧ d.id - 1 < m.maxTrackedTourists then
        m.touristEntries.modify (d.id - 1) (fun e => { e with totalRides := e.totalRides + 1 })
      else m.touristEntries }

def receiveBoarding (s : Sys n) (d : TouristData) : Option (PlatformMsg × List PlatformMsg) :=
  Lib.msgrcv PlatformMsg.mtype s.mqBoarding d.id

def receiveTicket (s : Sys n) (d : TouristData) : Option (CashierMsg × List CashierMsg) :=
  Lib.msgrcv CashierMsg.mtype s.mqCashier (responseType d.id)

/-- One step of tourist `i`. The value `x` is what the outside world answers in
that step: `rand()` when the tourist may be scared, and the seconds the ride
still takes when it is on a chair. -/
def touristMain (s : Sys n) (i : Fin n) (x : Nat) : Option (Sys n) :=
  let t := s.tourists i
  match t.pc with
  | .buySend => (sendCashier s t.data.request).map (·.walk i .buyReceive)
  | .buyReceive =>
    (receiveTicket s t.data).map (fun (m,q) =>
      match m.ticketType with
      | none => { s with mqCashier := q }.walk i .gone
      | some k => { s with mqCashier := q }.setTourist i { t with
          pc := .recordWait
          data := { t.data with ticketType := k, ticketValidUntil := m.ticketValidUntil } })
  | .recordWait => (semWait s .stats 1).map (·.walk i .recordEntry)
  | .recordEntry => some ({ s with shm := s.shm.recordEntry t.data }.walk i .recordPost)
  | .recordPost => some ((semPost s .stats 1).walk i .loopTop)
  | .loopTop =>
    if !s.shm.running then some (s.walk i .gone)
    else if touristIsTicketValid s.shm t.data then some (s.walk i .closingWait)
    else some (s.walk i .gone)
  | .closingWait => (semWait s .state 1).map (·.walk i .closingRead)
  | .closingRead =>
    some (s.setTourist i { t with pc := .closingPost, closing := s.shm.closing })
  | .closingPost =>
    some ((semPost s .state 1).walk i
      (if t.closing then .gone else if t.data.isVip then .stationWait else .gateWait))
  | .gateWait => (semWait s .entryGates 1).map (·.walk i .stationWait)
  | .stationWait => (semWait s .lowerStation t.data.stationSlots).map (·.walk i .countWait)
  | .countWait => (semWait s .state 1).map (·.walk i .countAdd)
  | .countAdd =>
    some ({ s with
      shm.lowerStationCount := s.shm.lowerStationCount + t.data.stationSlots }.walk i .countPost)
  | .countPost =>
    some ((semPost s .state 1).walk i (if t.data.isVip then .scaredCheck else .gatePost))
  | .gatePost => some ((semPost s .entryGates 1).walk i .scaredCheck)
  | .scaredCheck =>
    some (s.walk i (if touristIsTooScared s.shm t.data x then .leaveWait else .platformWait))
  -- Leaving the station without boarding: a scared tourist, or no platform gate.
  | .leaveWait => (semWait s .state 1).map (·.walk i .leaveSub)
  | .leaveSub =>
    some ({ s with
      shm.lowerStationCount := s.shm.lowerStationCount - t.data.stationSlots }.walk i .leavePost)
  | .leavePost => some ((semPost s .state 1).walk i .leaveStation)
  | .leaveStation => some ((semPost s .lowerStation t.data.stationSlots).walk i .gone)
  | .platformWait => (semWait s .platformGates 1).map (·.walk i .departWait)
  | .departWait => (semWait s .state 1).map (·.walk i .departSub)
  | .departSub =>
    some ({ s with
      shm.lowerStationCount := s.shm.lowerStationCount - t.data.stationSlots }.walk i .departPost)
  | .departPost => some ((semPost s .state 1).walk i .departStation)
  | .departStation => some ((semPost s .lowerStation t.data.stationSlots).walk i .boardWait)
  | .boardWait => (semWait s .state 1).map (·.walk i .boardRead)
  | .boardRead =>
    some (s.setTourist i { t with pc := .boardPost, emergency := s.shm.emergencyStop })
  | .boardPost =>
    some ((semPost s .state 1).walk i (if t.emergency then .clearWait else .boardSend))
  | .clearWait => (semWait s .state 1).map (·.walk i .clearRead)
  | .clearRead =>
    some ({ s with
      shm.emergencyWaiters :=
        if s.shm.emergencyStop then s.shm.emergencyWaiters + 1 else s.shm.emergencyWaiters
      }.setTourist i { t with pc := .clearPost, emergency := s.shm.emergencyStop })
  | .clearPost =>
    some ((semPost s .state 1).walk i (if t.emergency then .clearSleep else .boardSend))
  | .clearSleep => (semWait s .emergencyClear 1).map (·.walk i .boardSend)
  | .boardSend =>
    some ({ s with mqPlatform := s.mqPlatform ++ [t.data.platformMsg] }.walk i .boardReceive)
  | .boardReceive =>
    (receiveBoarding s t.data).map (fun (m,q) =>
      { s with mqBoarding := q }.setTourist i { t with
        pc := .platformPost
        departureTime := m.departureTime
        chairId := m.chairId
        touristsOnChair := m.touristsOnChair })
  | .platformPost => some ((semPost s .platformGates 1).walk i .ride)
  | .ride => some (s.walk i (if x = 0 ∨ s.shm.running then .exitWait else .gone))
  | .exitWait => (semWait s .exitGates 1).map (·.walk i .arriveSend)
  | .arriveSend =>
    some ({ s with mqArrivals := s.mqArrivals ++ [t.arrival] }.walk i .exitPost)
  | .exitPost => some ((semPost s .exitGates 1).walk i .descend)
  | .descend =>
    if s.shm.running then
      some (s.setTourist i { t with
        pc := .updateWait
        data := { t.data with ridesCompleted := t.data.ridesCompleted + 1 } })
    else some (s.walk i .gone)
  | .updateWait => (semWait s .stats 1).map (·.walk i .updateStats)
  | .updateStats => some ({ s with shm := s.shm.updateStats t.data }.walk i .updatePost)
  | .updatePost => some ((semPost s .stats 1).walk i .rideDone)
  | .rideDone => some (s.walk i (if t.data.ticketType = .single then .gone else .loopTop))
  -- The error paths: give back what is held and leave the loop.
  | .failGate => some ((semPost s .entryGates 1).walk i .gone)
  | .failGateStation => some ((semPost s .entryGates 1).walk i .failStation)
  | .failStation => some ((semPost s .lowerStation t.data.stationSlots).walk i .gone)
  | .failPlatform => some ((semPost s .platformGates 1).walk i .gone)
  | .gone => none

/-- The IPC call tourist `i` is about to make fails: the place of the error path it
takes. A wait or receive fails when its object has been removed, a send also when a
handler runs. At the three tests of `g_running` SIGTERM or SIGINT has cleared it.
`sem_post` is treated as not failing and `none` stands for the places without such a
call. -/
def touristFailure (d : TouristData) : TouristPc → Option TouristPc
  | .buySend | .buyReceive => some .gone
  | .recordWait => some .loopTop
  | .closingWait | .gateWait => some .gone
  | .stationWait => some (if d.isVip then .gone else .failGate)
  | .countWait => some (if d.isVip then .failStation else .failGateStation)
  | .leaveWait => some .leaveStation
  | .platformWait => some .leaveWait
  | .departWait => some .departStation
  | .boardWait => some .failPlatform
  | .clearWait | .clearSleep => some .boardSend
  | .boardSend | .boardReceive => some .failPlatform
  | .exitWait => some .gone
  -- A failed arrival message is ignored.
  | .arriveSend => some .exitPost
  | .updateWait => some .rideDone
  | .loopTop | .ride | .descend => some .gone
  | _ => none

/-- A stop and continue makes a blocked `semop` fail with EINTR.
`sem_wait_pauseable` tries again; the two `sem_wait` of
`ipc_wait_emergency_clear` give up. -/
def touristInterrupted : TouristPc → Option TouristPc
  | .clearWait | .clearSleep => some .boardSend
  | _ => none

end Ropeway
