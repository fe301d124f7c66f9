import Ropeway.Config
import Ropeway.Lib.Queue
import Mathlib.Logic.Function.Basic
import Mathlib.Tactic.Simps.Basic

/-! The shared segment, the semaphore set, the five queues and the private state
of every process after the startup barrier. Both worker pids have been stored by
then, so the `other_pid > 0` tests of the emergency code are always true. -/

namespace Ropeway

structure TouristEntry where
  active : Bool
  touristId : Nat
  ticketType : Option TicketType
  entryTimeSim : Int
  totalRides : Nat
  isVip : Bool
  touristType : TouristType
  kidCount : Nat
  deriving DecidableEq, Repr

def TouristEntry.blank : TouristEntry := ⟨false, 0, some .single, 0, 0, false, .walker, 0⟩

structure SharedState where
  simEndMinutes : Int
  currentSimTimeMs : Nat
  running : Bool
  closing : Bool
  emergencyStop : Bool
  emergencyWaiters : Nat
  totalTourists : Nat
  totalRides : Nat
  ridesByTicket : TicketType → Nat
  touristsByTicket : TicketType → Nat
  lowerStationCount : Int
  stationCapacity : Int
  ticketT1Duration : Int
  ticketT2Duration : Int
  ticketT3Duration : Int
  dangerProbability : Int
  dangerDurationSim : Int
  scaredEnabled : Bool
  maxTrackedTourists : Nat
  touristEntryCount : Nat
  touristEntries : List TouristEntry
  deriving DecidableEq

/-- `ipc_shm_init_state` and `time_init` on the zeroed segment. -/
def SharedState.init (cfg : Config) : SharedState where
  simEndMinutes := cfg.endMinutes
  currentSimTimeMs := (cfg.startMinutes * 60000).toNat
  running := true
  closing := false
  emergencyStop := false
  emergencyWaiters := 0
  totalTourists := 0
  totalRides := 0
  ridesByTicket := fun _ => 0
  touristsByTicket := fun _ => 0
  lowerStationCount := 0
  stationCapacity := cfg.stationCapacity
  ticketT1Duration := cfg.ticketT1Duration
  ticketT2Duration := cfg.ticketT2Duration
  ticketT3Duration := cfg.ticketT3Duration
  dangerProbability := cfg.dangerProbability
  dangerDurationSim := cfg.dangerDurationSim
  scaredEnabled := cfg.scaredEnabled != 0
  maxTrackedTourists := cfg.totalTourists.toNat
  touristEntryCount := 0
  touristEntries := List.replicate cfg.totalTourists.toNat .blank

def SharedState.simMinutes (m : SharedState) : Int := Lib.toInt32 (m.currentSimTimeMs / 60000)

/-- A simulated duration in minutes on the millisecond scale of the clock. -/
def minutesMs (d : Int) : Int := d * 60000

inductive TriggerPc
  | tryWait | stamp | waitState | setFlag | postState | kill | unlock
  deriving DecidableEq, Repr

inductive AckPc
  | waitState | setFlag | postState | receive | send | waitClear | clear | postClear
  deriving DecidableEq, Repr

/-- Where a worker is in `worker_initiate_resume`; the `release` places are
those of `ipc_release_emergency_waiters`. -/
inductive ResumePc
  | send | receive | kill | waitState | clear | postState
  | releaseWait | releaseTake | releasePost (waiters : Nat) | releaseTokens (waiters : Nat)
  | unlock | finish
  deriving DecidableEq, Repr

inductive Site
  | timeout | noFit | full | shutdown
  deriving DecidableEq, Repr

inductive LowerPc
  | checkWait | checkRead | checkPost
  | arm | receive
  | recheckWait | recheckRead | recheckPost
  | requeueStop | place | requeue
  | dispatchWait (site : Site) | dispatchSend (site : Site) (i : Nat)
  deriving DecidableEq, Repr

inductive UpperPc
  | receive | track | release
  deriving DecidableEq, Repr

/-- The head of both main loops is the same code; the constructors below `danger`
are the functions it calls and the rest of each loop body. -/
inductive WorkerPc
  | top | checkResume | checkInitiator | pauseArm | pause | danger
  | trigger (p : TriggerPc) | ack (p : AckPc) | resume (p : ResumePc)
  | lower (p : LowerPc) | upper (p : UpperPc)
  | exited
  deriving DecidableEq, Repr

/-- `asleep` is set while the process is blocked inside the call at `pc`; only
then does a handler make that call fail. The start of an emergency and the last
danger are kept on the millisecond scale of the clock, `alarm` is the timer of
`ualarm`, and the pending fields are the kernel's pending signals. -/
structure Worker where
  pc : WorkerPc
  asleep : Bool
  emergencySignal : Bool
  resumeSignal : Bool
  lastDanger : Nat
  emergencyStart : Nat
  isInitiator : Bool
  emergency : Bool
  pendingUsr1 : Bool
  pendingUsr2 : Bool
  alarm : Bool
  deriving DecidableEq, Repr

def Worker.init : Worker where
  pc := .top
  asleep := false
  emergencySignal := false
  resumeSignal := false
  lastDanger := 0
  emergencyStart := 0
  isInitiator := false
  emergency := false
  pendingUsr1 := false
  pendingUsr2 := false
  alarm := false

structure PendingBoarding where
  touristId : Nat
  slotsNeeded : Nat
  deriving DecidableEq, Repr

structure LowerLocals where
  pending : List PendingBoarding
  currentChairSlots : Nat
  chairNumber : Nat
  msg : PlatformMsg
  departureTime : Nat
  deriving DecidableEq, Repr

structure ChairTracker where
  chairId : Nat
  expected : Nat
  arrived : Nat
  deriving DecidableEq, Repr

/-- `g_chairs` and the locals of `upper_worker_main`; `idx` is `tracker - g_chairs`. -/
structure UpperLocals where
  chairs : List ChairTracker
  arrivalsCount : Nat
  msg : ArrivalMsg
  idx : Nat
  deriving DecidableEq, Repr

inductive CashierPc
  | top | receive | recheck | statsWait | stats | statsPost | send | refuse | exited
  deriving DecidableEq, Repr

structure Cashier where
  pc : CashierPc
  request : CashierMsg
  validUntil : Int
  deriving DecidableEq, Repr

inductive TouristPc
  | buySend | buyReceive
  | recordWait | recordEntry | recordPost
  | loopTop | closingWait | closingRead | closingPost
  | gateWait | stationWait
  | countWait | countAdd | countPost | gatePost
  | scaredCheck | leaveWait | leaveSub | leavePost | leaveStation
  | platformWait | departWait | departSub | departPost | departStation
  | boardWait | boardRead | boardPost
  | clearWait | clearRead | clearPost | clearSleep
  | boardSend | boardReceive | platformPost
  | ride | exitWait | arriveSend | exitPost
  | descend | updateWait | updateStats | updatePost | rideDone
  | failGate | failGateStation | failStation | failPlatform
  | gone
  deriving DecidableEq, Repr

/-- What the generator passes to a tourist process and `tourist_parse_args`
accepts. -/
structure TouristArgs where
  age : Nat
  type : TouristType
  isVip : Bool
  kidCount : Nat
  ticketType : TicketType
  kids_le : kidCount ≤ maxKidsPerAdult
  kids_family : 0 < kidCount → type = .family

structure TouristData where
  id : Nat
  age : Nat
  type : TouristType
  isVip : Bool
  ticketType : TicketType
  ticketValidUntil : Int
  ridesCompleted : Nat
  stationSlots : Nat
  chairSlots : Nat
  kidCount : Nat
  deriving DecidableEq, Repr

def TouristArgs.data (a : TouristArgs) (id : Nat) : TouristData where
  id := id
  age := a.age
  type := a.type
  isVip := a.isVip
  ticketType := a.ticketType
  ticketValidUntil := 0
  ridesCompleted := 0
  stationSlots := 1 + a.kidCount
  chairSlots := (if a.type = .cyclist then 2 else 1) + a.kidCount
  kidCount := a.kidCount

structure Tourist where
  data : TouristData
  pc : TouristPc
  closing : Bool
  emergency : Bool
  departureTime : Nat
  chairId : Nat
  touristsOnChair : Nat
  deriving DecidableEq, Repr

def Tourist.init (d : TouristData) : Tourist where
  data := d
  pc := .buySend
  closing := false
  emergency := false
  departureTime := 0
  chairId := 0
  touristsOnChair := 0

/-- The system with `n` tourists. `mqCashierMax` is the number of messages
`msg_qbytes` lets `MQ_CASHIER` hold. -/
structure Sys (n : Nat) where
  sem : Sem → Nat
  shm : SharedState
  mqCashierMax : Nat
  mqCashier : List CashierMsg
  mqPlatform : List PlatformMsg
  mqBoarding : List PlatformMsg
  mqArrivals : List ArrivalMsg
  mqWorker : List WorkerMsg
  worker : Role → Worker
  lower : LowerLocals
  upper : UpperLocals
  cashier : Cashier
  tourists : Fin n → Tourist
  deriving DecidableEq

/-- A started simulation: an accepted configuration for which the semaphore set
could be created, and the tourists the generator will spawn. -/
structure Setup (n : Nat) where
  cfg : Config
  valid : configValidate cfg = true
  sem : Sem → Nat
  created : ipcSemCreate cfg = some sem
  mqCashierMax : Nat
  holdsOne : 0 < mqCashierMax
  args : Fin n → TouristArgs

/-- The generator numbers its tourists from 1. -/
def touristId {n : Nat} (i : Fin n) : Nat := i.val + 1

theorem tourist_id_inj {n : Nat} {i j : Fin n} (h : touristId i = touristId j) : i = j := by
  unfold touristId at h
  exact Fin.ext (by omega)

def Setup.start {n : Nat} (u : Setup n) : Sys n where
  sem := u.sem
  shm := .init u.cfg
  mqCashierMax := u.mqCashierMax
  mqCashier := []
  mqPlatform := []
  mqBoarding := []
  mqArrivals := []
  mqWorker := []
  worker := fun _ => .init
  lower := ⟨[], 0, 1, ⟨0, 0, .walker, 0, 0, 0, 0, 0⟩, 0⟩
  upper := ⟨[], 0, ⟨0, 0, .walker, 0, 0, 0⟩, 0⟩
  cashier := ⟨.top, ⟨0, 0, .walker, 0, false, none, 0, 0⟩, 0⟩
  tourists := fun i => .init ((u.args i).data (touristId i))

variable {n : Nat}

@[simps] def Sys.setWorker (s : Sys n) (r : Role) (w : Worker) : Sys n :=
  { s with worker := Function.update s.worker r w }

@[simps] def Sys.setTourist (s : Sys n) (i : Fin n) (t : Tourist) : Sys n :=
  { s with tourists := Function.update s.tourists i t }

/-- The worker's call at `pc` has returned and it goes on at the next place. -/
@[simps!] def Sys.goto (s : Sys n) (r : Role) (pc : WorkerPc) : Sys n :=
  s.setWorker r { s.worker r with pc := pc, asleep := false }

@[simps!] def Sys.walk (s : Sys n) (i : Fin n) (pc : TouristPc) : Sys n :=
  s.setTourist i { s.tourists i with pc := pc }

@[simps!] def Sys.serve (s : Sys n) (pc : CashierPc) : Sys n :=
  { s with cashier := { s.cashier with pc := pc } }

/-- `semop` with a negative operation; `none` while the caller has to block.
`sem_wait`, `sem_wait_pauseable` and `sem_trywait` differ only in what their
callers do on failure. -/
def semWait (s : Sys n) (i : Sem) (count : Nat) : Option (Sys n) :=
  if count ≤ s.sem i then some { s with sem := Function.update s.sem i (s.sem i - count) } else none

@[simps] def semPost (s : Sys n) (i : Sem) (count : Nat) : Sys n :=
  { s with sem := Function.update s.sem i (s.sem i + count) }

theorem sem_wait_some {s s' : Sys n} {i : Sem} {k : Nat} (h : semWait s i k = some s') :
    k ≤ s.sem i ∧ s' = { s with sem := Function.update s.sem i (s.sem i - k) } := by
  unfold semWait at h
  split at h
  · rename_i hk
    exact ⟨hk,(Option.some.inj h).symm⟩
  · cases h

/-- A wait that is followed by `f`. -/
theorem sem_wait_map {s s' : Sys n} {i : Sem} {k : Nat} {f : Sys n → Sys n}
    (h : (semWait s i k).map f = some s') :
    k ≤ s.sem i ∧ s' = f { s with sem := Function.update s.sem i (s.sem i - k) } := by
  obtain ⟨t,hw,rfl⟩ := Option.map_eq_some_iff.mp h
  obtain ⟨hk,rfl⟩ := sem_wait_some hw
  exact ⟨hk,rfl⟩

end Ropeway
