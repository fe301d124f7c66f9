import Mathlib.Data.Fintype.Basic

/-! `constants.h` and `ipc/messages.h`: capacities, semaphore indices, the
enumerations and the five message records. -/

namespace Ropeway

def chairCapacity : Nat := 4
def maxChairsInTransit : Nat := 36
def totalChairs : Nat := 72
def entryGates : Nat := 4
def exitGates : Nat := 2
def platformGates : Nat := 3
def maxKidsPerAdult : Nat := 2

inductive Sem
  | state | stats | entryGates | exitGates | lowerStation
  | chairs | workerReady | platformGates | emergencyClear | emergencyLock
  deriving DecidableEq, Repr

instance : Fintype Sem where
  elems := {.state, .stats, .entryGates, .exitGates, .lowerStation, .chairs, .workerReady,
    .platformGates, .emergencyClear, .emergencyLock}
  complete := by intro i; cases i <;> decide

inductive TouristType
  | walker | cyclist | family
  deriving DecidableEq, Repr

inductive TicketType
  | single | timeT1 | timeT2 | timeT3 | daily
  deriving DecidableEq, Repr

instance : Fintype TicketType where
  elems := {.single, .timeT1, .timeT2, .timeT3, .daily}
  complete := by intro t; cases t <;> decide

inductive Role
  | lower | upper
  deriving DecidableEq, Repr

instance : Fintype Role where
  elems := {.lower, .upper}
  complete := by intro r; cases r <;> decide

def Role.other : Role → Role
  | .lower => .upper
  | .upper => .lower

@[simp] theorem Role.other_other (r : Role) : r.other.other = r := by cases r <;> rfl

@[simp] theorem Role.other_ne (r : Role) : r.other ≠ r := by cases r <;> decide

@[simp] theorem Role.ne_other (r : Role) : r ≠ r.other := by cases r <;> decide

theorem Role.eq_or_other (r q : Role) : q = r ∨ q = r.other := by
  cases r <;> cases q <;> simp [Role.other]

theorem Role.both (r : Role) {P : Role → Prop} (h : P r) (h' : P r.other) : ∀ q, P q := by
  intro q
  rcases r.eq_or_other q with rfl | rfl
  · exact h
  · exact h'

inductive WorkerMsgType
  | readyToResume | iAmReady
  deriving DecidableEq, Repr

def msgCashierRequest : Nat := 1
def msgCashierResponseBase : Nat := 1000

/-- A `ticket_type` of -1 in a response is `none`: the sale was refused. -/
structure CashierMsg where
  mtype : Nat
  touristId : Nat
  touristType : TouristType
  age : Nat
  isVip : Bool
  ticketType : Option TicketType
  ticketValidUntil : Int
  kidCount : Nat
  deriving DecidableEq, Repr

structure PlatformMsg where
  mtype : Nat
  touristId : Nat
  touristType : TouristType
  slotsNeeded : Nat
  kidCount : Nat
  departureTime : Nat
  chairId : Nat
  touristsOnChair : Nat
  deriving DecidableEq, Repr

structure ArrivalMsg where
  mtype : Nat
  touristId : Nat
  touristType : TouristType
  kidCount : Nat
  chairId : Nat
  touristsOnChair : Nat
  deriving DecidableEq, Repr

structure WorkerMsg where
  mtype : Nat
  msgType : WorkerMsgType
  deriving DecidableEq, Repr

end Ropeway
