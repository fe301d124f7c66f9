import Ropeway.WorkerEmergency

/-! `processes/upper_worker.c`: arrivals and the chair trackers. -/

namespace Ropeway

variable {n : Nat}

def maxActiveChairs : Nat := 64

/-- `get_chair_tracker`: the index of the tracker and the array with it. -/
def getChairTracker (chairs : List ChairTracker) (chairId touristsOnChair : Nat) :
    Option (Nat × List ChairTracker) :=
  match chairs.findIdx? (fun c => c.chairId == chairId) with
  | some i => some (i,chairs)
  | none =>
    if chairs.length < maxActiveChairs then
      some (chairs.length,chairs ++ [⟨chairId, touristsOnChair, 0⟩])
    else none

/-- `remove_chair_tracker`: the last tracker takes the place of the removed one. -/
def removeChairTracker (chairs : List ChairTracker) (idx : Nat) : List ChairTracker :=
  match chairs.getLast? with
  | some last => if idx < chairs.length then (chairs.set idx last).dropLast else chairs
  | none => chairs

def upperWorkerMain (s : Sys n) : UpperPc → Option (Sys n)
  | .receive =>
    (Lib.msgrcv ArrivalMsg.mtype s.mqArrivals 0).map (fun (m,q) =>
      { s with
        mqArrivals := q
        upper := { s.upper with
          msg := m
          arrivalsCount := s.upper.arrivalsCount + (1 + m.kidCount) } }.goto .upper (.upper .track))
  | .track =>
    let m := s.upper.msg
    match getChairTracker s.upper.chairs m.chairId m.touristsOnChair with
    | none => some (s.goto .upper .danger)
    | some (i,chairs) =>
      match chairs[i]? with
      | none => some (s.goto .upper .danger)
      | some c =>
        let c' := { c with arrived := c.arrived + 1 }
        let s' := { s with upper := { s.upper with chairs := chairs.set i c', idx := i } }
        if c'.expected ≤ c'.arrived then some (s'.goto .upper (.upper .release))
        else some (s'.goto .upper .danger)
  | .release =>
    let s' := semPost s .chairs 1
    some ({ s' with
      upper := { s.upper with chairs := removeChairTracker s.upper.chairs s.upper.idx } }.goto
        .upper .danger)

end Ropeway
