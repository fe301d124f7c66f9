import Ropeway.Frames.Visitors
import Ropeway.Lib.Table

/-! The lower station: slots taken from `SEM_LOWER_STATION` and the separate count
under `SEM_STATE`. -/

namespace Ropeway
open Function (update)
variable {n : Nat} {s s' : Sys n} {u : Setup n} {tr : List (Sys n × Act n)}

/-- The tourist has its station slots: it is past the wait for them and before
their release. -/
def holdsStation : TouristPc → Bool
  | .countWait | .countAdd | .countPost | .gatePost | .scaredCheck
  | .leaveWait | .leaveSub | .leavePost | .leaveStation
  | .platformWait | .departWait | .departSub | .departPost | .departStation
  | .failGateStation | .failStation => true
  | _ => false

def countedIn : TouristPc → Bool
  | .countPost | .gatePost | .scaredCheck | .leaveWait | .leaveSub
  | .platformWait | .departWait | .departSub => true
  | _ => false

def heldSlots (t : Tourist) : Nat := if holdsStation t.pc then t.data.stationSlots else 0

def countedSlots (t : Tourist) : Nat := if countedIn t.pc then t.data.stationSlots else 0

theorem counted_le_held (t : Tourist) : countedSlots t ≤ heldSlots t := by
  unfold countedSlots heldSlots
  cases t.pc <;> simp [countedIn,holdsStation]

/-- A step of tourist `i` moves slots between the semaphore and the tourist, and
between the count and the tourist, and loses none. -/
structure Balance (i : Fin n) (s s' : Sys n) : Prop where
  slots : s'.sem .lowerStation + heldSlots (s'.tourists i) =
    s.sem .lowerStation + heldSlots (s.tourists i)
  count : s'.shm.lowerStationCount + countedSlots (s.tourists i) =
    s.shm.lowerStationCount + countedSlots (s'.tourists i)

theorem tourist_balance {i : Fin n} {x : Nat} (h : touristMain s i x = some s') :
    Balance i s s' := by
  cases hp : (s.tourists i).pc <;> simp only [touristMain,hp] at h
  case gone => cases h
  case buySend =>
    obtain ⟨-,rfl⟩ := send_cashier_map h
    constructor <;> simp [heldSlots,countedSlots,hp,holdsStation,countedIn]
  case buyReceive =>
    obtain ⟨⟨m,q⟩,-,rfl⟩ := Option.map_eq_some_iff.mp h
    dsimp only
    split <;> constructor <;> simp [heldSlots,countedSlots,hp,holdsStation,countedIn]
  case boardReceive =>
    obtain ⟨⟨m,q⟩,-,rfl⟩ := Option.map_eq_some_iff.mp h
    constructor <;> simp [heldSlots,countedSlots,hp,holdsStation,countedIn]
  case stationWait =>
    obtain ⟨hk,rfl⟩ := sem_wait_map h
    refine ⟨?_,by simp [countedSlots,hp,countedIn]⟩
    simp [heldSlots,hp,holdsStation]
    omega
  case recordWait | closingWait | gateWait | countWait | leaveWait | platformWait |
      departWait | boardWait | clearWait | clearSleep | exitWait | updateWait =>
    obtain ⟨hk,rfl⟩ := sem_wait_map h
    constructor <;> simp [heldSlots,countedSlots,hp,holdsStation,countedIn]
  case loopTop | descend =>
    repeat' split at h
    all_goals
      cases h
      constructor <;> simp [heldSlots,countedSlots,hp,holdsStation,countedIn]
  case recordEntry =>
    cases h
    simp only [SharedState.recordEntry]
    split <;> constructor <;> simp [heldSlots,countedSlots,hp,holdsStation,countedIn]
  case closingPost | countPost | scaredCheck | boardPost | clearPost | ride | rideDone =>
    cases h
    repeat' split
    all_goals constructor <;> simp [heldSlots,countedSlots,hp,holdsStation,countedIn]
  all_goals
    cases h
    constructor <;> simp [heldSlots,countedSlots,hp,holdsStation,countedIn,SharedState.updateStats]

/-- The two books of the station: the semaphore against the slots held, and the
count against the slots counted in. -/
structure StationSafe (u : Setup n) (s : Sys n) : Prop where
  slots : s.sem .lowerStation + ∑ i, heldSlots (s.tourists i) = u.sem .lowerStation
  count : s.shm.lowerStationCount = ∑ i, (countedSlots (s.tourists i) : Int)
  capacity : s.shm.stationCapacity = u.cfg.stationCapacity
  nonneg : 0 ≤ s.shm.lowerStationCount
  le : s.shm.lowerStationCount ≤ s.shm.stationCapacity

/-- The bounds follow from the two books. -/
theorem station_of_books (hslots : s.sem .lowerStation + ∑ i, heldSlots (s.tourists i) =
      u.sem .lowerStation)
    (hcount : s.shm.lowerStationCount = ∑ i, (countedSlots (s.tourists i) : Int))
    (hcap : s.shm.stationCapacity = u.cfg.stationCapacity) : StationSafe u s := by
  have hle : ∑ i, countedSlots (s.tourists i) ≤ ∑ i, heldSlots (s.tourists i) :=
    Finset.sum_le_sum fun i _ => counted_le_held (s.tourists i)
  have hinit : (u.sem .lowerStation : Int) ≤ u.cfg.stationCapacity := by
    rw [sem_create_values u.created]
    exact station_value_le u.valid
  rw [← Nat.cast_sum] at hcount
  refine ⟨hslots,by rw [hcount,Nat.cast_sum],hcap,?_,?_⟩
  · omega
  · omega

theorem StationSafe.same (h : StationSafe u s) (ht : s'.tourists = s.tourists)
    (hs : s'.sem .lowerStation = s.sem .lowerStation)
    (hc : s'.shm.lowerStationCount = s.shm.lowerStationCount)
    (hk : s'.shm.stationCapacity = s.shm.stationCapacity) : StationSafe u s' := by
  refine station_of_books ?_ ?_ (hk.trans h.capacity)
  · rw [hs,ht]
    exact h.slots
  · rw [hc,ht]
    exact h.count

/-- One tourist moves and its step balances. -/
theorem StationSafe.balanced {i : Fin n} (h : StationSafe u s) (hb : Balance i s s')
    (ho : ∀ j, j ≠ i → s'.tourists j = s.tourists j)
    (hk : s'.shm.stationCapacity = s.shm.stationCapacity) : StationSafe u s' := by
  have ht : s'.tourists = update s.tourists i (s'.tourists i) := by
    funext j
    by_cases hj : j = i
    · subst hj
      simp
    · simp [hj,ho j hj]
  have hheld := Lib.sum_update heldSlots s.tourists i (s'.tourists i)
  have hcounted := Lib.sum_update (fun t => (countedSlots t : Int)) s.tourists i (s'.tourists i)
  have h1 := h.slots
  have h2 := h.count
  have h3 := hb.slots
  have h4 := hb.count
  rw [← ht] at hheld hcounted
  refine station_of_books ?_ ?_ (hk.trans h.capacity)
  · omega
  · omega

theorem start_station (u : Setup n) : StationSafe u u.start := by
  refine station_of_books ?_ ?_ rfl
  · simp [Setup.start,Tourist.init,heldSlots,holdsStation]
  · simp [Setup.start,Tourist.init,countedSlots,countedIn,SharedState.init]

theorem cont_balance {i : Fin n} {pc : TouristPc}
    (h : touristInterrupted (s.tourists i).pc = some pc) : Balance i s (s.walk i pc) := by
  cases hp : (s.tourists i).pc <;> rw [hp] at h <;> cases h
  all_goals constructor <;> simp [heldSlots,countedSlots,hp,holdsStation,countedIn]

/-- Station capacity is never exceeded, and neither book loses a slot. -/
theorem station_safe (h : Runs [beforeShutdown] u tr s) : StationSafe u s := by
  refine run_invariant (fun _ s => StationSafe u s) (start_station u) ?_ h
  intro tr s a s' hown hi allowed hstep
  cases hv : a.visitor with
  | false =>
    have hsame := visitors_same hown hv hstep
    exact hi.same hsame.tourists hsame.station hsame.count hsame.capacity
  | true =>
    cases a with
    | cashier =>
      have hc := cashier_only hstep
      exact hi.same hc.tourists hc.station hc.count hc.capacity
    | tourist i x =>
      have ht := tourist_only hstep
      exact hi.balanced (tourist_balance hstep) ht.others ht.capacity
    | touristCont i =>
      simp only [step] at hstep
      split at hstep
      · obtain ⟨pc,hpc,rfl⟩ := Option.map_eq_some_iff.mp hstep
        refine hi.balanced (cont_balance hpc) ?_ rfl
        intro j hj
        simp [hj]
      · cases hstep
    | touristFail | cashierFail => simp [allow,beforeShutdown] at allowed
    | _ => cases hv

theorem station_safe_occupied : ∃ tr s,
    Runs [beforeShutdown] (sample 2) tr s ∧ s.shm.lowerStationCount = 1 ∧
      StationSafe (sample 2) s := by
  have hr : reaches [beforeShutdown] (sample 2)
      (walks 0 1 ++ List.replicate 7 .cashier ++ walks 0 13)
      (fun _ s => s.shm.lowerStationCount == 1) = true := by decide +kernel
  obtain ⟨tr,s,h,ht⟩ := exists_run hr
  exact ⟨tr,s,h,by simpa using ht,station_safe h⟩

end Ropeway
