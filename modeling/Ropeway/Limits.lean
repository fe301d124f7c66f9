import Ropeway.Tourist

/-! Numbers that the validator lets through and the program then stores in a smaller
type: the capacity of the station and the end of a ticket. -/

namespace Ropeway
variable {cfg : Config}

/-- Only the capacity can be too large for the kernel. -/
theorem sem_create_iff : (ipcSemCreate cfg).isSome = true ↔ toUShort cfg.stationCapacity ≤ semvmx := by
  have hall : (∀ i, semValues cfg i ≤ semvmx) ↔ toUShort cfg.stationCapacity ≤ semvmx := by
    constructor
    · intro h
      exact h .lowerStation
    · intro h i
      cases i <;> first | exact h | exact Nat.le_of_ble_eq_true rfl
  rw [← hall]
  unfold ipcSemCreate
  split
  · rename_i h
    simp [h]
  · rename_i h
    simp [h]

/-- `SEM_LOWER_STATION` starts with the capacity that is configured, stored in the
segment and printed as the limit. -/
def StartsFull (cfg : Config) : Prop :=
  ∀ v, ipcSemCreate cfg = some v →
    (v .lowerStation : Int) = cfg.stationCapacity ∧
      (v .lowerStation : Int) = (SharedState.init cfg).stationCapacity

/-- The capacity survives unless it needs more than 16 bits and what is left of it is
small enough for the kernel. -/
theorem starts_full_iff (h : configValidate cfg = true) :
    StartsFull cfg ↔ cfg.stationCapacity < 65536 ∨ 32767 < cfg.stationCapacity % 65536 := by
  have hpos := (accepted h).stationCapacity
  constructor
  · intro hfull
    by_contra hn
    have hsome : (ipcSemCreate cfg).isSome = true := by
      rw [sem_create_iff]
      simp only [toUShort,semvmx]
      omega
    obtain ⟨v,hv⟩ := Option.isSome_iff_exists.mp hsome
    have heq := (hfull v hv).1
    rw [sem_create_values hv] at heq
    simp only [semValues,toUShort] at heq
    omega
  · intro hc v hv
    have hle := sem_create_iff.mp (Option.isSome_of_eq_some hv)
    have heq : (v .lowerStation : Int) = cfg.stationCapacity := by
      rw [sem_create_values hv]
      simp only [semValues,toUShort,semvmx] at hle ⊢
      omega
    exact ⟨heq,heq⟩

theorem starts_full_default : configValidate configDefaults = true ∧ StartsFull configDefaults := by
  have hv : configValidate configDefaults = true := by decide
  exact ⟨hv,(starts_full_iff hv).mpr (by decide)⟩

/-- STATION_CAPACITY=65541 leaves five slots. -/
theorem capacity_cut_off :
    configValidate { configDefaults with stationCapacity := 65541 } = true ∧
      ¬StartsFull { configDefaults with stationCapacity := 65541 } := by
  refine ⟨by decide,?_⟩
  intro h
  have hv : ipcSemCreate { configDefaults with stationCapacity := 65541 } =
      some (semValues { configDefaults with stationCapacity := 65541 }) := by
    unfold ipcSemCreate
    exact if_pos (by decide)
  exact absurd (h _ hv).1 (by decide)

/-! ### Tickets -/

/-- The configured duration of a ticket; only time tickets have one. -/
def Config.ticketDuration (cfg : Config) : TicketType → Option Int
  | .timeT1 => some cfg.ticketT1Duration
  | .timeT2 => some cfg.ticketT2Duration
  | .timeT3 => some cfg.ticketT3Duration
  | .single | .daily => none

def Config.segmentAt (cfg : Config) (ms : Nat) : SharedState :=
  { SharedState.init cfg with currentSimTimeMs := ms }

def TouristData.buys (d : TouristData) (cfg : Config) (k : TicketType) (ms : Nat) : TouristData :=
  { d with
    ticketType := k
    ticketValidUntil := calculateTicketValidity (cfg.segmentAt ms) (some k) }

/-- A ticket of type `k` sold at the time `ms` is honoured for exactly its duration. -/
structure Honoured (cfg : Config) (k : TicketType) (ms : Nat) : Prop where
  timed : ∀ dur, cfg.ticketDuration k = some dur → ∀ (d : TouristData) (later : Nat),
    (cfg.segmentAt ms).simMinutes ≤ (cfg.segmentAt later).simMinutes →
      (touristIsTicketValid (cfg.segmentAt later) (d.buys cfg k ms) = true ↔
        (cfg.segmentAt later).simMinutes < (cfg.segmentAt ms).simMinutes + dur)
  daily : k = .daily → ∀ (d : TouristData) (later : Nat),
    (cfg.segmentAt ms).simMinutes ≤ (cfg.segmentAt later).simMinutes →
      (touristIsTicketValid (cfg.segmentAt later) (d.buys cfg k ms) = true ↔
        (cfg.segmentAt later).simMinutes < cfg.endMinutes)
  sold : ∀ d : TouristData, d.ridesCompleted = 0 →
    touristIsTicketValid (cfg.segmentAt ms) (d.buys cfg k ms) = true

/-- The end of a time ticket is computed in 32 bits. -/
theorem timed_valid {k : TicketType} {dur : Int} (h : cfg.ticketDuration k = some dur)
    (d : TouristData) (ms later : Nat) :
    touristIsTicketValid (cfg.segmentAt later) (d.buys cfg k ms) = true ↔
      (cfg.segmentAt later).simMinutes < Lib.toInt32 ((cfg.segmentAt ms).simMinutes + dur) := by
  have hk : k ≠ .single := by
    rintro rfl
    cases h
  have hend : calculateTicketValidity (cfg.segmentAt ms) (some k) =
      Lib.toInt32 ((cfg.segmentAt ms).simMinutes + dur) := by
    cases k <;> cases h <;> rfl
  simp only [touristIsTicketValid,TouristData.buys,if_neg hk,hend]
  exact decide_eq_true_iff

theorem daily_valid (d : TouristData) (ms later : Nat) :
    touristIsTicketValid (cfg.segmentAt later) (d.buys cfg .daily ms) = true ↔
      (cfg.segmentAt later).simMinutes < cfg.endMinutes := decide_eq_true_iff

theorem single_valid (d : TouristData) (ms later : Nat) :
    touristIsTicketValid (cfg.segmentAt later) (d.buys cfg .single ms) = true ↔
      d.ridesCompleted = 0 := by
  simp [touristIsTicketValid,TouristData.buys]

/-- Every minute of the clock comes up. -/
theorem exists_minute (cfg : Config) {m : Int} (h : 0 ≤ m) (h' : m ≤ 2147483647) :
    ∃ ms, (cfg.segmentAt ms).simMinutes = m := by
  refine ⟨(m * 60000).toNat,?_⟩
  have hms : (((m * 60000).toNat : Nat) : Int) / 60000 = m := by omega
  simp only [Config.segmentAt,SharedState.simMinutes,hms]
  exact Lib.to_int32_eq (by omega) h'

/-- A time ticket that is valid when it is sold and for exactly its duration ends later,
and its end is a 32-bit number. -/
theorem Honoured.fits {k : TicketType} {ms : Nat} {dur : Int} (h : Honoured cfg k ms)
    (hk : cfg.ticketDuration k = some dur) (hpos : 0 ≤ (cfg.segmentAt ms).simMinutes) :
    0 < dur ∧ (cfg.segmentAt ms).simMinutes + dur ≤ 2147483647 := by
  let d : TouristData := ⟨0,0,.walker,false,k,0,0,0,0,0⟩
  have hvalid := h.sold d rfl
  have hnow := (h.timed dur hk d ms (le_refl _)).mp hvalid
  rw [timed_valid hk] at hvalid
  refine ⟨by omega,?_⟩
  by_contra hlarge
  -- The wrapped end is a minute of the clock at which the ticket is due and refused.
  obtain ⟨-,hrange⟩ := Lib.to_int32_range ((cfg.segmentAt ms).simMinutes + dur)
  obtain ⟨later,hlater⟩ := exists_minute cfg (le_of_lt (lt_of_le_of_lt hpos hvalid)) hrange
  have hiff := h.timed dur hk d later (by omega)
  rw [timed_valid hk,hlater] at hiff
  exact lt_irrefl _ (hiff.mpr (by omega))

/-- A ticket is honoured exactly when the duration is positive and its end can be
stored in an `int`. -/
theorem honoured_iff (h : configValidate cfg = true) (k : TicketType) (ms : Nat)
    (opened : cfg.startMinutes ≤ (cfg.segmentAt ms).simMinutes)
    (before : (cfg.segmentAt ms).simMinutes < cfg.endMinutes) :
    Honoured cfg k ms ↔ ∀ dur, cfg.ticketDuration k = some dur →
      0 < dur ∧ (cfg.segmentAt ms).simMinutes + dur ≤ 2147483647 := by
  have hstart : 0 ≤ cfg.startMinutes := by
    obtain ⟨hh,-⟩ := (accepted h).startHour
    obtain ⟨hm,-⟩ := (accepted h).startMinute
    unfold Config.startMinutes
    omega
  have hpos := hstart.trans opened
  constructor
  · intro hon dur hk
    exact hon.fits hk hpos
  · intro hfits
    have htimed : ∀ dur, cfg.ticketDuration k = some dur → ∀ (d : TouristData) (later : Nat),
        (touristIsTicketValid (cfg.segmentAt later) (d.buys cfg k ms) = true ↔
          (cfg.segmentAt later).simMinutes < (cfg.segmentAt ms).simMinutes + dur) := by
      intro dur hk d later
      obtain ⟨hdur,hend⟩ := hfits dur hk
      rw [timed_valid hk,Lib.to_int32_eq (by omega) hend]
    refine ⟨fun dur hk d later _ => htimed dur hk d later,?_,?_⟩
    · rintro rfl d later -
      exact daily_valid d ms later
    · intro d hrides
      cases hk : cfg.ticketDuration k with
      | some dur =>
        rw [htimed dur hk]
        obtain ⟨hdur,-⟩ := hfits dur hk
        omega
      | none =>
        cases k with
        | single => exact (single_valid d ms ms).mpr hrides
        | daily => exact (daily_valid d ms ms).mpr before
        | timeT1 | timeT2 | timeT3 => cases hk

/-- A ticket T1 of the default configuration sold at 8:00. -/
theorem honoured_default : Honoured configDefaults .timeT1 28800000 := by
  refine (honoured_iff (by decide) .timeT1 28800000 (by decide) (by decide)).mpr ?_
  rintro dur hk
  cases hk
  decide

/-- TICKET_T1_DURATION_SIM_MINUTES=2147483647 is accepted, and the ticket is refused at
the minute it is sold. -/
theorem ticket_wraps_around :
    configValidate { configDefaults with ticketT1Duration := 2147483647 } = true ∧
      ¬Honoured { configDefaults with ticketT1Duration := 2147483647 } .timeT1 28800000 := by
  refine ⟨by decide,?_⟩
  intro h
  have hd := h.sold ⟨1,30,.walker,false,.timeT1,0,0,1,1,0⟩ rfl
  exact absurd hd (by decide)

end Ropeway
