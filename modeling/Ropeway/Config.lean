import Ropeway.Constants
import Ropeway.Lib.Text

/-! The configuration record, its validator, and what `ipc_sem_create` and
`ipc_shm_init_state` make of an accepted one. -/

namespace Ropeway

structure Config where
  stationCapacity : Int
  simulationDurationReal : Int
  simStartHour : Int
  simStartMinute : Int
  simEndHour : Int
  simEndMinute : Int
  chairTravelTimeSim : Int
  totalTourists : Int
  touristSpawnDelayUs : Int
  vipPercentage : Int
  walkerPercentage : Int
  familyPercentage : Int
  trailWalkTime : Int
  trailBikeFastTime : Int
  trailBikeMediumTime : Int
  trailBikeSlowTime : Int
  ticketT1Duration : Int
  ticketT2Duration : Int
  ticketT3Duration : Int
  dangerProbability : Int
  dangerDurationSim : Int
  debugLogsEnabled : Int
  scaredEnabled : Int
  deriving DecidableEq, Repr

def configDefaults : Config where
  stationCapacity := 50
  simulationDurationReal := 120
  simStartHour := 8
  simStartMinute := 0
  simEndHour := 17
  simEndMinute := 0
  chairTravelTimeSim := 5
  totalTourists := 100
  touristSpawnDelayUs := 200000
  vipPercentage := 1
  walkerPercentage := 50
  familyPercentage := 40
  trailWalkTime := 30
  trailBikeFastTime := 15
  trailBikeMediumTime := 25
  trailBikeSlowTime := 40
  ticketT1Duration := 60
  ticketT2Duration := 120
  ticketT3Duration := 180
  dangerProbability := 0
  dangerDurationSim := 30
  debugLogsEnabled := 1
  scaredEnabled := 1

def Config.startMinutes (cfg : Config) : Int := cfg.simStartHour * 60 + cfg.simStartMinute

def Config.endMinutes (cfg : Config) : Int := cfg.simEndHour * 60 + cfg.simEndMinute

def percentage (x : Int) : Bool := 0 ≤ x && x ≤ 100

/-- The messages `config_validate` prints, in its order; it accepts when there
are none. -/
def configErrors (cfg : Config) : List String :=
  let reject (bad : Bool) (text : String) : List String := if bad then [text] else []
  reject (cfg.stationCapacity ≤ 0) "config: STATION_CAPACITY must be > 0" ++
  reject (cfg.simulationDurationReal ≤ 0)
    "config: SIMULATION_DURATION_REAL_SECONDS must be > 0" ++
  reject (cfg.simStartHour < 0 || 23 < cfg.simStartHour) "config: SIM_START_HOUR must be 0-23" ++
  reject (cfg.simEndHour < 0 || 23 < cfg.simEndHour) "config: SIM_END_HOUR must be 0-23" ++
  reject (cfg.simStartMinute < 0 || 59 < cfg.simStartMinute)
    "config: SIM_START_MINUTE must be 0-59" ++
  reject (cfg.simEndMinute < 0 || 59 < cfg.simEndMinute) "config: SIM_END_MINUTE must be 0-59" ++
  reject (cfg.endMinutes ≤ cfg.startMinutes) "config: end time must be after start time" ++
  reject (cfg.totalTourists ≤ 0) "config: TOTAL_TOURISTS must be > 0" ++
  reject (cfg.touristSpawnDelayUs < 0) "config: TOURIST_SPAWN_DELAY_US must be >= 0" ++
  reject (!percentage cfg.vipPercentage) "config: VIP_PERCENTAGE must be 0-100" ++
  reject (!percentage cfg.walkerPercentage) "config: WALKER_PERCENTAGE must be 0-100" ++
  reject (!percentage cfg.familyPercentage) "config: FAMILY_PERCENTAGE must be 0-100" ++
  reject (cfg.chairTravelTimeSim ≤ 0) "config: CHAIR_TRAVEL_TIME_SIM_MINUTES must be > 0" ++
  reject (!percentage cfg.dangerProbability) "config: DANGER_PROBABILITY must be 0-100" ++
  reject (cfg.dangerDurationSim < 0) "config: DANGER_DURATION_SIM_MINUTES must be >= 0"

/-- `config_validate`, with `true` for its return value 0. -/
def configValidate (cfg : Config) : Bool := (configErrors cfg).isEmpty

structure Accepted (cfg : Config) : Prop where
  stationCapacity : 0 < cfg.stationCapacity
  simulationDurationReal : 0 < cfg.simulationDurationReal
  startHour : 0 ≤ cfg.simStartHour ∧ cfg.simStartHour ≤ 23
  endHour : 0 ≤ cfg.simEndHour ∧ cfg.simEndHour ≤ 23
  startMinute : 0 ≤ cfg.simStartMinute ∧ cfg.simStartMinute ≤ 59
  endMinute : 0 ≤ cfg.simEndMinute ∧ cfg.simEndMinute ≤ 59
  order : cfg.startMinutes < cfg.endMinutes
  totalTourists : 0 < cfg.totalTourists

theorem reject_nil {bad : Bool} {text : String} {l : List String}
    (h : (if bad then [text] else []) ++ l = []) : bad = false ∧ l = [] := by
  cases bad with
  | false => exact ⟨rfl,h⟩
  | true => cases h

theorem accepted {cfg : Config} (h : configValidate cfg = true) : Accepted cfg := by
  simp only [configValidate,List.isEmpty_iff,configErrors,List.append_assoc] at h
  obtain ⟨capacity,h⟩ := reject_nil h
  obtain ⟨duration,h⟩ := reject_nil h
  obtain ⟨startHour,h⟩ := reject_nil h
  obtain ⟨endHour,h⟩ := reject_nil h
  obtain ⟨startMinute,h⟩ := reject_nil h
  obtain ⟨endMinute,h⟩ := reject_nil h
  obtain ⟨order,h⟩ := reject_nil h
  obtain ⟨tourists,-⟩ := reject_nil h
  simp only [Bool.or_eq_false_iff,decide_eq_false_iff_not,not_le,not_lt] at *
  exact ⟨capacity,duration,startHour,endHour,startMinute,endMinute,order,tourists⟩

/-- The largest value a System V semaphore may hold. -/
def semvmx : Nat := 32767

def toUShort (x : Int) : Nat := (x % 65536).toNat

def semValues (cfg : Config) : Sem → Nat
  | .state => 1
  | .stats => 1
  | .entryGates => entryGates
  | .exitGates => exitGates
  | .lowerStation => toUShort cfg.stationCapacity
  | .chairs => maxChairsInTransit
  | .workerReady => 0
  | .platformGates => platformGates
  | .emergencyClear => 0
  | .emergencyLock => 1

/-- `ipc_sem_create` on a free key: `semctl SETALL` fails when a value is too
large for the kernel. -/
def ipcSemCreate (cfg : Config) : Option (Sem → Nat) :=
  if ∀ i, semValues cfg i ≤ semvmx then some (semValues cfg) else none

theorem sem_create_values {cfg : Config} {v : Sem → Nat} (h : ipcSemCreate cfg = some v) :
    v = semValues cfg := by
  unfold ipcSemCreate at h
  split at h
  · exact (Option.some.inj h).symm
  · cases h

/-- Truncation never makes the station larger than it was configured. -/
theorem station_value_le {cfg : Config} (h : configValidate cfg = true) :
    (semValues cfg .lowerStation : Int) ≤ cfg.stationCapacity := by
  have hpos := (accepted h).stationCapacity
  simp only [semValues,toUShort]
  omega

end Ropeway
