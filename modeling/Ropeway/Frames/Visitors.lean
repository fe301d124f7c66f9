import Ropeway.Frames.Workers

/-! What the workers leave to the tourists and the cashier, and the cashier to the
tourists. -/

namespace Ropeway
variable {n : Nat} {s t s' : Sys n} {r : Role}

/-- The tourists, the ticket queue and the station are as before. -/
structure SameVisitors (s s' : Sys n) : Prop where
  tourists : s'.tourists = s.tourists
  cashier : s'.cashier = s.cashier
  mqCashier : s'.mqCashier = s.mqCashier
  mqCashierMax : s'.mqCashierMax = s.mqCashierMax
  station : s'.sem .lowerStation = s.sem .lowerStation
  count : s'.shm.lowerStationCount = s.shm.lowerStationCount
  capacity : s'.shm.stationCapacity = s.shm.stationCapacity

theorem Calm.visitors (h : Calm r s s') : SameVisitors s s' := by
  obtain ⟨a,b,hshm⟩ := h.shm
  refine ⟨h.tourists,h.cashier,h.mqCashier,h.mqCashierMax,?_,by rw [hshm],by rw [hshm]⟩
  exact h.sem .lowerStation (by decide) (by decide) (by decide)

theorem LowerOnly.visitors (h : LowerOnly s s') : SameVisitors s s' :=
  ⟨h.tourists,h.cashier,h.mqCashier,h.mqCashierMax,h.sem .lowerStation (by decide) (by decide),
    by rw [h.shm],by rw [h.shm]⟩

theorem UpperOnly.visitors (h : UpperOnly s s') : SameVisitors s s' :=
  ⟨h.tourists,h.cashier,h.mqCashier,h.mqCashierMax,h.sem .lowerStation (by decide),
    by rw [h.shm],by rw [h.shm]⟩

theorem worker_visitors {x : Nat} (h : workerStep s r x = some s') : SameVisitors s s' := by
  cases worker_acts h with
  | calm _ hs => exact hs.visitors
  | lower _ hs => exact (lower_only hs).visitors
  | upper _ hs => exact (upper_only hs).visitors

def Act.visitor : Act n → Bool
  | .cashier | .cashierFail _ | .tourist _ _ | .touristCont _ | .touristFail _ => true
  | _ => false

theorem visitors_same {a : Act n} (hown : ∀ r, ownPc r (s.worker r).pc = true)
    (ha : a.visitor = false) (h : step s a = some s') : SameVisitors s s' := by
  cases a with
  | cashier | cashierFail | tourist | touristCont | touristFail => cases ha
  | worker r x => exact worker_visitors h
  | sleep | deliver | kill =>
    obtain ⟨r,w,rfl,-⟩ := signal_record hown rfl (by simp) h
    exact ⟨rfl,rfl,rfl,rfl,rfl,rfl,rfl⟩
  | tick ms =>
    simp only [step] at h
    split at h
    · cases h
      exact ⟨rfl,rfl,rfl,rfl,rfl,rfl,rfl⟩
    · cases h
  | close | shutdown =>
    cases h
    exact ⟨rfl,rfl,rfl,rfl,rfl,rfl,rfl⟩

/-- The cashier leaves the tourists, their station and the platform alone. -/
structure CashierOnly (s s' : Sys n) : Prop where
  tourists : s'.tourists = s.tourists
  mqPlatform : s'.mqPlatform = s.mqPlatform
  mqBoarding : s'.mqBoarding = s.mqBoarding
  mqArrivals : s'.mqArrivals = s.mqArrivals
  mqCashierMax : s'.mqCashierMax = s.mqCashierMax
  station : s'.sem .lowerStation = s.sem .lowerStation
  count : s'.shm.lowerStationCount = s.shm.lowerStationCount
  capacity : s'.shm.stationCapacity = s.shm.stationCapacity
  running : s'.shm.running = s.shm.running

theorem cashier_only (h : cashierMain s = some s') : CashierOnly s s' := by
  cases hp : s.cashier.pc <;> simp only [cashierMain,hp] at h
  case top | recheck =>
    repeat' split at h
    all_goals
      cases h
      exact ⟨rfl,rfl,rfl,rfl,rfl,rfl,rfl,rfl,rfl⟩
  case receive =>
    obtain ⟨⟨m,q⟩,-,rfl⟩ := Option.map_eq_some_iff.mp h
    exact ⟨rfl,rfl,rfl,rfl,rfl,rfl,rfl,rfl,rfl⟩
  case statsWait =>
    obtain ⟨-,rfl⟩ := sem_wait_map h
    exact ⟨rfl,rfl,rfl,rfl,rfl,by simp,rfl,rfl,rfl⟩
  case stats =>
    cases h
    exact ⟨rfl,rfl,rfl,rfl,rfl,rfl,rfl,rfl,rfl⟩
  case statsPost =>
    cases h
    exact ⟨rfl,rfl,rfl,rfl,rfl,by simp,rfl,rfl,rfl⟩
  case send | refuse =>
    obtain ⟨-,rfl⟩ := send_cashier_map h
    exact ⟨rfl,rfl,rfl,rfl,rfl,rfl,rfl,rfl,rfl⟩
  case exited => cases h

end Ropeway
