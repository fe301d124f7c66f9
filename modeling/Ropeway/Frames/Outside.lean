import Ropeway.System

/-! What the tourists, the cashier and the clock leave alone. -/

namespace Ropeway
open Function (update)
variable {n : Nat} {s t s' : Sys n}

/-- Nothing the workers share with each other has changed. -/
structure SameWorkers (s s' : Sys n) : Prop where
  worker : s'.worker = s.worker
  lower : s'.lower = s.lower
  upper : s'.upper = s.upper
  mqWorker : s'.mqWorker = s.mqWorker
  lock : s'.sem .emergencyLock = s.sem .emergencyLock
  chairs : s'.sem .chairs = s.sem .chairs
  stop : s'.shm.emergencyStop = s.shm.emergencyStop

theorem SameWorkers.refl (s : Sys n) : SameWorkers s s := ⟨rfl,rfl,rfl,rfl,rfl,rfl,rfl⟩

theorem SameWorkers.setTourist (h : SameWorkers s t) (i : Fin n) (w : Tourist) :
    SameWorkers s (t.setTourist i w) :=
  ⟨h.worker,h.lower,h.upper,h.mqWorker,h.lock,h.chairs,h.stop⟩

theorem SameWorkers.walk (h : SameWorkers s t) (i : Fin n) (pc : TouristPc) :
    SameWorkers s (t.walk i pc) := h.setTourist i _

theorem SameWorkers.serve (h : SameWorkers s t) (pc : CashierPc) : SameWorkers s (t.serve pc) :=
  ⟨h.worker,h.lower,h.upper,h.mqWorker,h.lock,h.chairs,h.stop⟩

theorem SameWorkers.sem (s : Sys n) {j : Sem} (k : Nat) (hl : j ≠ .emergencyLock)
    (hc : j ≠ .chairs) : SameWorkers s { s with sem := update s.sem j k } := by
  refine ⟨rfl,rfl,rfl,rfl,?_,?_,rfl⟩
  · simp [hl.symm]
  · simp [hc.symm]

theorem SameWorkers.post (s : Sys n) {j : Sem} (k : Nat) (hl : j ≠ .emergencyLock)
    (hc : j ≠ .chairs) : SameWorkers s (semPost s j k) := .sem s _ hl hc

theorem SameWorkers.wait {j : Sem} {k : Nat} (h : semWait s j k = some t)
    (hl : j ≠ .emergencyLock) (hc : j ≠ .chairs) : SameWorkers s t := by
  obtain ⟨-,rfl⟩ := sem_wait_some h
  exact .sem s _ hl hc

theorem SameWorkers.sendCashier {m : CashierMsg} (h : sendCashier s m = some t) :
    SameWorkers s t := by
  obtain ⟨-,rfl⟩ := send_cashier_some h
  exact ⟨rfl,rfl,rfl,rfl,rfl,rfl,rfl⟩

theorem cashier_same (h : cashierMain s = some s') : SameWorkers s s' := by
  cases hp : s.cashier.pc <;> simp only [cashierMain,hp] at h
  case top =>
    repeat' split at h
    all_goals
      cases h
      exact (SameWorkers.refl s).serve _
  case receive =>
    obtain ⟨⟨m,q⟩,-,rfl⟩ := Option.map_eq_some_iff.mp h
    exact ⟨rfl,rfl,rfl,rfl,rfl,rfl,rfl⟩
  case recheck =>
    split at h
    all_goals
      cases h
      exact ⟨rfl,rfl,rfl,rfl,rfl,rfl,rfl⟩
  case statsWait =>
    obtain ⟨t,hw,rfl⟩ := Option.map_eq_some_iff.mp h
    exact (SameWorkers.wait hw (by decide) (by decide)).serve _
  case stats =>
    cases h
    exact ⟨rfl,rfl,rfl,rfl,rfl,rfl,rfl⟩
  case statsPost =>
    cases h
    exact (SameWorkers.post s _ (by decide) (by decide)).serve _
  case send | refuse =>
    obtain ⟨t,hw,rfl⟩ := Option.map_eq_some_iff.mp h
    exact (SameWorkers.sendCashier hw).serve _
  case exited => cases h

theorem record_entry_stop (m : SharedState) (d : TouristData) :
    (m.recordEntry d).emergencyStop = m.emergencyStop := by
  unfold SharedState.recordEntry
  split <;> rfl

theorem tourist_same {i : Fin n} {x : Nat} (h : touristMain s i x = some s') :
    SameWorkers s s' := by
  cases hp : (s.tourists i).pc <;> simp only [touristMain,hp] at h
  case buySend =>
    obtain ⟨t,hw,rfl⟩ := Option.map_eq_some_iff.mp h
    exact (SameWorkers.sendCashier hw).walk i _
  case buyReceive =>
    obtain ⟨⟨m,q⟩,-,rfl⟩ := Option.map_eq_some_iff.mp h
    dsimp only
    split <;> exact ⟨rfl,rfl,rfl,rfl,rfl,rfl,rfl⟩
  case boardReceive =>
    obtain ⟨⟨m,q⟩,-,rfl⟩ := Option.map_eq_some_iff.mp h
    exact ⟨rfl,rfl,rfl,rfl,rfl,rfl,rfl⟩
  case recordWait | closingWait | gateWait | stationWait | countWait | leaveWait | platformWait |
      departWait | boardWait | clearWait | clearSleep | exitWait | updateWait =>
    obtain ⟨t,hw,rfl⟩ := Option.map_eq_some_iff.mp h
    exact (SameWorkers.wait hw (by decide) (by decide)).walk i _
  case recordPost | closingPost | countPost | gatePost | leavePost | leaveStation | departPost |
      departStation | boardPost | clearPost | platformPost | exitPost | updatePost | failGate |
      failGateStation | failStation | failPlatform =>
    cases h
    exact (SameWorkers.post s _ (by decide) (by decide)).walk i _
  case recordEntry =>
    cases h
    exact ⟨rfl,rfl,rfl,rfl,rfl,rfl,record_entry_stop _ _⟩
  case countAdd | leaveSub | departSub | updateStats | clearRead | boardSend | arriveSend =>
    cases h
    exact ⟨rfl,rfl,rfl,rfl,rfl,rfl,rfl⟩
  case closingRead | boardRead =>
    cases h
    exact (SameWorkers.refl s).setTourist i _
  case scaredCheck | ride | rideDone =>
    cases h
    exact (SameWorkers.refl s).walk i _
  case loopTop | descend =>
    repeat' split at h
    all_goals
      cases h
      exact (SameWorkers.refl s).setTourist i _
  case gone => cases h

/-- Only the workers and their signals touch what the workers share. -/
def Act.outside : Act n → Bool
  | .worker _ _ | .sleep _ | .deliver _ _ | .kill _ _ => false
  | _ => true

theorem cashier_fail {pc : CashierPc} (h : step s (.cashierFail pc) = some s') :
    pc ∈ cashierFailures s.cashier.pc ∧ s' = s.serve pc := by
  simp only [step] at h
  split at h
  · rename_i hpc
    exact ⟨hpc,(Option.some.inj h).symm⟩
  · cases h

theorem outside_same {a : Act n} (ha : a.outside = true) (h : step s a = some s') :
    SameWorkers s s' := by
  cases a with
  | worker | sleep | deliver | kill => cases ha
  | cashier => exact cashier_same h
  | cashierFail pc =>
    obtain ⟨-,rfl⟩ := cashier_fail h
    exact (SameWorkers.refl s).serve _
  | tourist i x => exact tourist_same h
  | touristCont i =>
    simp only [step] at h
    split at h
    · obtain ⟨pc,-,rfl⟩ := Option.map_eq_some_iff.mp h
      exact (SameWorkers.refl s).walk i _
    · cases h
  | touristFail i =>
    obtain ⟨pc,-,rfl⟩ := Option.map_eq_some_iff.mp h
    exact (SameWorkers.refl s).walk i _
  | tick ms =>
    simp only [step] at h
    split at h
    · cases h
      exact ⟨rfl,rfl,rfl,rfl,rfl,rfl,rfl⟩
    · cases h
  | close | shutdown =>
    cases h
    exact ⟨rfl,rfl,rfl,rfl,rfl,rfl,rfl⟩

/-- A step of tourist `i` leaves the other tourists, the cashier and the numbers the
generator gave to tourist `i` alone. -/
structure TouristOnly (i : Fin n) (s s' : Sys n) : Prop where
  others : ∀ j, j ≠ i → s'.tourists j = s.tourists j
  cashier : s'.cashier = s.cashier
  mqCashierMax : s'.mqCashierMax = s.mqCashierMax
  id : (s'.tourists i).data.id = (s.tourists i).data.id
  chairSlots : (s'.tourists i).data.chairSlots = (s.tourists i).data.chairSlots
  running : s'.shm.running = s.shm.running
  capacity : s'.shm.stationCapacity = s.shm.stationCapacity

theorem TouristOnly.ids {i : Fin n} (ho : TouristOnly i s s')
    (h : ∀ j, (s.tourists j).data.id = touristId j) (j : Fin n) :
    (s'.tourists j).data.id = touristId j := by
  by_cases hj : j = i
  · subst hj
    rw [ho.id]
    exact h j
  · rw [ho.others j hj]
    exact h j

theorem TouristOnly.setTourist {i : Fin n} {w : Tourist} (ht : t.tourists = s.tourists)
    (hc : t.cashier = s.cashier) (hm : t.mqCashierMax = s.mqCashierMax)
    (hr : t.shm.running = s.shm.running) (hs : t.shm.stationCapacity = s.shm.stationCapacity)
    (hi : w.data.id = (s.tourists i).data.id)
    (hk : w.data.chairSlots = (s.tourists i).data.chairSlots) :
    TouristOnly i s (t.setTourist i w) := by
  refine ⟨?_,hc,hm,by simpa using hi,by simpa using hk,hr,hs⟩
  intro j hj
  simp [hj,ht]

theorem TouristOnly.walk {i : Fin n} (pc : TouristPc) (ht : t.tourists = s.tourists)
    (hc : t.cashier = s.cashier) (hm : t.mqCashierMax = s.mqCashierMax)
    (hr : t.shm.running = s.shm.running) (hs : t.shm.stationCapacity = s.shm.stationCapacity) :
    TouristOnly i s (t.walk i pc) :=
  .setTourist ht hc hm hr hs (by rw [ht]) (by rw [ht])

theorem tourist_only {i : Fin n} {x : Nat} (h : touristMain s i x = some s') :
    TouristOnly i s s' := by
  cases hp : (s.tourists i).pc <;> simp only [touristMain,hp] at h
  case gone => cases h
  case buySend =>
    obtain ⟨-,rfl⟩ := send_cashier_map h
    exact .walk _ rfl rfl rfl rfl rfl
  case buyReceive =>
    obtain ⟨⟨m,q⟩,-,rfl⟩ := Option.map_eq_some_iff.mp h
    dsimp only
    split
    · exact .walk _ rfl rfl rfl rfl rfl
    · exact .setTourist rfl rfl rfl rfl rfl rfl rfl
  case boardReceive =>
    obtain ⟨⟨m,q⟩,-,rfl⟩ := Option.map_eq_some_iff.mp h
    exact .setTourist rfl rfl rfl rfl rfl rfl rfl
  case recordWait | closingWait | gateWait | stationWait | countWait | leaveWait | platformWait |
      departWait | boardWait | clearWait | clearSleep | exitWait | updateWait =>
    obtain ⟨-,rfl⟩ := sem_wait_map h
    exact .walk _ rfl rfl rfl rfl rfl
  case recordEntry =>
    cases h
    simp only [SharedState.recordEntry]
    split <;> exact .walk _ rfl rfl rfl rfl rfl
  case closingRead | boardRead | clearRead =>
    cases h
    exact .setTourist rfl rfl rfl rfl rfl rfl rfl
  case loopTop | descend =>
    repeat' split at h
    all_goals
      cases h
      exact .setTourist rfl rfl rfl rfl rfl rfl rfl
  all_goals
    cases h
    exact .walk _ rfl rfl rfl rfl rfl
structure TouristQueues (i : Fin n) (s s' : Sys n) : Prop where
  cashier : (s.tourists i).pc ≠ .buySend → (s.tourists i).pc ≠ .buyReceive →
    s'.mqCashier = s.mqCashier
  platform : (s.tourists i).pc ≠ .boardSend → s'.mqPlatform = s.mqPlatform
  boarding : (s.tourists i).pc ≠ .boardReceive → s'.mqBoarding = s.mqBoarding
  arrivals : (s.tourists i).pc ≠ .arriveSend → s'.mqArrivals = s.mqArrivals

theorem TouristQueues.of_eq {i : Fin n} (h1 : s'.mqCashier = s.mqCashier)
    (h2 : s'.mqPlatform = s.mqPlatform) (h3 : s'.mqBoarding = s.mqBoarding)
    (h4 : s'.mqArrivals = s.mqArrivals) : TouristQueues i s s' :=
  ⟨fun _ _ => h1,fun _ => h2,fun _ => h3,fun _ => h4⟩

theorem tourist_queues {i : Fin n} {x : Nat} (h : touristMain s i x = some s') :
    TouristQueues i s s' := by
  cases hp : (s.tourists i).pc <;> simp only [touristMain,hp] at h
  case gone => cases h
  case buySend =>
    obtain ⟨-,rfl⟩ := send_cashier_map h
    exact ⟨fun hn => absurd hp hn,fun _ => rfl,fun _ => rfl,fun _ => rfl⟩
  case buyReceive =>
    obtain ⟨⟨m,q⟩,-,rfl⟩ := Option.map_eq_some_iff.mp h
    refine ⟨fun _ hn => absurd hp hn,?_,?_,?_⟩ <;> intro _ <;> dsimp only <;> split <;> rfl
  case boardSend =>
    cases h
    exact ⟨fun _ _ => rfl,fun hn => absurd hp hn,fun _ => rfl,fun _ => rfl⟩
  case boardReceive =>
    obtain ⟨⟨m,q⟩,-,rfl⟩ := Option.map_eq_some_iff.mp h
    exact ⟨fun _ _ => rfl,fun _ => rfl,fun hn => absurd hp hn,fun _ => rfl⟩
  case arriveSend =>
    cases h
    exact ⟨fun _ _ => rfl,fun _ => rfl,fun _ => rfl,fun hn => absurd hp hn⟩
  case recordWait | closingWait | gateWait | stationWait | countWait | leaveWait | platformWait |
      departWait | boardWait | clearWait | clearSleep | exitWait | updateWait =>
    obtain ⟨-,rfl⟩ := sem_wait_map h
    exact .of_eq rfl rfl rfl rfl
  case loopTop | descend =>
    repeat' split at h
    all_goals
      cases h
      exact .of_eq rfl rfl rfl rfl
  all_goals
    cases h
    exact .of_eq rfl rfl rfl rfl

end Ropeway
