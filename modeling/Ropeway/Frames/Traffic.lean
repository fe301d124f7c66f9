import Ropeway.Frames.Visitors

/-! Who can change the way of a tourist from the platform to the upper station. All
steps but a few leave the queues and the private state of both workers alone and at
most take a worker from one place of its loop to another. -/

namespace Ropeway
variable {n : Nat} {s s' : Sys n} {a : Act n} {r : Role}

/-- How the place of worker `r` can change outside its own work. -/
inductive Shift (a : Act n) (s : Sys n) (r : Role) (pc : WorkerPc) : Prop
  | same (h : pc = (s.worker r).pc)
  | calm (before : atWork (s.worker r).pc = false) (after : atWork pc = false)
  | enter (h : Enters s r pc)
  | wake {sig : Signal} (sent : a = .deliver r sig) (woken : wakes (s.worker r) sig = true)
      (h : pc = wakePc s.lower (s.worker r).pc)

structure Still (a : Act n) (s s' : Sys n) : Prop where
  visitor : ∀ i x, a ≠ .tourist i x
  idle : ∀ r x, a = .worker r x → atWork (s.worker r).pc = false
  tourists : s'.tourists = s.tourists
  mqPlatform : s'.mqPlatform = s.mqPlatform
  mqBoarding : s'.mqBoarding = s.mqBoarding
  mqArrivals : s'.mqArrivals = s.mqArrivals
  lower : s'.lower = s.lower
  upper : s'.upper = s.upper
  chairs : s'.sem .chairs = s.sem .chairs
  shift : ∀ r, Shift a s r (s'.worker r).pc

inductive Traffic (s s' : Sys n) : Act n → Prop
  | lower {x : Nat} {p : LowerPc} (hp : (s.worker .lower).pc = .lower p)
      (h : lowerWorkerMain s x p = some s') : Traffic s s' (.worker .lower x)
  | upper {x : Nat} {p : UpperPc} (hp : (s.worker .upper).pc = .upper p)
      (h : upperWorkerMain s p = some s') : Traffic s s' (.worker .upper x)
  | tourist {i : Fin n} {x : Nat} (h : touristMain s i x = some s') : Traffic s s' (.tourist i x)
  | cont {i : Fin n} {pc : TouristPc} (h : touristInterrupted (s.tourists i).pc = some pc)
      (he : s' = s.walk i pc) : Traffic s s' (.touristCont i)
  | still {a : Act n} (h : Still a s s') : Traffic s s' a

theorem Calm.still {x : Nat} (hp : atWork (s.worker r).pc = false)
    (h : workerStep s r x = some s') : Still (.worker r x) s s' := by
  have hc := worker_calm hp h
  obtain ⟨p,q,hpeer⟩ := hc.peer
  refine ⟨by simp,?_,hc.tourists,hc.mqPlatform,hc.mqBoarding,hc.mqArrivals,hc.lower,hc.upper,
    hc.sem .chairs (by decide) (by decide) (by decide),r.both ?_ (.same (by rw [hpeer]))⟩
  · rintro q y he
    cases he
    exact hp
  · rcases worker_pc hp h with hn | he
    · exact .calm hp hn
    · exact .enter he

theorem signal_still (hown : ∀ r, ownPc r (s.worker r).pc = true) (ha : a.outside = false)
    (hw : ∀ r x, a ≠ .worker r x) (h : step s a = some s') : Still a s s' := by
  cases a with
  | worker r x => exact absurd rfl (hw r x)
  | sleep r =>
    simp only [step] at h
    split at h
    · cases h
      exact ⟨by simp,by simp,rfl,rfl,rfl,rfl,rfl,rfl,rfl,r.both (.same (by simp)) (.same (by simp))⟩
    · cases h
  | deliver r sig =>
    obtain ⟨w,hh,⟨-,rfl⟩ | ⟨hwake,al,rfl⟩⟩ := deliver_eq (hown r) h
    · have hpc := (handler_frame hh).1
      exact ⟨by simp,by simp,rfl,rfl,rfl,rfl,rfl,rfl,rfl,r.both (.same (by simpa using hpc)) (.same (by simp))⟩
    · exact ⟨by simp,by simp,rfl,rfl,rfl,rfl,rfl,rfl,rfl,
        r.both (.wake rfl hwake (by simp)) (.same (by simp))⟩
  | kill r sig =>
    obtain ⟨w,hs,rfl⟩ := Option.map_eq_some_iff.mp h
    have hpc : w.pc = (s.worker r).pc := by cases sig <;> cases hs <;> rfl
    exact ⟨by simp,by simp,rfl,rfl,rfl,rfl,rfl,rfl,rfl,r.both (.same (by simpa using hpc)) (.same (by simp))⟩
  | _ => cases ha

/-- Every step before the shutdown is one of these. -/
theorem step_traffic (hown : ∀ r, ownPc r (s.worker r).pc = true)
    (ha : ∀ i, a ≠ .touristFail i) (h : step s a = some s') : Traffic s s' a := by
  cases a with
  | worker r x =>
    cases worker_acts h with
    | calm hp _ => exact .still (Calm.still hp h)
    | lower hp hs =>
      obtain rfl := own_lower (hown r) hp
      exact .lower hp hs
    | upper hp hs =>
      obtain rfl := own_upper (hown r) hp
      exact .upper hp hs
  | sleep | deliver | kill => exact .still (signal_still hown rfl (by simp) h)
  | cashier =>
    have hw := cashier_same h
    have hc := cashier_only h
    exact .still ⟨by simp,by simp,hc.tourists,hc.mqPlatform,hc.mqBoarding,hc.mqArrivals,hw.lower,
      hw.upper,hw.chairs,fun r => .same (by rw [hw.worker])⟩
  | cashierFail pc =>
    obtain ⟨-,rfl⟩ := cashier_fail h
    exact .still ⟨by simp,by simp,rfl,rfl,rfl,rfl,rfl,rfl,rfl,fun r => .same rfl⟩
  | tourist i x => exact .tourist h
  | touristCont i =>
    simp only [step] at h
    split at h
    · obtain ⟨pc,hpc,rfl⟩ := Option.map_eq_some_iff.mp h
      exact .cont hpc rfl
    · cases h
  | touristFail i => exact absurd rfl (ha i)
  | tick ms =>
    simp only [step] at h
    split at h
    · cases h
      exact .still ⟨by simp,by simp,rfl,rfl,rfl,rfl,rfl,rfl,rfl,fun r => .same rfl⟩
    · cases h
  | close | shutdown =>
    cases h
    exact .still ⟨by simp,by simp,rfl,rfl,rfl,rfl,rfl,rfl,rfl,fun r => .same rfl⟩

theorem step_running (hown : ∀ r, ownPc r (s.worker r).pc = true) (ha : a ≠ .shutdown)
    (h : step s a = some s') : s'.shm.running = s.shm.running := by
  cases a with
  | worker r x =>
    cases worker_acts h with
    | calm _ hs =>
      obtain ⟨p,q,he⟩ := hs.shm
      rw [he]
    | lower _ hs => rw [(lower_only hs).shm]
    | upper _ hs => rw [(upper_only hs).shm]
  | sleep | deliver | kill =>
    obtain ⟨r,w,rfl,-⟩ := signal_record hown rfl (by simp) h
    rfl
  | cashier => exact (cashier_only h).running
  | cashierFail pc =>
    obtain ⟨-,rfl⟩ := cashier_fail h
    rfl
  | tourist i x => exact (tourist_only h).running
  | touristCont i =>
    simp only [step] at h
    split at h
    · obtain ⟨pc,hpc,rfl⟩ := Option.map_eq_some_iff.mp h
      rfl
    · cases h
  | touristFail i =>
    obtain ⟨pc,hpc,rfl⟩ := Option.map_eq_some_iff.mp h
    rfl
  | tick ms =>
    simp only [step] at h
    split at h
    · cases h
      rfl
    · cases h
  | close =>
    cases h
    rfl
  | shutdown => exact absurd rfl ha

structure Running (s : Sys n) : Prop where
  own : ∀ r, ownPc r (s.worker r).pc = true
  on : s.shm.running = true

theorem start_running (u : Setup n) : Running u.start :=
  ⟨fun r => by cases r <;> rfl,rfl⟩

theorem Running.step {tr : List (Sys n × Act n)} (h : Running s)
    (ha : beforeShutdown tr s a = true) (hs : Ropeway.step s a = some s') :
    Running s' ∧ Traffic s s' a := by
  have h1 : a ≠ .shutdown := by
    rintro rfl
    simp [beforeShutdown] at ha
  have h2 : ∀ i, a ≠ .touristFail i := by
    rintro i rfl
    simp [beforeShutdown] at ha
  exact ⟨⟨step_own h.own hs,(step_running h.own h1 hs).trans h.on⟩,step_traffic h.own h2 hs⟩

/-- An invariant of the traffic holds along every run before the shutdown. -/
theorem run_traffic {rules : List (Env n)} {u : Setup n} {tr : List (Sys n × Act n)}
    (hr : beforeShutdown ∈ rules) (I : List (Sys n × Act n) → Sys n → Prop)
    (start : I [] u.start)
    (preserve : ∀ tr s a s', I tr s → Running s → allow rules tr s a = true → Traffic s s' a →
      I (tr ++ [(s,a)]) s') (h : Runs rules u tr s) : I tr s := by
  have hboth : Running s ∧ I tr s := by
    refine h.invariant (fun tr s => Running s ∧ I tr s) ⟨start_running u,start⟩ ?_
    rintro tr s a s' ⟨hrun,hi⟩ allowed hstep
    obtain ⟨hrun',ht⟩ := hrun.step (allow_mem hr allowed) hstep
    exact ⟨hrun',preserve tr s a s' hi hrun allowed ht⟩
  exact hboth.2

/-- Whether a tourist waits for its confirmation or is on its way up. -/
inductive Seat
  | aside | ready | aboard
  deriving DecidableEq

def seatOf : TouristPc → Seat
  | .boardReceive => .ready
  | .platformPost | .ride | .exitWait | .arriveSend => .aboard
  | _ => .aside

theorem seat_ready {pc : TouristPc} (h : seatOf pc = .ready) : pc = .boardReceive := by
  cases pc <;> first | rfl | cases h

structure SameSeat (i : Fin n) (s s' : Sys n) : Prop where
  seat : seatOf (s'.tourists i).pc = seatOf (s.tourists i).pc
  chairId : (s'.tourists i).chairId = (s.tourists i).chairId
  touristsOnChair : (s'.tourists i).touristsOnChair = (s.tourists i).touristsOnChair

theorem tourist_seat {i : Fin n} {x : Nat} (hrun : s.shm.running = true)
    (h : touristMain s i x = some s') (h1 : (s.tourists i).pc ≠ .boardSend)
    (h2 : (s.tourists i).pc ≠ .boardReceive) (h3 : (s.tourists i).pc ≠ .arriveSend) :
    SameSeat i s s' := by
  cases hp : (s.tourists i).pc <;> simp only [touristMain,hp] at h
  case boardSend => exact absurd hp h1
  case boardReceive => exact absurd hp h2
  case arriveSend => exact absurd hp h3
  case gone => cases h
  case buySend =>
    obtain ⟨-,rfl⟩ := send_cashier_map h
    constructor <;> simp [hp,seatOf]
  case buyReceive =>
    obtain ⟨⟨m,q⟩,-,rfl⟩ := Option.map_eq_some_iff.mp h
    dsimp only
    split <;> constructor <;> simp [hp,seatOf]
  case recordWait | closingWait | gateWait | stationWait | countWait | leaveWait | platformWait |
      departWait | boardWait | clearWait | clearSleep | exitWait | updateWait =>
    obtain ⟨-,rfl⟩ := sem_wait_map h
    constructor <;> simp [hp,seatOf]
  case loopTop | descend =>
    repeat' split at h
    all_goals
      cases h
      constructor <;> simp [hp,seatOf]
  case ride =>
    cases h
    constructor <;> simp [hp,hrun,seatOf]
  all_goals
    cases h
    repeat' split
    all_goals constructor <;> simp [hp,seatOf]

/-- A tourist waits for its confirmation only after sending itself to the platform. -/
theorem tourist_ready {i : Fin n} {x : Nat} (hrun : s.shm.running = true)
    (h : touristMain s i x = some s') (hp : (s'.tourists i).pc = .boardReceive) :
    (s.tourists i).pc = .boardSend := by
  by_contra h1
  by_cases h2 : (s.tourists i).pc = .boardReceive
  · simp only [touristMain,h2] at h
    obtain ⟨⟨m,q⟩,-,rfl⟩ := Option.map_eq_some_iff.mp h
    simp at hp
  · by_cases h3 : (s.tourists i).pc = .arriveSend
    · simp only [touristMain,h3] at h
      cases h
      simp at hp
    · have hseat := (tourist_seat hrun h h1 h2 h3).seat
      rw [hp] at hseat
      exact h2 (seat_ready hseat.symm)

end Ropeway
