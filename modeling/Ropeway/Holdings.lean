import Ropeway.Station

/-! What each process has taken from the semaphore set and not given back. -/

namespace Ropeway
open Function (update)
variable {n : Nat} {s s' : Sys n} {u : Setup n} {tr : List (Sys n × Act n)}

inductive Process (n : Nat)
  | worker (r : Role) | cashier | tourist (i : Fin n)
  deriving DecidableEq

def Process.equiv : Role ⊕ Option (Fin n) ≃ Process n where
  toFun
    | .inl r => .worker r
    | .inr none => .cashier
    | .inr (some i) => .tourist i
  invFun
    | .worker r => .inl r
    | .cashier => .inr none
    | .tourist i => .inr (some i)
  left_inv := by rintro (r | (_ | i)) <;> rfl
  right_inv := by rintro (r | _ | i) <;> rfl

instance : Fintype (Process n) := .ofEquiv _ Process.equiv

/-- Whose program takes the step. A signal, a failing call and the clock are nobody's. -/
def Act.process : Act n → Option (Process n)
  | .worker r _ => some (.worker r)
  | .cashier => some .cashier
  | .tourist i _ => some (.tourist i)
  | _ => none

/-- What the `semop` calls of each process have taken so far, less what they have
given back. -/
def noteTaken (g : Process n → Sem → Int) (s : Sys n) (a : Act n) : Process n → Sem → Int :=
  match a.process, step s a with
  | some p, some s' => update g p (fun k => g p k + (s.sem k - s'.sem k))
  | _, _ => g

def taken (tr : List (Sys n × Act n)) : Process n → Sem → Int :=
  Lib.history noteTaken (fun _ _ => 0) tr

/-- The semaphores a process takes one of and gives back itself. -/
def lent : List Sem := [.entryGates, .platformGates, .exitGates, .state, .stats]

def holders (tr : List (Sys n × Act n)) (k : Sem) : Nat :=
  (Finset.univ.filter (fun p => taken tr p k = 1)).card

/-- Nobody has more than one, none is lost, and a tourist that has left the ride loop
has nothing. -/
structure GivenBack (u : Setup n) (tr : List (Sys n × Act n)) (s : Sys n) : Prop where
  single : ∀ p, ∀ k ∈ lent, taken tr p k = 0 ∨ taken tr p k = 1
  balance : ∀ k ∈ lent, s.sem k + holders tr k = u.sem k
  initial : lent.map u.sem = [4, 3, 2, 1, 1]
  left : ∀ i, (s.tourists i).pc = .gone → ∀ k ∈ .lowerStation :: lent, taken tr (.tourist i) k = 0

/-- Between the wait for an entry gate and its release. A VIP takes none. -/
def holdsEntry (vip : Bool) : TouristPc → Bool
  | .stationWait | .countWait | .countAdd | .countPost => !vip
  | .gatePost | .failGate | .failGateStation => true
  | _ => false

def holdsPlatform : TouristPc → Bool
  | .departWait | .departSub | .departPost | .departStation
  | .boardWait | .boardRead | .boardPost
  | .clearWait | .clearRead | .clearPost | .clearSleep
  | .boardSend | .boardReceive | .platformPost | .failPlatform => true
  | _ => false

def holdsExit : TouristPc → Bool
  | .arriveSend | .exitPost => true
  | _ => false

def holdsState : TouristPc → Bool
  | .closingRead | .closingPost | .countAdd | .countPost | .leaveSub | .leavePost
  | .departSub | .departPost | .boardRead | .boardPost | .clearRead | .clearPost => true
  | _ => false

def holdsStats : TouristPc → Bool
  | .recordEntry | .recordPost | .updateStats | .updatePost => true
  | _ => false

def lentAt (vip : Bool) (slots : Nat) (pc : TouristPc) : Sem → Nat
  | .entryGates => (holdsEntry vip pc).toNat
  | .platformGates => (holdsPlatform pc).toNat
  | .exitGates => (holdsExit pc).toNat
  | .state => (holdsState pc).toNat
  | .stats => (holdsStats pc).toNat
  | .lowerStation => if holdsStation pc then slots else 0
  | _ => 0

def touristTakes (t : Tourist) : Sem → Nat := lentAt t.data.isVip t.data.stationSlots t.pc

def workerHoldsState : WorkerPc → Bool
  | .trigger .setFlag | .trigger .postState
  | .ack .setFlag | .ack .postState | .ack .clear | .ack .postClear
  | .resume .clear | .resume .postState | .resume .releaseTake | .resume (.releasePost _)
  | .lower .checkRead | .lower .checkPost | .lower .recheckRead | .lower .recheckPost => true
  | _ => false

def workerTakes (pc : WorkerPc) : Sem → Nat
  | .state => (workerHoldsState pc).toNat
  | _ => 0

def cashierTakes : CashierPc → Sem → Nat
  | .stats, .stats | .statsPost, .stats => 1
  | _, _ => 0

def takes (s : Sys n) : Process n → Sem → Nat
  | .worker r => workerTakes (s.worker r).pc
  | .cashier => cashierTakes s.cashier.pc
  | .tourist i => touristTakes (s.tourists i)

/-- Tourist `i` moves between the set and itself and loses nothing. Only the tokens of
`SEM_EMERGENCY_CLEAR` are not given back. -/
def Lends (i : Fin n) (s s' : Sys n) : Prop :=
  ∀ k, k ≠ .emergencyClear →
    s'.sem k + touristTakes (s'.tourists i) k = s.sem k + touristTakes (s.tourists i) k

theorem Lends.still {i : Fin n} {t : Tourist} {pc : TouristPc} (hs : s'.sem = s.sem)
    (hp : (s.tourists i).pc = pc) (hv : t.data.isVip = (s.tourists i).data.isVip)
    (hn : t.data.stationSlots = (s.tourists i).data.stationSlots)
    (h : ∀ v m, lentAt v m t.pc = lentAt v m pc) : Lends i s (s'.setTourist i t) := by
  intro k _
  simp only [Sys.setTourist_sem,Sys.setTourist_tourists,Function.update_self,touristTakes,hs,hv,hn,
    hp,h]

theorem Lends.wait {i : Fin n} {j : Sem} {c : Nat} {pc pc' : TouristPc}
    (hw : semWait s j c = some s') (hp : (s.tourists i).pc = pc)
    (h : ∀ k, k ≠ .emergencyClear →
      lentAt (s.tourists i).data.isVip (s.tourists i).data.stationSlots pc' k =
        lentAt (s.tourists i).data.isVip (s.tourists i).data.stationSlots pc k +
          if k = j then c else 0) :
    Lends i s (s'.walk i pc') := by
  obtain ⟨hc,rfl⟩ := sem_wait_some hw
  intro k hk
  simp only [Sys.walk_sem,Sys.walk_tourists,Function.update_self,touristTakes,hp,h k hk]
  by_cases hj : k = j
  · subst hj
    simp
    omega
  · simp [hj]

theorem Lends.post {i : Fin n} {j : Sem} {c : Nat} {pc pc' : TouristPc}
    (hp : (s.tourists i).pc = pc)
    (h : ∀ k, lentAt (s.tourists i).data.isVip (s.tourists i).data.stationSlots pc k =
      lentAt (s.tourists i).data.isVip (s.tourists i).data.stationSlots pc' k +
        if k = j then c else 0) :
    Lends i s ((semPost s j c).walk i pc') := by
  intro k _
  simp only [Sys.walk_sem,Sys.walk_tourists,Function.update_self,touristTakes,hp,h k,semPost_sem,
    semPost_tourists]
  by_cases hj : k = j
  · subst hj
    simp
    omega
  · simp [hj]

def vipPasses (t : Tourist) : Prop := t.pc = .gateWait → t.data.isVip = false

theorem tourist_lends {i : Fin n} {x : Nat} (hv : vipPasses (s.tourists i))
    (h : touristMain s i x = some s') : Lends i s s' := by
  cases hp : (s.tourists i).pc <;> simp only [touristMain,hp] at h
  case gone => cases h
  case buySend =>
    obtain ⟨-,rfl⟩ := send_cashier_map h
    exact .still rfl hp rfl rfl fun v m => by funext k; cases k <;> rfl
  case buyReceive =>
    obtain ⟨⟨m,q⟩,-,rfl⟩ := Option.map_eq_some_iff.mp h
    dsimp only
    split <;> exact .still rfl hp rfl rfl fun v m => by funext k; cases k <;> rfl
  case boardReceive =>
    obtain ⟨⟨m,q⟩,-,rfl⟩ := Option.map_eq_some_iff.mp h
    exact .still rfl hp rfl rfl fun v m => by funext k; cases k <;> rfl
  case gateWait =>
    obtain ⟨t,hw,rfl⟩ := Option.map_eq_some_iff.mp h
    refine .wait hw hp ?_
    intro k hk
    rw [hv hp]
    cases k <;> rfl
  case recordWait | closingWait | stationWait | countWait | leaveWait | platformWait |
      departWait | boardWait | clearWait | clearSleep | exitWait | updateWait =>
    obtain ⟨t,hw,rfl⟩ := Option.map_eq_some_iff.mp h
    refine .wait hw hp ?_
    intro k hk
    cases k <;> first | rfl | exact (Nat.zero_add _).symm | exact absurd rfl hk
  case recordPost | gatePost | leavePost | leaveStation | departPost | departStation |
      platformPost | exitPost | updatePost | failGate | failGateStation | failStation |
      failPlatform =>
    cases h
    refine .post hp ?_
    intro k
    cases k <;> first | rfl | exact (Nat.zero_add _).symm
  case closingPost | countPost | boardPost | clearPost =>
    cases h
    refine .post hp ?_
    intro k
    cases (s.tourists i).data.isVip <;> repeat' split
    all_goals cases k <;> first | rfl | contradiction
  case loopTop | descend =>
    repeat' split at h
    all_goals
      cases h
      exact .still rfl hp rfl rfl fun v m => by funext k; cases k <;> rfl
  case scaredCheck | ride | rideDone =>
    cases h
    repeat' split
    all_goals exact .still rfl hp rfl rfl fun v m => by funext k; cases k <;> rfl
  all_goals
    cases h
    exact .still rfl hp rfl rfl fun v m => by funext k; cases k <;> rfl

/-- A failing call takes and gives back nothing. -/
theorem failure_lends {i : Fin n} {pc : TouristPc}
    (h : touristFailure (s.tourists i).data (s.tourists i).pc = some pc) :
    Lends i s (s.walk i pc) := by
  intro k _
  simp only [Sys.walk_sem,Sys.walk_tourists,Function.update_self,touristTakes]
  cases hp : (s.tourists i).pc <;> simp only [hp,touristFailure,reduceCtorEq,Option.some.injEq] at h
  all_goals
    subst h
    cases k <;> cases (s.tourists i).data.isVip <;> rfl

theorem cont_lends {i : Fin n} {pc : TouristPc}
    (h : touristInterrupted (s.tourists i).pc = some pc) : Lends i s (s.walk i pc) := by
  intro k _
  simp only [Sys.walk_sem,Sys.walk_tourists,Function.update_self,touristTakes]
  cases hp : (s.tourists i).pc <;> rw [hp] at h <;> cases h
  all_goals cases k <;> rfl

def WorkerLends (r : Role) (s s' : Sys n) : Prop :=
  ∀ k ∈ .lowerStation :: lent,
    s'.sem k + workerTakes (s'.worker r).pc k = s.sem k + workerTakes (s.worker r).pc k

theorem WorkerLends.of {r : Role} (hstate : s'.sem .state + (workerHoldsState (s'.worker r).pc).toNat =
      s.sem .state + (workerHoldsState (s.worker r).pc).toNat)
    (h : ∀ k, k ≠ .state → k ≠ .chairs → k ≠ .emergencyClear → k ≠ .emergencyLock →
      s'.sem k = s.sem k) : WorkerLends r s s' := by
  intro k hk
  cases k with
  | state => exact hstate
  | chairs | workerReady | emergencyClear | emergencyLock => simp [lent] at hk
  | _ => simp [workerTakes,h]

def stateWith (s : Sys n) (pc : WorkerPc) : Nat := s.sem .state + (workerHoldsState pc).toNat

section

attribute [local simp] workerHoldsState

theorem danger_state (r : Role) (s : Sys n) (x : Nat) :
    stateWith (checkForDanger r s x) ((checkForDanger r s x).worker r).pc = stateWith s .danger := by
  simp only [checkForDanger]
  repeat' split
  all_goals simp [stateWith]

theorem trigger_state {r : Role} {p : TriggerPc} (h : workerTriggerEmergencyStop r s p = some s') :
    stateWith s' (s'.worker r).pc = stateWith s (.trigger p) := by
  cases p with
  | tryWait =>
    simp only [workerTriggerEmergencyStop] at h
    split at h
    · cases h
      simp [stateWith,Sys.enterAck]
    · rename_i hw
      cases h
      obtain ⟨-,rfl⟩ := sem_wait_some hw
      simp [stateWith]
  | waitState =>
    obtain ⟨hle,rfl⟩ := sem_wait_map h
    simp [stateWith]
    omega
  | _ =>
    cases h
    simp [stateWith]

theorem ack_state {r : Role} {p : AckPc} (h : workerAcknowledgeEmergencyStop r s p = some s') :
    stateWith s' (s'.worker r).pc = stateWith s (.ack p) := by
  cases p with
  | waitState | waitClear =>
    obtain ⟨hle,rfl⟩ := sem_wait_map h
    simp [stateWith]
    omega
  | receive =>
    obtain ⟨⟨m,q⟩,-,rfl⟩ := Option.map_eq_some_iff.mp h
    simp [stateWith]
  | _ =>
    cases h
    simp [stateWith]

theorem resume_state {r : Role} {p : ResumePc} (h : workerInitiateResume r s p = some s') :
    stateWith s' (s'.worker r).pc = stateWith s (.resume p) := by
  cases p with
  | waitState | releaseWait =>
    obtain ⟨hle,rfl⟩ := sem_wait_map h
    simp [stateWith]
    omega
  | receive =>
    obtain ⟨⟨m,q⟩,-,rfl⟩ := Option.map_eq_some_iff.mp h
    simp [stateWith]
  | _ =>
    cases h
    simp [stateWith]

theorem head_state {r : Role} {p : WorkerPc} (h : workerLoopHead r s p = some s') :
    stateWith s' (s'.worker r).pc = stateWith s p := by
  cases p with
  | top | checkInitiator =>
    simp only [workerLoopHead] at h
    repeat' split at h
    all_goals
      cases h
      simp [stateWith,Sys.enterAck]
  | checkResume | pauseArm =>
    cases h
    simp [stateWith]
  | _ => cases h

/-- `SEM_STATE` in the emergency code and the loop head of worker `r`. -/
theorem calm_state {r : Role} {x : Nat} (hp : atWork (s.worker r).pc = false)
    (h : workerStep s r x = some s') : s'.sem .state + (workerHoldsState (s'.worker r).pc).toNat =
      s.sem .state + (workerHoldsState (s.worker r).pc).toNat := by
  cases worker_runs h with
  | danger hpc hs =>
    rw [hs,hpc]
    exact danger_state r s x
  | trigger hpc hs =>
    rw [hpc]
    exact trigger_state hs
  | ack hpc hs =>
    rw [hpc]
    exact ack_state hs
  | resume hpc hs =>
    rw [hpc]
    exact resume_state hs
  | lower hpc | upper hpc => simp [hpc,atWork] at hp
  | head hpc idle hs =>
    rw [hpc]
    exact head_state hs

theorem lower_state {p : LowerPc} {x : Nat} (hp : (s.worker .lower).pc = .lower p)
    (h : lowerWorkerMain s x p = some s') :
    s'.sem .state + (workerHoldsState (s'.worker .lower).pc).toNat =
      s.sem .state + (workerHoldsState (s.worker .lower).pc).toNat := by
  rw [hp]
  cases p with
  | checkWait | recheckWait =>
    obtain ⟨hle,rfl⟩ := sem_wait_map h
    simp
    omega
  | checkPost | recheckPost =>
    simp only [lowerWorkerMain] at h
    split at h
    all_goals
      cases h
      simp [Sys.enterAck]
  | receive =>
    obtain ⟨⟨m,q⟩,-,rfl⟩ := Option.map_eq_some_iff.mp h
    simp
  | place =>
    simp only [lowerWorkerMain] at h
    repeat' split at h
    all_goals
      cases h
      simp
  | dispatchWait site =>
    simp only [lowerWorkerMain] at h
    split at h
    · cases h
      cases site <;> simp [afterDispatch]
    · obtain ⟨-,rfl⟩ := sem_wait_map h
      simp
  | dispatchSend site i =>
    simp only [lowerWorkerMain] at h
    split at h
    · cases h
      simp
    · cases h
      cases site <;> simp [afterDispatch]
  | _ =>
    cases h
    simp [requeuePlatform]

theorem upper_state {p : UpperPc} (hp : (s.worker .upper).pc = .upper p)
    (h : upperWorkerMain s p = some s') :
    s'.sem .state + (workerHoldsState (s'.worker .upper).pc).toNat =
      s.sem .state + (workerHoldsState (s.worker .upper).pc).toNat := by
  rw [hp]
  cases p with
  | receive =>
    obtain ⟨⟨m,q⟩,-,rfl⟩ := Option.map_eq_some_iff.mp h
    simp
  | track =>
    simp only [upperWorkerMain] at h
    repeat' split at h
    all_goals
      cases h
      simp
  | release =>
    cases h
    simp

end

theorem worker_lends {r : Role} {x : Nat} (hown : ownPc r (s.worker r).pc = true)
    (h : workerStep s r x = some s') : WorkerLends r s s' := by
  cases worker_acts h with
  | calm hp hs =>
    refine .of (calm_state hp h) ?_
    intro k h1 _ h2 h3
    exact hs.sem k h1 h2 h3
  | lower hp hs =>
    obtain rfl := own_lower hown hp
    refine .of (lower_state hp hs) ?_
    intro k h1 h2 _ _
    exact (lower_only hs).sem k h1 h2
  | upper hp hs =>
    obtain rfl := own_upper hown hp
    refine .of (upper_state hp hs) ?_
    intro k _ h2 _ _
    exact (upper_only hs).sem k h2

theorem wake_takes (l : LowerLocals) (pc : WorkerPc) : workerTakes (wakePc l pc) = workerTakes pc := by
  unfold wakePc
  repeat' split
  all_goals rfl

theorem cashier_lends (h : cashierMain s = some s') (k : Sem) :
    s'.sem k + cashierTakes s'.cashier.pc k = s.sem k + cashierTakes s.cashier.pc k := by
  cases hp : s.cashier.pc <;> simp only [cashierMain,hp] at h
  case top | recheck =>
    repeat' split at h
    all_goals
      cases h
      simp [cashierTakes]
  case receive =>
    obtain ⟨⟨m,q⟩,-,rfl⟩ := Option.map_eq_some_iff.mp h
    simp [cashierTakes]
  case statsWait =>
    obtain ⟨hle,rfl⟩ := sem_wait_map h
    cases k <;> simp [cashierTakes]
    omega
  case stats =>
    cases h
    cases k <;> simp [cashierTakes]
  case statsPost =>
    cases h
    cases k <;> simp [cashierTakes]
  case send | refuse =>
    obtain ⟨-,rfl⟩ := send_cashier_map h
    simp [cashierTakes]
  case exited => cases h

theorem fail_takes {pc pc' : CashierPc} (h : pc' ∈ cashierFailures pc) :
    cashierTakes pc' = cashierTakes pc := by
  funext k
  cases pc <;> simp [cashierFailures] at h
  all_goals rcases h with rfl | rfl <;> rfl

theorem tourist_vip {i : Fin n} {x : Nat} (h : touristMain s i x = some s') :
    vipPasses (s'.tourists i) := by
  intro hg
  by_cases hp : (s.tourists i).pc = .closingPost
  · simp only [touristMain,hp] at h
    cases h
    simp only [Sys.walk_tourists,Function.update_self] at hg ⊢
    split at hg
    · cases hg
    · split at hg
      · cases hg
      · rename_i hv
        simpa using hv
  · exfalso
    cases hpc : (s.tourists i).pc <;> simp only [touristMain,hpc] at h
    case closingPost => exact hp hpc
    case gone => cases h
    case buySend =>
      obtain ⟨t,-,rfl⟩ := Option.map_eq_some_iff.mp h
      simp at hg
    case buyReceive =>
      obtain ⟨⟨m,q⟩,-,rfl⟩ := Option.map_eq_some_iff.mp h
      dsimp only at hg
      split at hg <;> simp at hg
    case boardReceive =>
      obtain ⟨⟨m,q⟩,-,rfl⟩ := Option.map_eq_some_iff.mp h
      simp at hg
    case recordWait | closingWait | gateWait | stationWait | countWait | leaveWait | platformWait |
        departWait | boardWait | clearWait | clearSleep | exitWait | updateWait =>
      obtain ⟨t,-,rfl⟩ := Option.map_eq_some_iff.mp h
      simp at hg
    case loopTop | descend =>
      repeat' split at h
      all_goals
        cases h
        simp at hg
    case countPost | scaredCheck | boardPost | clearPost | ride | rideDone =>
      cases h
      simp only [Sys.walk_tourists,Function.update_self] at hg
      split at hg <;> cases hg
    all_goals
      cases h
      simp at hg

theorem failure_vip {d : TouristData} {pc pc' : TouristPc} (h : touristFailure d pc = some pc') :
    pc' ≠ .gateWait := by
  rintro rfl
  cases pc <;> simp only [touristFailure,reduceCtorEq,Option.some.injEq] at h
  all_goals
    split at h <;> cases h

theorem cont_vip {pc pc' : TouristPc} (h : touristInterrupted pc = some pc') :
    pc' ≠ .gateWait := by
  rintro rfl
  cases pc <;> cases h

/-- What a step does to the books: its process moves between the set and itself, and
everybody else keeps what it has. -/
structure StepLends (s s' : Sys n) (a : Act n) : Prop where
  mine : ∀ p, a.process = some p → ∀ k ∈ .lowerStation :: lent,
    s'.sem k + takes s' p k = s.sem k + takes s p k
  nobody : a.process = none → ∀ k ∈ .lowerStation :: lent, s'.sem k = s.sem k
  others : ∀ p, a.process ≠ some p → ∀ k ∈ .lowerStation :: lent, takes s' p k = takes s p k

/-- A step of process `q`. -/
theorem StepLends.owned {a : Act n} {q : Process n} (ha : a.process = some q)
    (hmine : ∀ k ∈ .lowerStation :: lent, s'.sem k + takes s' q k = s.sem k + takes s q k)
    (hothers : ∀ p, p ≠ q → takes s' p = takes s p) : StepLends s s' a := by
  refine ⟨?_,?_,?_⟩
  · intro p hp
    rw [ha] at hp
    cases hp
    exact hmine
  · intro hnone
    rw [ha] at hnone
    cases hnone
  · intro p hp k _
    rw [hothers p]
    rintro rfl
    exact hp ha

/-- A step without a `semop`. -/
theorem StepLends.unowned {a : Act n} (ha : a.process = none) (hsem : s'.sem = s.sem)
    (htakes : ∀ p, ∀ k ∈ .lowerStation :: lent, takes s' p k = takes s p k) : StepLends s s' a :=
  ⟨by simp [ha],fun _ k _ => congrFun hsem k,fun p _ => htakes p⟩

/-- What the lending rests on: each worker in its own program and no VIP at a gate. -/
structure Placed (s : Sys n) : Prop where
  own : ∀ r, ownPc r (s.worker r).pc = true
  vip : ∀ i, vipPasses (s.tourists i)

theorem clear_not_lent {k : Sem} (h : k ∈ .lowerStation :: lent) : k ≠ .emergencyClear := by
  rintro rfl
  simp [lent] at h

/-- One tourist has moved without a `semop`. -/
theorem walk_lends {i : Fin n} {pc : TouristPc} (h : Lends i s (s.walk i pc)) {a : Act n}
    (ha : a.process = none) : StepLends s (s.walk i pc) a := by
  refine .unowned ha rfl ?_
  intro p k hk
  cases p with
  | tourist j =>
    by_cases hj : j = i
    · subst hj
      exact Nat.add_left_cancel (h k (clear_not_lent hk))
    · simp [takes,hj]
  | _ => rfl

theorem walk_vip {i : Fin n} {pc : TouristPc} (h : ∀ j, vipPasses (s.tourists j)) (hpc : pc ≠ .gateWait)
    (j : Fin n) : vipPasses ((s.walk i pc).tourists j) := by
  by_cases hj : j = i
  · subst hj
    intro hg
    exact absurd (by simpa using hg) hpc
  · simpa [hj] using h j

theorem Placed.step {a : Act n} (h : Placed s) (hs : step s a = some s') :
    Placed s' ∧ StepLends s s' a := by
  have hown := step_own h.own hs
  cases a with
  | worker r x =>
    have hv := worker_visitors hs
    obtain ⟨b,c,hpeer⟩ := worker_peer (h.own r) hs
    refine ⟨⟨hown,by rw [hv.tourists]; exact h.vip⟩,.owned rfl (worker_lends (h.own r) hs) ?_⟩
    intro p hp
    cases p with
    | worker q =>
      rcases r.eq_or_other q with rfl | rfl
      · exact absurd rfl hp
      · simp [takes,hpeer]
    | cashier => simp [takes,hv.cashier]
    | tourist i => simp [takes,hv.tourists]
  | sleep | deliver | kill =>
    obtain ⟨r,w,rfl,hw,-⟩ := signal_record h.own rfl (by simp) hs
    refine ⟨⟨hown,h.vip⟩,.unowned rfl rfl ?_⟩
    intro p k _
    cases p with
    | worker q =>
      rcases r.eq_or_other q with rfl | rfl
      · rcases hw with hw | hw <;> simp [takes,hw,wake_takes]
      · simp [takes]
    | _ => rfl
  | cashier =>
    have hc := cashier_only hs
    have hw := cashier_same hs
    refine ⟨⟨hown,by rw [hc.tourists]; exact h.vip⟩,.owned rfl (fun k _ => cashier_lends hs k) ?_⟩
    intro p hp
    cases p with
    | worker q => simp [takes,hw.worker]
    | cashier => exact absurd rfl hp
    | tourist i => simp [takes,hc.tourists]
  | cashierFail pc =>
    obtain ⟨hpc,rfl⟩ := cashier_fail hs
    refine ⟨⟨hown,h.vip⟩,.unowned rfl rfl ?_⟩
    intro p k _
    cases p with
    | cashier => simp [takes,fail_takes hpc]
    | _ => rfl
  | tourist i x =>
    have ho := tourist_only hs
    have hw := tourist_same hs
    refine ⟨⟨hown,?_⟩,.owned rfl (fun k hk => tourist_lends (h.vip i) hs k (clear_not_lent hk)) ?_⟩
    · intro j
      by_cases hj : j = i
      · subst hj
        exact tourist_vip hs
      · rw [ho.others j hj]
        exact h.vip j
    · intro p hp
      cases p with
      | worker q => simp [takes,hw.worker]
      | cashier => simp [takes,ho.cashier]
      | tourist j =>
        have hj : j ≠ i := by
          rintro rfl
          exact hp rfl
        simp [takes,ho.others j hj]
  | touristCont i =>
    simp only [Ropeway.step] at hs
    split at hs
    · obtain ⟨pc,hpc,rfl⟩ := Option.map_eq_some_iff.mp hs
      exact ⟨⟨hown,walk_vip h.vip (cont_vip hpc)⟩,walk_lends (cont_lends hpc) rfl⟩
    · cases hs
  | touristFail i =>
    obtain ⟨pc,hpc,rfl⟩ := Option.map_eq_some_iff.mp hs
    exact ⟨⟨hown,walk_vip h.vip (failure_vip hpc)⟩,walk_lends (failure_lends hpc) rfl⟩
  | tick ms =>
    simp only [Ropeway.step] at hs
    split at hs
    · cases hs
      exact ⟨⟨hown,h.vip⟩,.unowned rfl rfl (by intro p k _; cases p <;> rfl)⟩
    · cases hs
  | close | shutdown =>
    cases hs
    exact ⟨⟨hown,h.vip⟩,.unowned rfl rfl (by intro p k _; cases p <;> rfl)⟩

/-- The history of each process agrees with its place, and nothing is lost. -/
structure Lending (u : Setup n) (tr : List (Sys n × Act n)) (s : Sys n) : Prop where
  placed : Placed s
  books : ∀ p, ∀ k ∈ .lowerStation :: lent, taken tr p k = takes s p k
  total : ∀ k ∈ .lowerStation :: lent, s.sem k + ∑ p, takes s p k = u.sem k

theorem start_lending (u : Setup n) : Lending u [] u.start := by
  have hzero : ∀ p k, takes u.start p k = 0 := by
    intro p k
    cases p <;> cases k <;> rfl
  refine ⟨⟨fun r => by cases r <;> rfl,fun i hg => by cases hg⟩,?_,?_⟩
  · intro p k _
    rw [hzero]
    rfl
  · intro k _
    rw [Finset.sum_eq_zero fun p _ => hzero p k]
    rfl

theorem taken_snoc (tr : List (Sys n × Act n)) (s : Sys n) (a : Act n) :
    taken (tr ++ [(s,a)]) = noteTaken (taken tr) s a := by
  simp [taken]

theorem Lending.step {a : Act n} (h : Lending u tr s) (hs : step s a = some s') :
    Lending u (tr ++ [(s,a)]) s' := by
  obtain ⟨hplaced,hl⟩ := h.placed.step hs
  have hother : ∀ {p q : Process n}, a.process = some q → p ≠ q → a.process ≠ some p := by
    intro p q hp hpq he
    rw [hp] at he
    exact hpq (Option.some.inj he).symm
  refine ⟨hplaced,?_,?_⟩
  · intro p k hk
    rw [taken_snoc,noteTaken,hs]
    cases hp : a.process with
    | none =>
      show taken tr p k = takes s' p k
      rw [h.books p k hk,hl.others p (by simp [hp]) k hk]
    | some q =>
      by_cases hpq : p = q
      · subst hpq
        have hm := hl.mine p hp k hk
        simp only [Function.update_self,h.books p k hk]
        omega
      · simp only [Function.update_of_ne hpq]
        rw [h.books p k hk,hl.others p (hother hp hpq) k hk]
  · intro k hk
    have ht := h.total k hk
    cases hp : a.process with
    | none =>
      rw [hl.nobody hp k hk,Finset.sum_congr rfl fun p _ => hl.others p (by simp [hp]) k hk]
      exact ht
    | some q =>
      have hm := hl.mine q hp k hk
      have hsum := Lib.sum_update id (fun p => takes s p k) q (takes s' q k)
      have hnew : ∀ p, update (fun p => takes s p k) q (takes s' q k) p = takes s' p k := by
        intro p
        by_cases hpq : p = q
        · subst hpq
          simp
        · simp [hpq,hl.others p (hother hp hpq) k hk]
      simp only [id,hnew] at hsum
      omega

theorem run_lending {rules : List (Env n)} (h : Runs rules u tr s) : Lending u tr s :=
  h.invariant (fun tr s => Lending u tr s) (start_lending u) (fun _ _ _ _ hi _ hs => hi.step hs)

theorem takes_le_one {k : Sem} (hk : k ∈ lent) (p : Process n) : takes s p k ≤ 1 := by
  cases p with
  | worker r => cases k <;> first | exact Nat.zero_le 1 | exact Bool.toNat_le _
  | cashier => cases k <;> cases hp : s.cashier.pc <;> simp [takes,hp,cashierTakes]
  | tourist i =>
    cases k with
    | lowerStation => simp [lent] at hk
    | _ => first | exact Nat.zero_le 1 | exact Bool.toNat_le _

theorem Lending.holders_eq {k : Sem} (h : Lending u tr s) (hk : k ∈ lent) :
    holders tr k = ∑ p, takes s p k := by
  rw [holders,Finset.card_filter]
  apply Finset.sum_congr rfl
  intro p _
  have hb := h.books p k (List.mem_cons_of_mem _ hk)
  have hle := takes_le_one (s := s) hk p
  split <;> omega

def failing (i : Nat) : List (Act n) := if h : i < n then [.touristFail ⟨i, h⟩] else []

/-- Every tourist gives back exactly what it took, on every way out of its ride loop. -/
theorem given_back (h : Runs [] u tr s) : GivenBack u tr s := by
  have hl := run_lending h
  refine ⟨?_,?_,?_,?_⟩
  · intro p k hk
    have hb := hl.books p k (List.mem_cons_of_mem _ hk)
    have hle := takes_le_one (s := s) hk p
    omega
  · intro k hk
    rw [hl.holders_eq hk]
    exact hl.total k (List.mem_cons_of_mem _ hk)
  · rw [sem_create_values u.created]
    rfl
  · intro i hg k hk
    rw [hl.books _ k hk]
    simp only [takes,touristTakes,hg]
    cases k <;> rfl

/-- The wait for the platform gate fails after the station was entered, and the tourist
leaves. -/
theorem given_back_refused : ∃ tr s, Runs [] (sample 2) tr s ∧
    (s.tourists 0).pc = .gone ∧ GivenBack (sample 2) tr s := by
  have hr : reaches [] (sample 2)
      (walks 0 1 ++ List.replicate 7 .cashier ++ walks 0 15 ++ failing 0 ++ walks 0 4)
      (fun _ s => (s.tourists 0).pc == .gone) = true := by decide +kernel
  obtain ⟨tr,s,h,ht⟩ := exists_run hr
  exact ⟨tr,s,h,by simpa using ht,given_back h⟩

end Ropeway
