import Ropeway.Simulation.Effects

/-! What each program of the simulation has left to do once `running` is 0: a number that
every step of the program lowers. -/

namespace Ropeway
open Function (update)

variable {n : Nat} {s s' t : Sys n} {r : Role}

def AckPc.rank : AckPc → Nat
  | .postClear => 4
  | .clear => 5
  | .waitClear => 6
  | .send => 7
  | .receive => 8
  | .postState => 9
  | .setFlag => 10
  | .waitState => 11

def TriggerPc.rank : TriggerPc → Nat
  | .unlock | .kill => 4
  | .postState => 5
  | .setFlag => 6
  | .waitState => 7
  | .stamp => 8
  | .tryWait => 12

def ResumePc.rank : ResumePc → Nat
  | .finish => 4
  | .unlock => 5
  | .releaseTokens _ => 6
  | .releasePost _ => 7
  | .releaseTake => 8
  | .releaseWait => 9
  | .postState => 10
  | .clear => 11
  | .waitState => 12
  | .kill => 13
  | .receive => 14
  | .send => 15

def Site.rank : Site → Nat
  | .shutdown => 0
  | .timeout => 3
  | .noFit => 4
  | .full => 13

def LowerPc.rank : LowerPc → Nat
  | .dispatchSend site _ => site.rank + 1
  | .dispatchWait site => site.rank + 2
  | .requeue | .requeueStop => 4
  | .place => 18
  | .recheckPost => 19
  | .recheckRead => 20
  | .recheckWait => 21
  | .receive => 22
  | .arm => 23
  | .checkPost => 24
  | .checkRead => 25
  | .checkWait => 26

def UpperPc.rank : UpperPc → Nat
  | .release => 14
  | .track => 15
  | .receive => 16

def WorkerPc.rank : WorkerPc → Nat
  | .exited => 0
  | .top => 3
  | .pause => 4
  | .pauseArm => 6
  | .danger => 13
  | .checkInitiator => 27
  | .checkResume => 28
  | .ack p => p.rank
  | .trigger p => p.rank
  | .resume p => p.rank
  | .lower p => p.rank
  | .upper p => p.rank

/-- Falling asleep in `pause()` counts as well. -/
def Worker.rank (w : Worker) : Nat := w.pc.rank + (if w.pc = .pause ∧ w.asleep = false then 1 else 0)

/-- Two for each buffered tourist, less the confirmations that have been sent. -/
def seatsLeft (l : LowerLocals) : WorkerPc → Nat
  | .lower (.dispatchSend _ i) => 2 * l.pending.length - i
  | .exited => 0
  | _ => 2 * l.pending.length

def Sys.workerRank (s : Sys n) (r : Role) : Nat :=
  (s.worker r).rank + match r with
    | .lower => seatsLeft s.lower (s.worker .lower).pc
    | .upper => 0

theorem Worker.rank_of_ne {w : Worker} (h : w.pc ≠ .pause) : w.rank = w.pc.rank := by
  simp [Worker.rank,h]

theorem trigger_rank {p : TriggerPc} (h : workerTriggerEmergencyStop r s p = some s') :
    (s'.worker r).rank < p.rank := by
  cases p with
  | tryWait =>
    simp only [workerTriggerEmergencyStop] at h
    split at h <;> cases h <;> simp [Worker.rank,WorkerPc.rank,TriggerPc.rank,AckPc.rank,Sys.enterAck]
  | waitState =>
    obtain ⟨t,hw,rfl⟩ := Option.map_eq_some_iff.mp h
    simp [Worker.rank,WorkerPc.rank,TriggerPc.rank]
  | _ =>
    cases h
    simp [Worker.rank,WorkerPc.rank,TriggerPc.rank]

theorem ack_rank {p : AckPc} (h : workerAcknowledgeEmergencyStop r s p = some s') :
    (s'.worker r).rank < p.rank := by
  cases p with
  | waitState | waitClear | receive =>
    obtain ⟨t,hw,rfl⟩ := Option.map_eq_some_iff.mp h
    simp [Worker.rank,WorkerPc.rank,AckPc.rank]
  | _ =>
    cases h
    simp [Worker.rank,WorkerPc.rank,AckPc.rank]

theorem resume_rank {p : ResumePc} (h : workerInitiateResume r s p = some s') :
    (s'.worker r).rank < p.rank := by
  cases p with
  | waitState | releaseWait | receive =>
    obtain ⟨t,hw,rfl⟩ := Option.map_eq_some_iff.mp h
    simp [Worker.rank,WorkerPc.rank,ResumePc.rank]
  | _ =>
    cases h
    simp [Worker.rank,WorkerPc.rank,ResumePc.rank]

theorem danger_rank (r : Role) (s : Sys n) (x : Nat) :
    ((checkForDanger r s x).worker r).rank < WorkerPc.danger.rank := by
  simp only [checkForDanger]
  repeat' split
  all_goals simp [Worker.rank,WorkerPc.rank,TriggerPc.rank]

theorem head_rank {p : WorkerPc} (hoff : s.shm.running = false) (h : workerLoopHead r s p = some s') :
    (s'.worker r).rank < p.rank := by
  cases p with
  | top =>
    simp only [workerLoopHead,hoff] at h
    cases r <;> cases h <;> simp [Worker.rank,WorkerPc.rank,LowerPc.rank,Site.rank]
  | checkResume | pauseArm =>
    cases h
    simp [Worker.rank,WorkerPc.rank]
  | checkInitiator =>
    simp only [workerLoopHead] at h
    split at h
    · split at h <;> cases h <;> simp [Worker.rank,WorkerPc.rank,ResumePc.rank]
    · cases r <;> cases h <;> simp [Worker.rank,WorkerPc.rank,LowerPc.rank,UpperPc.rank]
  | _ => cases h

theorem upper_rank {p : UpperPc} (h : upperWorkerMain s p = some s') :
    (s'.worker .upper).rank < p.rank := by
  cases p with
  | receive =>
    obtain ⟨⟨m,q⟩,-,rfl⟩ := Option.map_eq_some_iff.mp h
    simp [Worker.rank,WorkerPc.rank,UpperPc.rank]
  | track =>
    simp only [upperWorkerMain] at h
    repeat' split at h
    all_goals
      cases h
      simp [Worker.rank,WorkerPc.rank,UpperPc.rank]
  | release =>
    cases h
    simp [Worker.rank,WorkerPc.rank,UpperPc.rank]

theorem seats_le (l : LowerLocals) (pc : WorkerPc) : seatsLeft l pc ≤ 2 * l.pending.length := by
  unfold seatsLeft
  split <;> omega

theorem seats_idle {l : LowerLocals} {pc : WorkerPc} (h : atWork pc = false) (hp : 0 < pc.rank) :
    seatsLeft l pc = 2 * l.pending.length := by
  cases pc with
  | exited => simp [WorkerPc.rank] at hp
  | lower | upper => cases h
  | _ => rfl

theorem after_dispatch_rank (s : Sys n) (site : Site) :
    (afterDispatch s site).workerRank .lower ≤ site.rank + 2 * s.lower.pending.length := by
  cases site <;> simp [afterDispatch,Sys.workerRank,Worker.rank,WorkerPc.rank,LowerPc.rank,Site.rank,
    seatsLeft,LowerLocals.newChair]

theorem lower_rank {p : LowerPc} {x : Nat} (h : lowerWorkerMain s x p = some s') :
    s'.workerRank .lower < p.rank + seatsLeft s.lower (.lower p) := by
  cases p with
  | checkWait | recheckWait =>
    obtain ⟨-,rfl⟩ := sem_wait_map h
    simp [Sys.workerRank,Worker.rank,WorkerPc.rank,LowerPc.rank,seatsLeft]
  | receive =>
    obtain ⟨⟨m,q⟩,-,rfl⟩ := Option.map_eq_some_iff.mp h
    simp [Sys.workerRank,Worker.rank,WorkerPc.rank,LowerPc.rank,seatsLeft]
  | checkRead | recheckRead | arm =>
    cases h
    simp [Sys.workerRank,Worker.rank,WorkerPc.rank,LowerPc.rank,seatsLeft]
  | checkPost | recheckPost =>
    simp only [lowerWorkerMain] at h
    split at h
    all_goals
      cases h
      simp [Sys.workerRank,Worker.rank,WorkerPc.rank,LowerPc.rank,AckPc.rank,seatsLeft,Sys.enterAck]
  | requeue | requeueStop =>
    cases h
    simp [Sys.workerRank,Worker.rank,WorkerPc.rank,LowerPc.rank,seatsLeft,requeuePlatform]
  | place =>
    have hlen : s.lower.buffer.pending.length ≤ s.lower.pending.length + 1 := by
      unfold LowerLocals.buffer
      split <;> simp
    simp only [lowerWorkerMain] at h
    repeat' split at h
    all_goals
      cases h
      simp [Sys.workerRank,Worker.rank,WorkerPc.rank,LowerPc.rank,Site.rank,seatsLeft,LowerLocals.newChair]
      try omega
  | dispatchWait site =>
    simp only [lowerWorkerMain] at h
    split at h
    · cases h
      have hle := after_dispatch_rank s site
      simp only [LowerPc.rank,seatsLeft]
      omega
    · obtain ⟨t,hw,rfl⟩ := Option.map_eq_some_iff.mp h
      obtain ⟨-,rfl⟩ := sem_wait_some hw
      simp [Sys.workerRank,Worker.rank,WorkerPc.rank,LowerPc.rank,seatsLeft]
  | dispatchSend site i =>
    simp only [lowerWorkerMain] at h
    split at h
    · rename_i hi
      cases h
      have hlt := (List.getElem?_eq_some_iff.mp hi).1
      simp [Sys.workerRank,Worker.rank,WorkerPc.rank,LowerPc.rank,seatsLeft]
      omega
    · cases h
      have hle := after_dispatch_rank { s with lower := { s.lower with pending := [] } } site
      simp only [LowerPc.rank] at hle ⊢
      simp only [List.length_nil] at hle
      omega

/-- The places outside the own work of a worker. -/
theorem calm_rank (hp : atWork (s.worker r).pc = false) (hc : Calm r s s')
    (hlt : (s'.worker r).rank < (s.worker r).pc.rank) : s'.workerRank r < s.workerRank r := by
  have hle : (s.worker r).pc.rank ≤ (s.worker r).rank := Nat.le_add_right _ _
  cases r with
  | lower =>
    have hs' := seats_le s'.lower (s'.worker .lower).pc
    rw [hc.lower] at hs'
    simp only [Sys.workerRank,seats_idle hp (Nat.zero_lt_of_lt hlt),hc.lower]
    omega
  | upper =>
    simp only [Sys.workerRank]
    omega

theorem other_rank {x : Nat} (hown : ownPc r (s.worker r).pc = true) (h : workerStep s r x = some s') :
    s'.workerRank r.other = s.workerRank r.other := by
  obtain ⟨a,b,hpeer⟩ := worker_peer hown h
  have hrank : (s'.worker r.other).rank = (s.worker r.other).rank := by
    rw [hpeer]
    rfl
  cases r with
  | lower =>
    simp only [Sys.workerRank,Role.other] at hrank ⊢
    rw [hrank]
  | upper =>
    have hpc : (s'.worker Role.upper.other).pc = (s.worker Role.upper.other).pc := by rw [hpeer]
    simp only [Sys.workerRank,Role.other] at hrank hpc ⊢
    rw [hrank,hpc,upper_lower hown h]

/-- Every step of a worker brings it nearer to its end. -/
theorem worker_rank {x : Nat} (hown : ownPc r (s.worker r).pc = true) (hoff : s.shm.running = false)
    (h : workerStep s r x = some s') : s'.workerRank r < s.workerRank r := by
  cases worker_runs h with
  | danger hp hs =>
    subst hs
    exact calm_rank (by simp [hp,atWork]) (danger_calm r s x) (hp ▸ danger_rank r s x)
  | trigger hp hs => exact calm_rank (by simp [hp,atWork]) (trigger_calm hs) (hp ▸ trigger_rank hs)
  | ack hp hs => exact calm_rank (by simp [hp,atWork]) (ack_calm hs) (hp ▸ ack_rank hs)
  | resume hp hs => exact calm_rank (by simp [hp,atWork]) (resume_calm hs) (hp ▸ resume_rank hs)
  | head hp idle hs => exact calm_rank (hp ▸ idle) (head_calm hs) (hp ▸ head_rank hoff hs)
  | lower hp hs =>
    obtain rfl := own_lower hown hp
    have hlt := lower_rank hs
    simpa [Sys.workerRank,hp,Worker.rank,WorkerPc.rank] using hlt
  | upper hp hs =>
    obtain rfl := own_upper hown hp
    have hlt := upper_rank hs
    simpa [Sys.workerRank,hp,Worker.rank,WorkerPc.rank] using hlt

theorem set_rank_other {q : Role} (hq : q ≠ r) (s : Sys n) (k : Worker) (l : LowerLocals)
    (hl : r = .upper → l = s.lower) :
    ({ s with lower := l }.setWorker r k).workerRank q = s.workerRank q := by
  cases r <;> cases q <;> simp [Sys.workerRank] at hq hl ⊢
  rw [hl]

/-- A handler that wakes a worker does not take it back; out of `pause()` it brings it nearer
to its end. -/
theorem wake_rank (s : Sys n) (r : Role) (k : Worker) (hpc : k.pc = wakePc s.lower (s.worker r).pc) :
    (s.setWorker r k).workerRank r + (if (s.worker r).pc = .pause then 1 else 0) ≤ s.workerRank r := by
  have hne : k.pc ≠ .pause := by
    rw [hpc]
    unfold wakePc
    repeat' split
    all_goals simp_all
  have hrank : k.pc.rank + (if (s.worker r).pc = .pause then 1 else 0) ≤ (s.worker r).pc.rank := by
    rw [hpc]
    unfold wakePc
    repeat' split
    all_goals simp_all [WorkerPc.rank,TriggerPc.rank,ResumePc.rank,LowerPc.rank,UpperPc.rank,Site.rank]
  have hseats : seatsLeft s.lower k.pc ≤ seatsLeft s.lower (s.worker r).pc := by
    rw [hpc]
    unfold wakePc
    repeat' split
    all_goals simp_all [seatsLeft]
  have hle : (s.worker r).pc.rank ≤ (s.worker r).rank := Nat.le_add_right _ _
  rw [← Worker.rank_of_ne hne] at hrank
  cases r with
  | lower =>
    simp [Sys.workerRank] at hrank hseats ⊢
    omega
  | upper =>
    simp [Sys.workerRank] at hrank ⊢
    omega

theorem goto_rank {pc : WorkerPc} (hp : atWork (s.worker r).pc = false ∨ r = .upper)
    (hlt : pc.rank + 1 < (s.worker r).pc.rank) : (s.goto r pc).workerRank r < s.workerRank r := by
  have hle : (s.worker r).pc.rank ≤ (s.worker r).rank := Nat.le_add_right _ _
  have hgoto : ((s.goto r pc).worker r).rank ≤ pc.rank + 1 := by
    simp only [Sys.goto_worker,Function.update_self,Worker.rank]
    split <;> omega
  cases r with
  | lower =>
    rcases hp with hp | hp
    · have hs := seats_le (s.goto .lower pc).lower ((s.goto .lower pc).worker .lower).pc
      simp only [Sys.goto_lower] at hs
      simp only [Sys.workerRank,seats_idle hp (Nat.zero_lt_of_lt hlt),Sys.goto_lower]
      omega
    · cases hp
  | upper =>
    simp only [Sys.workerRank]
    omega

theorem lower_failure_rank {p : LowerPc} {x : Errno} (h : lowerFailure s x p = some s') :
    s'.workerRank .lower < p.rank + seatsLeft s.lower (.lower p) := by
  cases p <;> simp only [lowerFailure,reduceCtorEq] at h
  case dispatchWait site =>
    cases h
    have hle := after_dispatch_rank s site
    simp only [LowerPc.rank,seatsLeft]
    omega
  case dispatchSend site i =>
    cases h
    have hle := after_dispatch_rank { s with lower := { s.lower with pending := [] } } site
    simp only [LowerPc.rank] at hle ⊢
    simp only [List.length_nil] at hle
    omega
  all_goals
    cases x <;> cases h <;>
      simp [Sys.workerRank,Worker.rank,WorkerPc.rank,LowerPc.rank,Site.rank,seatsLeft]

/-- A failing call brings a worker nearer to its end as well. -/
theorem failure_rank {x : Errno} (hown : ownPc r (s.worker r).pc = true)
    (h : workerFailure s r x = some s') : s'.workerRank r < s.workerRank r := by
  unfold workerFailure at h
  split at h
  case h_11 p hp =>
    obtain rfl := own_lower hown hp
    have hlt := lower_failure_rank h
    simpa [Sys.workerRank,hp,Worker.rank,WorkerPc.rank] using hlt
  case h_12 hp =>
    obtain rfl := own_upper hown hp
    cases x <;> cases h <;> exact goto_rank (.inr rfl) (by simp [hp,WorkerPc.rank,UpperPc.rank])
  case h_13 => cases h
  case h_1 hp =>
    cases h
    exact calm_rank (by simp [hp,atWork]) (Calm.refl r s).enterAck
      (by simp [hp,Sys.enterAck,Worker.rank,WorkerPc.rank,TriggerPc.rank,AckPc.rank])
  all_goals
    rename_i hp
    cases h
    exact goto_rank (.inl (by simp [hp,atWork]))
      (by simp [hp,WorkerPc.rank,TriggerPc.rank,AckPc.rank,ResumePc.rank])

theorem leave_rank (hp : (s.worker r).pc = .top) : (leaveLoop s r).workerRank r < s.workerRank r := by
  cases r <;> simp [leaveLoop,Sys.workerRank,hp,Worker.rank,WorkerPc.rank,LowerPc.rank,Site.rank,seatsLeft]

def CashierPc.rank : CashierPc → Nat
  | .exited => 0
  | .top => 1
  | .send | .refuse => 2
  | .statsPost => 3
  | .stats => 4
  | .statsWait => 5
  | .recheck => 6
  | .receive => 7

def TouristPc.rank : TouristPc → Nat
  | .gone => 0
  | .loopTop | .descend | .leaveStation | .failGate | .failStation | .failPlatform => 1
  | .rideDone | .exitPost | .leavePost | .failGateStation | .recordPost => 2
  | .updatePost | .arriveSend | .leaveSub | .recordEntry => 3
  | .updateStats | .exitWait | .leaveWait | .recordWait => 4
  | .updateWait | .ride | .buyReceive => 5
  | .platformPost | .buySend => 6
  | .boardReceive => 7
  | .boardSend => 8
  | .clearSleep => 9
  | .clearPost => 10
  | .clearRead => 11
  | .clearWait => 12
  | .boardPost => 13
  | .boardRead => 14
  | .boardWait => 15
  | .departStation => 16
  | .departPost => 17
  | .departSub => 18
  | .departWait => 19
  | .platformWait => 20
  | .scaredCheck => 21
  | .gatePost => 22
  | .countPost => 23
  | .countAdd => 24
  | .countWait => 25
  | .stationWait => 26
  | .gateWait => 27
  | .closingPost => 28
  | .closingRead => 29
  | .closingWait => 30

theorem cashier_rank (hoff : s.shm.running = false) (h : cashierMain s = some s') :
    s'.cashier.pc.rank < s.cashier.pc.rank := by
  unfold cashierMain at h
  split at h <;> rename_i hp <;> rw [hp]
  case h_1 =>
    rw [hoff] at h
    cases h
    simp [CashierPc.rank]
  case h_2 | h_4 =>
    obtain ⟨t,-,rfl⟩ := Option.map_eq_some_iff.mp h
    simp [CashierPc.rank]
  case h_3 =>
    split at h <;> cases h <;> simp [CashierPc.rank]
  case h_5 | h_6 =>
    cases h
    simp [CashierPc.rank]
  case h_7 | h_8 =>
    obtain ⟨t,-,rfl⟩ := Option.map_eq_some_iff.mp h
    simp [CashierPc.rank]
  case h_9 => cases h

theorem cashier_fail_rank {pc : CashierPc} (h : pc ∈ cashierFailures s.cashier.pc) :
    pc.rank < s.cashier.pc.rank := by
  cases hp : s.cashier.pc <;> simp only [hp,cashierFailures,List.mem_cons,List.not_mem_nil,or_false] at h
  case receive | send | refuse => rcases h with rfl | rfl <;> decide
  all_goals
    subst h
    decide

theorem tourist_rank {i : Fin n} {x : Nat} (hoff : s.shm.running = false) (h : touristMain s i x = some s') :
    (s'.tourists i).pc.rank < (s.tourists i).pc.rank := by
  cases hp : (s.tourists i).pc <;> simp only [touristMain,hp,hoff,reduceCtorEq] at h
  case buyReceive =>
    obtain ⟨⟨m,q⟩,-,rfl⟩ := Option.map_eq_some_iff.mp h
    cases m.ticketType <;> simp [TouristPc.rank]
  case buySend | recordWait | closingWait | gateWait | stationWait | countWait | leaveWait | platformWait |
      departWait | boardWait | clearWait | clearSleep | boardReceive | exitWait | updateWait =>
    obtain ⟨t,-,rfl⟩ := Option.map_eq_some_iff.mp h
    simp [TouristPc.rank]
  case closingPost | countPost | scaredCheck | boardPost | clearPost | ride | rideDone =>
    cases h
    simp only [Sys.walk_tourists,Function.update_self]
    repeat' split
    all_goals decide
  all_goals
    cases h
    simp [TouristPc.rank]

theorem tourist_fail_rank {d : TouristData} {p q : TouristPc} (h : touristFailure d p = some q) :
    q.rank < p.rank := by
  cases p <;> simp only [touristFailure,reduceCtorEq,Option.some.injEq] at h
  case stationWait | countWait => split at h <;> subst h <;> decide
  all_goals
    subst h
    decide

theorem tourist_cont_rank {p q : TouristPc} (h : touristInterrupted p = some q) : q.rank < p.rank := by
  cases p <;> simp only [touristInterrupted,reduceCtorEq,Option.some.injEq] at h
  all_goals
    subst h
    decide

def SpawnerPc.rank : SpawnerPc → Nat
  | .returned => 0
  | .wait => 1
  | .load => 2
  | .join => 3
  | .kill => 8
  | .clear => 9
  | .stopTest => 10
  | .top => 11
  | .sleep => 12
  | .create | .count => 13
  | .fork => 21
  | .closing => 22

def ReaperPc.rank : ReaperPc → Nat
  | .absent | .sigwait | .done => 0
  | .test => 1
  | .waitpid => 2
  | .check | .sub => 3

/-- A pending signal stands for one more round of the reaper thread. -/
def Generator.rank (g : Generator) : Nat :=
  g.spawner.rank + g.reaper.rank + 4 * g.children.sigchld.toNat + 4 * g.wakeup.toNat +
    2 * g.children.zombies.length + 7 * g.children.living.length

variable {g g' : Generator}

theorem spawn_rank {x : Finding} (hoff : x.running = false) (ha : g.spawner = .create → g.reaper = .absent)
    (h : g.spawn n x = some g') : g'.rank < g.rank := by
  cases hp : g.spawner <;> simp only [Generator.spawn,hp,hoff,reduceCtorEq] at h
  case wait =>
    split at h
    · cases h
      simp [Generator.rank,hp,SpawnerPc.rank]
    · obtain ⟨c,hc,rfl⟩ := Option.map_eq_some_iff.mp h
      have hlen := Lib.Children.reap_count hc
      obtain ⟨-,rfl⟩ := Lib.Children.reap_some hc
      simp only [Generator.rank,hp] at hlen ⊢
      omega
  case create =>
    split at h <;> cases h <;> simp [Generator.rank,hp,ha hp,SpawnerPc.rank,ReaperPc.rank]
  case fork =>
    split at h <;> cases h <;> simp [Generator.rank,hp,SpawnerPc.rank,Lib.Children.fork]
    omega
  case kill =>
    cases h
    have hbit := Bool.toNat_le g.wakeup
    simp only [Generator.rank,hp,SpawnerPc.rank,Bool.toNat_true]
    omega
  case top =>
    rw [if_neg (by simp)] at h
    cases h
    simp [Generator.rank,hp,SpawnerPc.rank]
  case stopTest =>
    cases h
    cases hr : g.reaperRunning <;> simp [Generator.rank,hp,SpawnerPc.rank]
  all_goals
    try split at h
    all_goals
      cases h
      try simp [Generator.rank,hp,SpawnerPc.rank]

theorem reap_rank {own : Bool} {pid : Nat} (h : g.reap own pid = some g') : g'.rank < g.rank := by
  cases hp : g.reaper <;> simp only [Generator.reap,hp,reduceCtorEq] at h
  case waitpid =>
    split at h
    · cases h
      simp [Generator.rank,hp,ReaperPc.rank]
    · obtain ⟨c,hc,rfl⟩ := Option.map_eq_some_iff.mp h
      have hlen := Lib.Children.reap_count hc
      obtain ⟨-,rfl⟩ := Lib.Children.reap_some hc
      simp only [Generator.rank,hp,ReaperPc.rank] at hlen ⊢
      omega
  case sigwait =>
    split at h
    · split at h
      · rename_i hw
        cases h
        simp only [Generator.rank,hp,hw,ReaperPc.rank,Bool.toNat_true,Bool.toNat_false]
        omega
      · cases h
    · split at h
      · rename_i hw
        cases h
        simp only [Generator.rank,hp,hw,ReaperPc.rank,Lib.Children.hear,Bool.toNat_true,Bool.toNat_false]
        omega
      · cases h
  case test | check =>
    cases h
    cases hr : g.reaperRunning <;> simp [Generator.rank,hp,ReaperPc.rank]
  case sub =>
    cases h
    simp [Generator.rank,hp,ReaperPc.rank]

theorem exit_rank {pid : Nat} {c : Lib.Children Nat} (h : g.children.exit pid = some c) :
    Generator.rank { g with children := c } < g.rank := by
  have hlen := Lib.Children.exit_count h
  obtain ⟨-,rfl⟩ := Lib.Children.exit_some h
  have hbit := Bool.toNat_le g.children.sigchld
  simp only [Generator.rank,Bool.toNat_true] at hlen ⊢
  omega

def TimePc.rank : TimePc → Nat
  | .exited => 0
  | .top => 1
  | .pause | .firstUpdate => 2
  | .update => 3

end Ropeway
