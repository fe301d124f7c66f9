import Ropeway.Frames.Visitors
import Ropeway.Lib.Waiters

/-! `ipc_wait_emergency_clear` and `ipc_release_emergency_waiters`: the tourists an
emergency keeps from boarding, and the tokens that let them go on. -/

namespace Ropeway
open Function (update)
open Lib (Stage Pool Book headcount)
variable {n : Nat} {s s' : Sys n} {a : Act n} {u : Setup n} {tr : List (Sys n × Act n)}

/-- Counted in `emergency_waiters` and still inside `ipc_wait_emergency_clear`. -/
def Tourist.registered (t : Tourist) : Bool :=
  match t.pc with
  | .clearPost => t.emergency
  | .clearSleep => true
  | _ => false

/-- Where a worker is in `ipc_release_emergency_waiters`, and right after it before the
post of `SEM_EMERGENCY_LOCK`. -/
def releaseStage : WorkerPc → Stage
  | .resume .releaseWait | .resume .releaseTake => .called
  | .resume (.releasePost k) | .resume (.releaseTokens k) => .counted k
  | .resume .unlock => .released
  | _ => .away

def pool (s : Sys n) : Pool (Fin n) Role where
  tokens := s.sem .emergencyClear
  waiters := s.shm.emergencyWaiters
  stage := fun r => releaseStage (s.worker r).pc
  registered := fun i => (s.tourists i).registered

def poolEvent (s : Sys n) : Act n → Lib.Event (Fin n) Role
  | .tourist i _ =>
    match (s.tourists i).pc with
    | .clearRead => if s.shm.emergencyStop then .register i else .idle
    | .clearSleep => .wake i
    | _ => .idle
  | .touristCont i | .touristFail i =>
    if (s.tourists i).pc = .clearSleep then .giveUp i else .idle
  | .worker r _ =>
    match (s.worker r).pc with
    | .resume .postState => .call r
    | .resume .releaseTake => .take r
    | .resume (.releaseTokens _) => .post r
    | .resume .unlock => .finish r
    | _ => .idle
  | .deliver r _ =>
    if (s.worker r).asleep && (s.worker r).pc == .resume .releaseWait then .skip r else .idle
  | _ => .idle

def releases (tr : List (Sys n × Act n)) : Book (Fin n) Role :=
  Lib.history (fun b s a => b.next (pool s) (poolEvent s a)) .empty tr

/-- The emergency waiters are accounted for: outside the release every registered tourist
has a token or a place in the counter, and when a resume posts `SEM_EMERGENCY_LOCK` there
is a token for each tourist that registered before its release and has not returned. -/
structure WaitersAccounted (tr : List (Sys n × Act n)) (s : Sys n) : Prop where
  balance : (∀ r, releaseStage (s.worker r).pc = .away ∨ releaseStage (s.worker r).pc = .released) →
    s.sem .emergencyClear + s.shm.emergencyWaiters = headcount (fun i => (s.tourists i).registered)
  tokens : ∀ r, (s.worker r).pc = .resume .unlock →
    headcount ((releases tr).early r) ≤ s.sem .emergencyClear

/-- A worker moves on; the pool sees at most a new stage. -/
theorem pool_worker {r : Role} {c k : Nat} {q : Stage} (ht : s'.tourists = s.tourists)
    (ho : (s'.worker r.other).pc = (s.worker r.other).pc) (hc : s'.sem .emergencyClear = c)
    (hk : s'.shm.emergencyWaiters = k) (hq : releaseStage (s'.worker r).pc = q) :
    pool s' = { pool s with tokens := c, waiters := k, stage := update (pool s).stage r q } := by
  have hstage : (fun p => releaseStage (s'.worker p).pc) = update (pool s).stage r q := by
    funext p
    by_cases hp : p = r
    · subst hp
      rw [Function.update_self]
      exact hq
    · rw [Function.update_of_ne hp]
      have hother : p = r.other := (r.eq_or_other p).resolve_left hp
      rw [hother]
      exact congrArg releaseStage ho
  simp only [pool] at hstage ⊢
  rw [hstage,hc,hk,ht]

structure Away (r : Role) (s s' : Sys n) : Prop where
  tokens : s'.sem .emergencyClear = s.sem .emergencyClear
  waiters : s'.shm.emergencyWaiters = s.shm.emergencyWaiters
  stage : releaseStage (s'.worker r).pc = .away

theorem lower_away {p : LowerPc} {x : Nat} (h : lowerWorkerMain s x p = some s') :
    releaseStage (s'.worker .lower).pc = .away := by
  cases p with
  | checkWait | recheckWait | receive =>
    obtain ⟨t,-,rfl⟩ := Option.map_eq_some_iff.mp h
    simp [releaseStage]
  | checkPost | recheckPost | place =>
    simp only [lowerWorkerMain] at h
    repeat' split at h
    all_goals
      cases h
      simp [releaseStage,Sys.enterAck]
  | dispatchWait site =>
    simp only [lowerWorkerMain] at h
    split at h
    · cases h
      cases site <;> simp [afterDispatch,releaseStage]
    · obtain ⟨t,-,rfl⟩ := Option.map_eq_some_iff.mp h
      simp [releaseStage]
  | dispatchSend site i =>
    simp only [lowerWorkerMain] at h
    split at h
    · cases h
      simp [releaseStage]
    · cases h
      cases site <;> simp [afterDispatch,releaseStage]
  | _ =>
    cases h
    simp [releaseStage,requeuePlatform]

theorem upper_away {p : UpperPc} (h : upperWorkerMain s p = some s') :
    releaseStage (s'.worker .upper).pc = .away := by
  cases p with
  | receive =>
    obtain ⟨⟨m,q⟩,-,rfl⟩ := Option.map_eq_some_iff.mp h
    simp [releaseStage]
  | track =>
    simp only [upperWorkerMain] at h
    repeat' split at h
    all_goals
      cases h
      simp [releaseStage]
  | release =>
    cases h
    simp [releaseStage]

theorem trigger_away {r : Role} {p : TriggerPc} (h : workerTriggerEmergencyStop r s p = some s') :
    Away r s s' := by
  cases p with
  | tryWait =>
    simp only [workerTriggerEmergencyStop] at h
    split at h
    · cases h
      exact ⟨rfl,rfl,by simp [releaseStage,Sys.enterAck]⟩
    · rename_i hw
      cases h
      obtain ⟨-,rfl⟩ := sem_wait_some hw
      exact ⟨by simp,rfl,by simp [releaseStage]⟩
  | waitState =>
    obtain ⟨-,rfl⟩ := sem_wait_map h
    exact ⟨by simp,rfl,by simp [releaseStage]⟩
  | _ =>
    cases h
    exact ⟨by simp,rfl,by simp [releaseStage]⟩

theorem ack_away {r : Role} {p : AckPc} (h : workerAcknowledgeEmergencyStop r s p = some s') :
    Away r s s' := by
  cases p with
  | waitState | waitClear =>
    obtain ⟨-,rfl⟩ := sem_wait_map h
    exact ⟨by simp,rfl,by simp [releaseStage]⟩
  | receive =>
    obtain ⟨⟨m,q⟩,-,rfl⟩ := Option.map_eq_some_iff.mp h
    exact ⟨rfl,rfl,by simp [releaseStage]⟩
  | _ =>
    cases h
    exact ⟨by simp,rfl,by simp [releaseStage]⟩

theorem head_away {r : Role} {p : WorkerPc} (h : workerLoopHead r s p = some s') : Away r s s' := by
  cases p with
  | top | checkInitiator =>
    simp only [workerLoopHead] at h
    repeat' split at h
    all_goals
      cases h
      exact ⟨rfl,rfl,by simp [releaseStage,Sys.enterAck]⟩
  | checkResume | pauseArm =>
    cases h
    exact ⟨rfl,rfl,by simp [releaseStage]⟩
  | _ => cases h

theorem worker_away {r : Role} {x : Nat} (hown : ownPc r (s.worker r).pc = true)
    (hp : ∀ p, (s.worker r).pc ≠ .resume p) (h : workerStep s r x = some s') : Away r s s' := by
  cases worker_runs h with
  | danger hpc hs =>
    rw [hs]
    simp only [checkForDanger]
    repeat' split
    all_goals exact ⟨rfl,rfl,by simp [releaseStage]⟩
  | trigger hpc hs => exact trigger_away hs
  | ack hpc hs => exact ack_away hs
  | @resume p hpc hs => exact absurd hpc (hp p)
  | lower hpc hs =>
    obtain rfl := own_lower hown hpc
    have ho := lower_only hs
    exact ⟨ho.sem _ (by decide) (by decide),by rw [ho.shm],lower_away hs⟩
  | upper hpc hs =>
    obtain rfl := own_upper hown hpc
    have ho := upper_only hs
    exact ⟨ho.sem _ (by decide),by rw [ho.shm],upper_away hs⟩
  | head hpc idle hs => exact head_away hs

def PoolStep (s : Sys n) (a : Act n) (s' : Sys n) : Prop :=
  pool s' = (pool s).next (poolEvent s a) ∧ (pool s).Enabled (poolEvent s a)

theorem PoolStep.idle (he : poolEvent s a = .idle) (h : pool s' = pool s) : PoolStep s a s' := by
  unfold PoolStep
  rw [he]
  exact ⟨h,trivial⟩

/-- A worker goes on within one stage. -/
theorem pool_still {r : Role} (ht : s'.tourists = s.tourists)
    (ho : (s'.worker r.other).pc = (s.worker r.other).pc)
    (hc : s'.sem .emergencyClear = s.sem .emergencyClear)
    (hk : s'.shm.emergencyWaiters = s.shm.emergencyWaiters)
    (hq : releaseStage (s'.worker r).pc = releaseStage (s.worker r).pc) : pool s' = pool s := by
  rw [pool_worker ht ho hc hk hq]
  simp only [pool,Function.update_eq_self]

theorem resume_pool {r : Role} {p : ResumePc} (hp : (s.worker r).pc = .resume p) (x : Nat)
    (h : workerInitiateResume r s p = some s') : PoolStep s (.worker r x) s' := by
  have hcalm := resume_calm h
  have ho : (s'.worker r.other).pc = (s.worker r.other).pc := by
    obtain ⟨a,b,hpeer⟩ := hcalm.peer
    rw [hpeer]
  have ht := hcalm.tourists
  have hstage : (pool s).stage r = releaseStage (.resume p) := congrArg releaseStage hp
  cases p with
  | send | kill | clear | finish | releasePost =>
    cases h
    refine .idle (by simp [poolEvent,hp]) (pool_still ht ho (by simp) rfl ?_)
    simp [releaseStage,hp]
  | receive =>
    obtain ⟨⟨m,q⟩,-,rfl⟩ := Option.map_eq_some_iff.mp h
    refine .idle (by simp [poolEvent,hp]) (pool_still ht ho (by simp) rfl ?_)
    simp [releaseStage,hp]
  | waitState | releaseWait =>
    obtain ⟨-,rfl⟩ := sem_wait_map h
    refine .idle (by simp [poolEvent,hp]) (pool_still ht ho (by simp) rfl ?_)
    simp [releaseStage,hp]
  | postState =>
    have he : poolEvent s (.worker r x) = .call r := by simp only [poolEvent,hp]
    cases h
    unfold PoolStep
    rw [he]
    exact ⟨pool_worker ht ho (by simp; rfl) rfl (by simp [releaseStage]),hstage⟩
  | releaseTake =>
    have he : poolEvent s (.worker r x) = .take r := by simp only [poolEvent,hp]
    cases h
    unfold PoolStep
    rw [he]
    exact ⟨pool_worker ht ho (by simp; rfl) rfl (by simp [releaseStage]; rfl),hstage⟩
  | releaseTokens k =>
    have he : poolEvent s (.worker r x) = .post r := by simp only [poolEvent,hp]
    cases h
    unfold PoolStep
    rw [he]
    refine ⟨pool_worker ht ho ?_ rfl (by simp [releaseStage]),?_⟩
    · simp only [hstage]
      simp
      rfl
    · show ((pool s).stage r).past = true
      rw [hstage]
      rfl
  | unlock =>
    have he : poolEvent s (.worker r x) = .finish r := by simp only [poolEvent,hp]
    cases h
    unfold PoolStep
    rw [he]
    exact ⟨pool_worker ht ho (by simp; rfl) rfl (by simp [releaseStage]),hstage⟩

theorem worker_pool {r : Role} {x : Nat} (hown : ownPc r (s.worker r).pc = true)
    (h : workerStep s r x = some s') : PoolStep s (.worker r x) s' := by
  by_cases hp : ∃ p, (s.worker r).pc = .resume p
  · obtain ⟨p,hp⟩ := hp
    simp only [workerStep,hp] at h
    exact resume_pool hp x h
  · have hne : ∀ p, (s.worker r).pc ≠ .resume p := fun p he => hp ⟨p,he⟩
    have haway := worker_away hown hne h
    have ho : (s'.worker r.other).pc = (s.worker r.other).pc := by
      obtain ⟨a,b,hpeer⟩ := worker_peer hown h
      rw [hpeer]
    have hstage : releaseStage (s.worker r).pc = .away := by
      cases hpc : (s.worker r).pc <;> first | rfl | exact absurd hpc (hne _)
    refine .idle ?_ (pool_still (worker_visitors h).tourists ho haway.tokens haway.waiters
      (haway.stage.trans hstage.symm))
    cases hpc : (s.worker r).pc <;> simp only [poolEvent,hpc]
    exact absurd hpc (hne _)

/-- A tourist moves on; the pool sees the tokens, the counter and whether it is registered. -/
theorem pool_tourist {i : Fin n} {c k : Nat} {b : Bool} (hw : s'.worker = s.worker)
    (ho : ∀ j, j ≠ i → s'.tourists j = s.tourists j) (hc : s'.sem .emergencyClear = c)
    (hk : s'.shm.emergencyWaiters = k) (hb : (s'.tourists i).registered = b) :
    pool s' =
      { pool s with tokens := c, waiters := k, registered := update (pool s).registered i b } := by
  have hreg : (fun j => (s'.tourists j).registered) = update (pool s).registered i b := by
    funext j
    by_cases hj : j = i
    · subst hj
      rw [Function.update_self]
      exact hb
    · rw [Function.update_of_ne hj]
      exact congrArg Tourist.registered (ho j hj)
  simp only [pool] at hreg ⊢
  rw [hreg,hc,hk,hw]

theorem pool_walk {i : Fin n} (hw : s'.worker = s.worker)
    (ho : ∀ j, j ≠ i → s'.tourists j = s.tourists j)
    (hc : s'.sem .emergencyClear = s.sem .emergencyClear)
    (hk : s'.shm.emergencyWaiters = s.shm.emergencyWaiters)
    (hb : (s'.tourists i).registered = (s.tourists i).registered) : pool s' = pool s := by
  rw [pool_tourist hw ho hc hk hb]
  simp only [pool,Function.update_eq_self]

theorem tourist_pool {i : Fin n} {x : Nat} (h : touristMain s i x = some s') :
    PoolStep s (.tourist i x) s' := by
  have hw := (tourist_same h).worker
  have ho := (tourist_only h).others
  cases hp : (s.tourists i).pc <;> simp only [touristMain,hp] at h
  case gone => cases h
  case clearRead =>
    have hout : (s.tourists i).registered = false := by simp [Tourist.registered,hp]
    unfold PoolStep
    by_cases hstop : s.shm.emergencyStop = true
    · have he : poolEvent s (.tourist i x) = .register i := by simp only [poolEvent,hp,if_pos hstop]
      rw [he]
      simp only [if_pos hstop] at h
      cases h
      exact ⟨pool_tourist hw ho rfl rfl (by simp [Tourist.registered,hstop]),hout⟩
    · have he : poolEvent s (.tourist i x) = .idle := by simp only [poolEvent,hp,if_neg hstop]
      rw [he]
      simp only [if_neg hstop] at h
      cases h
      refine ⟨pool_walk hw ho rfl rfl ?_,trivial⟩
      simp [Tourist.registered,hp,hstop]
  case clearSleep =>
    have hin : (s.tourists i).registered = true := by simp [Tourist.registered,hp]
    have he : poolEvent s (.tourist i x) = .wake i := by simp only [poolEvent,hp]
    obtain ⟨hle,rfl⟩ := sem_wait_map h
    unfold PoolStep
    rw [he]
    exact ⟨pool_tourist hw ho (by simp; rfl) rfl (by simp [Tourist.registered]),hin,hle⟩
  case clearPost =>
    cases h
    refine .idle (by simp only [poolEvent,hp]) (pool_walk hw ho (by simp) rfl ?_)
    cases hem : (s.tourists i).emergency <;> simp [Tourist.registered,hp,hem]
  case buySend =>
    obtain ⟨-,rfl⟩ := send_cashier_map h
    refine .idle (by simp only [poolEvent,hp]) (pool_walk hw ho rfl rfl ?_)
    simp [Tourist.registered,hp]
  case buyReceive =>
    obtain ⟨⟨m,q⟩,-,rfl⟩ := Option.map_eq_some_iff.mp h
    refine .idle (by simp only [poolEvent,hp]) (pool_walk hw ho ?_ ?_ ?_)
    all_goals
      dsimp only
      split <;> simp [Tourist.registered,hp]
  case boardReceive =>
    obtain ⟨⟨m,q⟩,-,rfl⟩ := Option.map_eq_some_iff.mp h
    refine .idle (by simp only [poolEvent,hp]) (pool_walk hw ho rfl rfl ?_)
    simp [Tourist.registered,hp]
  case recordWait | closingWait | gateWait | stationWait | countWait | leaveWait | platformWait |
      departWait | boardWait | clearWait | exitWait | updateWait =>
    obtain ⟨-,rfl⟩ := sem_wait_map h
    refine .idle (by simp only [poolEvent,hp]) (pool_walk hw ho (by simp) rfl ?_)
    simp [Tourist.registered,hp]
  case recordEntry =>
    cases h
    refine .idle (by simp only [poolEvent,hp]) (pool_walk hw ho rfl ?_ ?_)
    · simp only [Sys.walk_shm,SharedState.recordEntry]
      split <;> rfl
    · simp [Tourist.registered,hp]
  case loopTop | descend =>
    repeat' split at h
    all_goals
      cases h
      refine .idle (by simp only [poolEvent,hp]) (pool_walk hw ho rfl rfl ?_)
      simp [Tourist.registered,hp]
  all_goals
    cases h
    refine .idle (by simp only [poolEvent,hp]) (pool_walk hw ho (by simp) rfl ?_)
    simp only [Sys.walk_tourists,Sys.setTourist_tourists,Function.update_self]
    repeat' split
    all_goals simp [Tourist.registered,hp]

/-- A tourist whose call fails has not taken a token. -/
theorem walk_pool {i : Fin n} {pc : TouristPc} (h1 : pc ≠ .clearPost) (h2 : pc ≠ .clearSleep)
    (hp : (s.tourists i).pc ≠ .clearPost)
    (he : poolEvent s a = if (s.tourists i).pc = .clearSleep then .giveUp i else .idle) :
    PoolStep s a (s.walk i pc) := by
  have hout : ((s.walk i pc).tourists i).registered = false := by
    simp only [Sys.walk_tourists,Function.update_self]
    cases pc <;> first | rfl | contradiction
  have ho : ∀ j, j ≠ i → (s.walk i pc).tourists j = s.tourists j := by
    intro j hj
    simp [hj]
  by_cases hsleep : (s.tourists i).pc = .clearSleep
  · have hin : (s.tourists i).registered = true := by simp [Tourist.registered,hsleep]
    unfold PoolStep
    rw [he,if_pos hsleep]
    exact ⟨pool_tourist rfl ho rfl rfl hout,hin⟩
  · rw [if_neg hsleep] at he
    refine .idle he (pool_walk rfl ho rfl rfl (hout.trans ?_))
    unfold Tourist.registered
    split
    · exact absurd ‹_› hp
    · exact absurd ‹_› hsleep
    · rfl

/-- A signal ends the wait at the start of a release, and no other stage. -/
theorem wake_stage {l : LowerLocals} {pc : WorkerPc} (h : pc ≠ .resume .releaseWait) :
    releaseStage (wakePc l pc) = releaseStage pc := by
  unfold wakePc
  split
  case h_2 => exact absurd rfl h
  all_goals repeat' split
  all_goals rfl

theorem deliver_pool {r : Role} {sig : Signal} (hown : ownPc r (s.worker r).pc = true)
    (h : deliverSignal s r sig = some s') : PoolStep s (.deliver r sig) s' := by
  obtain ⟨w,hw,hs⟩ := deliver_eq hown h
  have hpc := (handler_frame hw).1
  by_cases hskip : (s.worker r).asleep = true ∧ (s.worker r).pc = .resume .releaseWait
  · have he : poolEvent s (.deliver r sig) = .skip r := by simp [poolEvent,hskip.1,hskip.2]
    have hwake : wakes (s.worker r) sig = true := by simp [wakes,hskip.1,hskip.2,inSemop]
    rcases hs with ⟨hno,-⟩ | ⟨-,al,rfl⟩
    · rw [hwake] at hno
      cases hno
    · unfold PoolStep
      rw [he]
      refine ⟨pool_worker rfl (by simp) rfl rfl ?_,congrArg releaseStage hskip.2⟩
      simp [hskip.2,wakePc,releaseStage]
  · have he : poolEvent s (.deliver r sig) = .idle := by
      simp only [poolEvent,Bool.and_eq_true,beq_iff_eq,if_neg hskip]
    rcases hs with ⟨-,rfl⟩ | ⟨hwake,al,rfl⟩
    · exact .idle he (pool_still (r := r) rfl (by simp) rfl rfl (by simp [hpc]))
    · refine .idle he (pool_still (r := r) rfl (by simp) rfl rfl ?_)
      simp only [Sys.setWorker_worker,Function.update_self]
      exact wake_stage fun hp => hskip ⟨wakes_asleep hwake,hp⟩

/-- A failing call leaves `ipc_wait_emergency_clear` if it was in it. -/
theorem failure_away {d : TouristData} {pc pc' : TouristPc} (h : touristFailure d pc = some pc') :
    pc' ≠ .clearPost ∧ pc' ≠ .clearSleep ∧ pc ≠ .clearPost := by
  cases pc <;> simp only [touristFailure,reduceCtorEq,Option.some.injEq] at h
  all_goals
    subst h
    repeat' split
    all_goals simp

theorem cont_away {pc pc' : TouristPc} (h : touristInterrupted pc = some pc') :
    pc' ≠ .clearPost ∧ pc' ≠ .clearSleep ∧ pc ≠ .clearPost := by
  cases pc <;> cases h <;> simp

theorem cashier_pool (h : cashierMain s = some s') : pool s' = pool s := by
  cases hp : s.cashier.pc <;> simp only [cashierMain,hp] at h
  case top | recheck =>
    repeat' split at h
    all_goals
      cases h
      rfl
  case receive =>
    obtain ⟨⟨m,q⟩,-,rfl⟩ := Option.map_eq_some_iff.mp h
    rfl
  case statsWait =>
    obtain ⟨-,rfl⟩ := sem_wait_map h
    simp [pool]
  case stats =>
    cases h
    rfl
  case statsPost =>
    cases h
    simp [pool]
  case send | refuse =>
    obtain ⟨-,rfl⟩ := send_cashier_map h
    rfl
  case exited => cases h

theorem step_pool (hown : ∀ r, ownPc r (s.worker r).pc = true) (h : step s a = some s') :
    PoolStep s a s' := by
  cases a with
  | worker r x => exact worker_pool (hown r) h
  | tourist i x => exact tourist_pool h
  | deliver r sig => exact deliver_pool (hown r) h
  | sleep r =>
    simp only [step] at h
    split at h
    · cases h
      exact .idle rfl (pool_still (r := r) rfl (by simp) rfl rfl (by simp))
    · cases h
  | kill r sig =>
    obtain ⟨w,hw,rfl⟩ := Option.map_eq_some_iff.mp h
    have hpc : w.pc = (s.worker r).pc := by cases sig <;> cases hw <;> rfl
    exact .idle rfl (pool_still (r := r) rfl (by simp) rfl rfl (by simp [hpc]))
  | cashier => exact .idle rfl (cashier_pool h)
  | cashierFail pc =>
    obtain ⟨-,rfl⟩ := cashier_fail h
    exact .idle rfl rfl
  | touristCont i =>
    simp only [step] at h
    split at h
    · obtain ⟨pc,hpc,rfl⟩ := Option.map_eq_some_iff.mp h
      obtain ⟨h1,h2,h3⟩ := cont_away hpc
      exact walk_pool h1 h2 h3 rfl
    · cases h
  | touristFail i =>
    obtain ⟨pc,hpc,rfl⟩ := Option.map_eq_some_iff.mp h
    obtain ⟨h1,h2,h3⟩ := failure_away hpc
    exact walk_pool h1 h2 h3 rfl
  | tick ms =>
    simp only [step] at h
    split at h
    · cases h
      exact .idle rfl rfl
    · cases h
  | close | shutdown =>
    cases h
    exact .idle rfl rfl

/-- The wait for a token and the wait at the start of a release are not interrupted. -/
def clearUninterrupted : Env n := fun _ s a =>
  match a with
  | .touristCont i => (s.tourists i).pc != .clearSleep
  | .deliver r _ => !((s.worker r).asleep && (s.worker r).pc == .resume .releaseWait)
  | _ => true

/-- No worker takes the counter while the other one still has tokens to post. -/
def oneRelease : Env n := fun _ s a =>
  match a with
  | .worker r _ => (s.worker r).pc != .resume .releaseTake ||
      (releaseStage (s.worker r.other).pc).hand == 0
  | _ => true

/-- No tourist that registered after a release took the counter takes a token before that
release is over. -/
def ownTokens : Env n := fun tr s a =>
  match a with
  | .tourist i _ => (s.tourists i).pc != .clearSleep ||
      decide (∀ r, (releaseStage (s.worker r).pc).past = true → (releases tr).late r i = false)
  | _ => true

theorem fair_step (h : allow [setExists,clearUninterrupted,oneRelease,ownTokens] tr s a = true) :
    (pool s).Fair (releases tr) (poolEvent s a) := by
  simp only [allow_cons] at h
  obtain ⟨hset,hclear,hone,hown,-⟩ := h
  cases a with
  | tourist i x =>
    cases hp : (s.tourists i).pc
    case clearSleep =>
      have hlate : ∀ r, (releaseStage (s.worker r).pc).past = true → (releases tr).late r i = false := by
        simpa [ownTokens,hp] using hown
      simp only [poolEvent,hp]
      exact hlate
    case clearRead =>
      simp only [poolEvent,hp]
      split <;> trivial
    all_goals
      simp only [poolEvent,hp]
      trivial
  | touristCont i =>
    have hne : (s.tourists i).pc ≠ .clearSleep := by simpa [clearUninterrupted] using hclear
    simp only [poolEvent,if_neg hne]
    trivial
  | touristFail i =>
    have hne : (s.tourists i).pc ≠ .clearSleep := by
      intro hp
      simp [setExists,hp,touristInSemop] at hset
    simp only [poolEvent,if_neg hne]
    trivial
  | deliver r sig =>
    have hne : ((s.worker r).asleep && (s.worker r).pc == .resume .releaseWait) = false := by
      simpa only [clearUninterrupted,Bool.not_eq_true'] using hclear
    simp only [poolEvent,hne]
    trivial
  | worker r x =>
    cases hp : (s.worker r).pc
    case resume p =>
      cases p
      case releaseTake =>
        have hother : (releaseStage (s.worker r.other).pc).hand = 0 := by
          simpa [oneRelease,hp] using hone
        simp only [poolEvent,hp]
        refine Finset.sum_eq_zero fun q _ => ?_
        exact r.both (P := fun q => (releaseStage (s.worker q).pc).hand = 0) (by rw [hp]; rfl) hother q
      all_goals
        simp only [poolEvent,hp]
        trivial
    all_goals
      simp only [poolEvent,hp]
      trivial
  | _ => trivial

theorem start_balanced (u : Setup n) : Lib.Balanced (pool u.start) .empty := by
  refine ⟨?_,?_,?_,?_⟩
  · have hclear : u.sem .emergencyClear = 0 := by
      rw [sem_create_values u.created]
      rfl
    have hreg : headcount (pool u.start).registered = 0 :=
      Finset.sum_eq_zero fun _ _ => rfl
    have hhands : Lib.hands (pool u.start).stage = 0 := Finset.sum_eq_zero fun _ _ => rfl
    unfold Pool.Exact
    rw [hreg,hhands]
    exact hclear
  · intro r i hi
    cases hi
  · intro r i hr
    cases hr
  · intro r hr
    cases hr

/-- However the tourists and the workers interleave, over any number of emergencies. -/
theorem waiters_accounted
    (h : Runs [setExists,clearUninterrupted,oneRelease,ownTokens] u tr s) : WaitersAccounted tr s := by
  have hbal : Lib.Balanced (pool s) (releases tr) := by
    refine run_invariant (fun tr s => Lib.Balanced (pool s) (releases tr)) (start_balanced u) ?_ h
    intro tr s a s' hown hi hal hs
    obtain ⟨hnext,hen⟩ := step_pool hown hs
    have hbook : releases (tr ++ [(s,a)]) = (releases tr).next (pool s) (poolEvent s a) := by
      simp [releases]
    rw [hnext,hbook]
    exact hi.next hen (fair_step hal)
  refine ⟨?_,?_⟩
  · intro hout
    have hexact := hbal.exact
    have hempty : Lib.hands (pool s).stage = 0 := by
      refine Finset.sum_eq_zero fun r _ => ?_
      rcases hout r with hr | hr
      · exact congrArg Stage.hand hr
      · exact congrArg Stage.hand hr
    unfold Pool.Exact at hexact
    rw [hempty] at hexact
    exact hexact
  · intro r hr
    exact hbal.tokens (congrArg releaseStage hr)

def heldUp : List (Act n) :=
  reachPlatform 0 ++ alarmed .lower 19 ++ walks 1 1 ++ List.replicate 7 .cashier ++ walks 1 26

def stopped (i : Nat) : List (Act n) := if h : i < n then [.touristCont ⟨i, h⟩] else []

theorem waiters_accounted_released : ∃ tr s,
    Runs [setExists,clearUninterrupted,oneRelease,ownTokens] (sample 2) tr s ∧
      (s.worker .lower).pc = .resume .unlock ∧ headcount ((releases tr).early .lower) = 1 ∧
        WaitersAccounted tr s := by
  have hr : reaches [setExists,clearUninterrupted,oneRelease,ownTokens] (sample 2)
      (heldUp ++ [.deliver .upper .usr1] ++ safe .upper 4 ++ safe .lower 4 ++ safe .upper 5 ++
        safe .lower 9)
      (fun tr s => (s.worker .lower).pc == .resume .unlock &&
        headcount ((releases tr).early .lower) == 1) = true := by decide +kernel
  obtain ⟨tr,s,h,ht⟩ := exists_run hr
  simp only [Bool.and_eq_true,beq_iff_eq] at ht
  exact ⟨tr,s,h,ht.1,ht.2,waiters_accounted h⟩

/-- A stop and continue makes the tourist board without a token and without leaving the
counter. -/
theorem stopped_waiter_counted : ¬∀ (n : Nat) (u : Setup n) (tr : List (Sys n × Act n)) (s : Sys n),
    Runs [setExists] u tr s → WaitersAccounted tr s := by
  intro hall
  have hr : reaches [setExists] (sample 2) (heldUp ++ stopped 1)
      (fun _ s => (releaseStage (s.worker .lower).pc == .away &&
        releaseStage (s.worker .upper).pc == .away) &&
          (s.sem .emergencyClear + s.shm.emergencyWaiters !=
            headcount (fun i => (s.tourists i).registered))) = true := by decide +kernel
  obtain ⟨tr,s,h,ht⟩ := exists_run hr
  simp only [Bool.and_eq_true,beq_iff_eq,bne_iff_ne,ne_eq] at ht
  refine ht.2 ((hall 2 (sample 2) tr s h).balance ?_)
  intro r
  cases r with
  | lower => exact .inl ht.1.1
  | upper => exact .inl ht.1.2

end Ropeway
