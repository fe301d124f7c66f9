import Ropeway.Emergency
import Ropeway.Handshake.Summons
import Ropeway.ChairTransit

/-! The upper worker tests its signal flag at the top of the loop and then waits for an
arrival without a timeout. -/

namespace Ropeway
open Handshake Lib
variable {n : Nat} {s s' : Sys n} {a : Act n} {u : Setup n} {tr : List (Sys n × Act n)}

def pastTest : WorkerPc → Bool
  | .checkResume | .checkInitiator | .upper .receive => true
  | _ => false

/-- The lower worker has called the upper one as initiator and not heard its answer. -/
def summons (s : Sys n) : Bool :=
  (s.worker .lower).isInitiator && summoning (phaseOf (s.worker .lower).pc)

def betweenTestAndWait (w : Worker) : Bool :=
  pastTest w.pc && !(w.pc == .upper .receive && w.asleep)

/-- A call of the lower worker does not reach the upper one between its test and its
wait while no chair is in transit. -/
def noMissedCall : Env n := fun tr s a =>
  match a with
  | .deliver .upper .usr1 =>
    !(betweenTestAndWait (s.worker .upper) && summons s && (transit tr).isEmpty)
  | _ => true

/-- A call that the upper worker has seen too late for its test: a chair in transit
will wake it. -/
def Woken (tr : List (Sys n × Act n)) (s : Sys n) : Prop :=
  summons s = true → pastTest (s.worker .upper).pc = true →
    (s.worker .upper).emergencySignal = true → (s.worker .upper).pendingUsr1 = false →
      transit tr ≠ []

/-- With its flag set the upper worker does not pass the test. -/
theorem past_test {x : Nat} (hown : ownPc .upper (s.worker .upper).pc = true)
    (h : workerStep s .upper x = some s') (hp : pastTest (s'.worker .upper).pc = true) :
    pastTest (s.worker .upper).pc = true ∨ (s.worker .upper).emergencySignal = false := by
  have hcalm : inEmergency (s'.worker .upper).pc = true → pastTest (s'.worker .upper).pc = false := by
    intro he
    generalize (s'.worker .upper).pc = pc at he
    cases pc <;> first | rfl | cases he
  have hout : ¬inEmergency (s'.worker .upper).pc = true := by
    intro he
    rw [hcalm he] at hp
    cases hp
  cases worker_runs h with
  | danger hpc hs =>
    rw [hs] at hout
    exact absurd (danger_pc .upper s x) hout
  | trigger hpc hs => exact absurd (trigger_pc hs) hout
  | ack hpc hs => exact absurd (ack_pc hs) hout
  | resume hpc hs => exact absurd (resume_pc hs) hout
  | lower hpc => simp [hpc,ownPc] at hown
  | @upper p hpc hs =>
    cases p with
    | receive => exact .inl (by rw [hpc]; rfl)
    | track =>
      simp only [upperWorkerMain] at hs
      repeat' split at hs
      all_goals
        cases hs
        simp [pastTest] at hp
    | release =>
      cases hs
      simp [pastTest] at hp
  | @head p hpc idle hs =>
    cases p with
    | top =>
      simp only [workerLoopHead] at hs
      split at hs
      · cases hs
        simp [pastTest] at hp
      · split at hs
        · cases hs
          simp [pastTest,Sys.enterAck] at hp
        · rename_i hno
          exact .inr (by simpa using hno)
    | checkResume | checkInitiator => exact .inl (by rw [hpc]; rfl)
    | pauseArm =>
      cases hs
      simp [pastTest] at hp
    | _ => cases hs

theorem Woken.keep {tr' : List (Sys n × Act n)} (h : Woken tr s)
    (hs : summons s' = true → summons s = true)
    (hp : pastTest (s'.worker .upper).pc = true → pastTest (s.worker .upper).pc = true)
    (he : (s'.worker .upper).emergencySignal = true → (s.worker .upper).emergencySignal = true)
    (hu : (s'.worker .upper).pendingUsr1 = false → (s.worker .upper).pendingUsr1 = false)
    (ht : transit tr ≠ [] → transit tr' ≠ []) : Woken tr' s' :=
  fun h1 h2 h3 h4 => ht (h (hs h1) (hp h2) (he h3) (hu h4))

theorem Woken.upper {x : Nat} (h : Woken tr s) (hown : ∀ r, ownPc r (s.worker r).pc = true)
    (hs : workerStep s .upper x = some s') : Woken (tr ++ [(s,.worker .upper x)]) s' := by
  have hm := (worker_move (ledger tr) (hown .upper) hs).frame
  intro hsum hpast hsig hpend
  have hsig0 : (s.worker .upper).emergencySignal = true := hm.seen hsig
  have hpend0 : (s.worker .upper).pendingUsr1 = false := hm.own.symm.trans hpend
  have hsum0 : summons s = true := by
    have hi : (s'.worker .lower).isInitiator = (s.worker .lower).isInitiator := hm.initiator
    have hph : phaseOf (s'.worker .lower).pc = phaseOf (s.worker .lower).pc := hm.phase
    simpa only [summons,hi,hph] using hsum
  rcases past_test (hown .upper) hs hpast with hp | hno
  · have hsame : noteTransit (transit tr) s (.worker .upper x) = transit tr := by
      simp only [noteTransit]
      split
      · rename_i hpc
        simp [hpc,pastTest] at hp
      · rfl
    rw [transit_snoc,hsame]
    exact h hsum0 hp hsig0 hpend0
  · rw [hno] at hsig0
    cases hsig0

theorem transit_lower {x : Nat} {gs : List (Batch Chair Nat)} (h : gs ≠ []) :
    noteTransit gs s (.worker .lower x) ≠ [] := by
  simp only [noteTransit]
  split
  · split
    · exact h
    · simp
  · exact h

theorem Woken.lower {x : Nat} (h : Woken tr s) (hw : Summoned .lower (protocol tr s))
    (y : Yielded .lower (protocol tr s)) (hown : ∀ r, ownPc r (s.worker r).pc = true) (hs : workerStep s .lower x = some s') :
    Woken (tr ++ [(s,.worker .lower x)]) s' := by
  have hm := worker_move (ledger tr) (hown .lower) hs
  have hpc : (s'.worker .upper).pc = (s.worker .upper).pc := by
    obtain ⟨a,b,hpeer⟩ := worker_peer (hown .lower) hs
    simp only [Role.other] at hpeer
    rw [hpeer]
  intro hsum hpast hsig hpend
  have hsig0 : (s.worker .upper).emergencySignal = true := hm.frame.signalled.symm.trans hsig
  have hpend0 : (s.worker .upper).pendingUsr1 = false := by
    by_contra hp
    rw [Bool.not_eq_false] at hp
    have hstay : (s'.worker .upper).pendingUsr1 = true := hm.frame.called hp
    rw [hstay] at hpend
    cases hpend
  rw [hpc] at hpast
  simp only [summons,Bool.and_eq_true] at hsum
  rcases hw.begin y hm hsum.1 hsum.2 with ⟨hi,hph⟩ | hcall
  · rw [transit_snoc]
    refine transit_lower (h ?_ hpast hsig0 hpend0)
    simp only [summons,Bool.and_eq_true]
    exact ⟨hi,hph⟩
  · have hset : (s'.worker .upper).pendingUsr1 = true := hcall
    rw [hset] at hpend
    cases hpend

theorem past_wake {l : LowerLocals} {pc : WorkerPc} (h : pastTest (wakePc l pc) = true) :
    pastTest pc = true ∧ pc ≠ .upper .receive := by
  unfold wakePc at h
  repeat' split at h
  all_goals first | cases h | exact ⟨h,by assumption⟩

theorem summoning_wake {l : LowerLocals} {pc : WorkerPc}
    (h : summoning (phaseOf (wakePc l pc)) = true) : summoning (phaseOf pc) = true := by
  by_cases hp : pc = .trigger .waitState
  · rw [hp] at h
    cases h
  · rwa [wake_phase hp] at h

theorem handler_other {w : Worker} {sig : Signal} {r : Role}
    (h : handler (s.worker r) sig = some w) (hs : sig ≠ .usr1) :
    w.emergencySignal = (s.worker r).emergencySignal ∧
      w.pendingUsr1 = (s.worker r).pendingUsr1 := by
  cases sig <;> simp only [handler] at h
  case usr1 => exact absurd rfl hs
  case cont =>
    cases h
    exact ⟨rfl,rfl⟩
  all_goals
    split at h
    · cases h
      exact ⟨rfl,rfl⟩
    · cases h

/-- A signal to the lower worker does not make it summon anybody. -/
theorem summons_lower {w : Worker} (hi : w.isInitiator = (s.worker .lower).isInitiator)
    (hp : summoning (phaseOf w.pc) = true → summoning (phaseOf (s.worker .lower).pc) = true)
    (h : summons (s.setWorker .lower w) = true) : summons s = true := by
  simp only [summons,Sys.setWorker_worker,Function.update_self,Bool.and_eq_true,hi] at h
  simp only [summons,Bool.and_eq_true]
  exact ⟨h.1,hp h.2⟩

theorem Woken.deliver_lower {sig : Signal} (h : Woken tr s)
    (hown : ownPc .lower (s.worker .lower).pc = true)
    (hs : deliverSignal s .lower sig = some s') : Woken (tr ++ [(s,.deliver .lower sig)]) s' := by
  obtain ⟨w,hw,⟨-,rfl⟩ | ⟨-,al,rfl⟩⟩ := deliver_eq hown hs
  all_goals
    obtain ⟨hpc,hi,-⟩ := handler_frame hw
    refine h.keep (summons_lower hi ?_) (by simp) (by simp) (by simp) (by rw [transit_snoc]; exact id)
  · rw [hpc]
    exact id
  · exact summoning_wake

theorem summons_upper (w : Worker) : summons (s.setWorker .upper w) = summons s := by
  simp [summons]

/-- Only a call that is not missed becomes a flag. -/
theorem Woken.deliver_upper {sig : Signal} (h : Woken tr s)
    (hown : ownPc .upper (s.worker .upper).pc = true)
    (ok : noMissedCall tr s (.deliver .upper sig) = true)
    (hs : deliverSignal s .upper sig = some s') : Woken (tr ++ [(s,.deliver .upper sig)]) s' := by
  obtain ⟨w,hw,hcase⟩ := deliver_eq hown hs
  have hpc := (handler_frame hw).1
  have hsum : summons s' = summons s := by
    rcases hcase with ⟨-,rfl⟩ | ⟨-,al,rfl⟩ <;> exact summons_upper _
  have hpast : pastTest (s'.worker .upper).pc = true → pastTest (s.worker .upper).pc = true := by
    rcases hcase with ⟨-,rfl⟩ | ⟨-,al,rfl⟩
    · simp [hpc]
    · intro hp
      exact (past_wake (by simpa using hp)).1
  have htr : transit (tr ++ [(s,.deliver .upper sig)]) = transit tr := transit_snoc ..
  by_cases husr : sig = .usr1
  · subst husr
    intro h1 h2 _ _
    rw [htr]
    have hmiss : betweenTestAndWait (s.worker .upper) = true := by
      simp only [betweenTestAndWait,hpast h2,Bool.true_and,Bool.not_eq_true',Bool.and_eq_false_iff]
      rcases hcase with ⟨hno,rfl⟩ | ⟨-,al,rfl⟩
      · exact .inr (by simpa [wakes] using hno)
      · exact .inl (by simpa using (past_wake (by simpa using h2)).2)
    rw [hsum] at h1
    simpa [noMissedCall,hmiss,h1] using ok
  · obtain ⟨he,hu⟩ := handler_other hw husr
    refine h.keep (by rw [hsum]; exact id) hpast ?_ ?_ (by rw [htr]; exact id)
    · rcases hcase with ⟨-,rfl⟩ | ⟨-,al,rfl⟩ <;> simp [he]
    · rcases hcase with ⟨-,rfl⟩ | ⟨-,al,rfl⟩ <;> simp [hu]

theorem Woken.record {tr' : List (Sys n × Act n)} {r : Role} {w : Worker} (h : Woken tr s)
    (hpc : w.pc = (s.worker r).pc) (hi : w.isInitiator = (s.worker r).isInitiator)
    (he : w.emergencySignal = (s.worker r).emergencySignal)
    (hu : w.pendingUsr1 = false → (s.worker r).pendingUsr1 = false)
    (ht : transit tr' = transit tr) : Woken tr' (s.setWorker r w) := by
  cases r with
  | lower =>
    exact h.keep (summons_lower hi (by rw [hpc]; exact id)) (by simp) (by simp) (by simp)
      (by rw [ht]; exact id)
  | upper =>
    exact h.keep (by rw [summons_upper]; exact id) (by simp [hpc]) (by simp [he]) (by simpa using hu)
      (by rw [ht]; exact id)

theorem Woken.step (h : Woken tr s) (hw : Summoned .lower (protocol tr s))
    (y : Yielded .lower (protocol tr s)) (hown : ∀ r, ownPc r (s.worker r).pc = true)
    (ok : noMissedCall tr s a = true) (hs : Ropeway.step s a = some s') : Woken (tr ++ [(s,a)]) s' := by
  by_cases ha : a.outside = true
  · have hsame := outside_same ha hs
    have htr : transit (tr ++ [(s,a)]) = transit tr := by
      rw [transit_snoc]
      cases a <;> first | rfl | cases ha
    refine h.keep ?_ (by rw [hsame.worker]; exact id) (by rw [hsame.worker]; exact id)
      (by rw [hsame.worker]; exact id) (by rw [htr]; exact id)
    simp only [summons,hsame.worker]
    exact id
  cases a with
  | worker r x =>
    cases r with
    | lower => exact h.lower hw y hown hs
    | upper => exact h.upper hown hs
  | deliver r sig =>
    cases r with
    | lower => exact h.deliver_lower (hown .lower) hs
    | upper => exact h.deliver_upper (hown .upper) ok hs
  | sleep r =>
    simp only [Ropeway.step] at hs
    split at hs
    · cases hs
      exact h.record rfl rfl rfl id (transit_snoc ..)
    · cases hs
  | kill r sig =>
    obtain ⟨w,hk,rfl⟩ := Option.map_eq_some_iff.mp hs
    cases sig <;> cases hk
    · exact h.record rfl rfl rfl (by simp) (transit_snoc ..)
    · exact h.record rfl rfl rfl id (transit_snoc ..)
  | _ => simp [Act.outside] at ha

/-- The lower worker is blocked as initiator in its wait for I_AM_READY, the upper worker
in its wait for an arrival with no signal on its way, and nobody will arrive. -/
structure SleptThrough (tr : List (Sys n × Act n)) (s : Sys n) : Prop where
  initiator : (s.worker .lower).isInitiator = true
  lower : (s.worker .lower).pc = .resume .receive
  lowerAsleep : (s.worker .lower).asleep = true
  unanswered : receiveWorker s .lower = none
  upper : (s.worker .upper).pc = .upper .receive
  upperAsleep : (s.worker .upper).asleep = true
  unsignalled : (s.worker .upper).pendingUsr1 = false
  noArrival : s.mqArrivals = []
  noChair : transit tr = []

theorem run_woken
    (h : Runs [beforeShutdown,triggerUninterrupted .lower,noMissedCall] u tr s) :
    Summoned .lower (protocol tr s) ∧ Woken tr s := by
  have hall : Yielded .lower (protocol tr s) ∧ Summoned .lower (protocol tr s) ∧ Woken tr s := by
    refine run_invariant (fun tr s => Yielded .lower (protocol tr s) ∧
      Summoned .lower (protocol tr s) ∧ Woken tr s) ?_ ?_ h
    · rw [start_protocol]
      refine ⟨start_yielded .lower,start_summoned .lower,?_⟩
      intro hs
      simp [summons,Setup.start,Worker.init] at hs
    · intro tr s a s' hown hi allowed hstep
      obtain ⟨y,hsum,hwoken⟩ := hi
      simp only [allow_cons] at allowed
      have ht := step_protocol tr hown hstep
      exact ⟨y.turn ht,hsum.turn y (no_failure allowed.2.1) ht,
        hwoken.step hsum y hown allowed.2.2.1 hstep⟩
  exact hall.2

/-- The upper worker does not sleep through an emergency when no call reaches it
between its test of the flag and its wait. -/
theorem never_slept_through
    (h : Runs [beforeShutdown,triggerUninterrupted .lower,noMissedCall] u tr s) :
    ¬SleptThrough tr s := by
  intro hbad
  obtain ⟨hsum,hwoken⟩ := run_woken h
  have hsummons : summons s = true := by
    have hph : summoning (phaseOf (s.worker .lower).pc) = true := by
      rw [hbad.lower]
      rfl
    simp [summons,hbad.initiator,hph]
  have hphase : (protocol tr s).phase .lower = .listening := view_phase _ hbad.lower
  rcases hsum.call hbad.initiator (by rw [hphase]; rfl) with hc | hc | hc | ⟨m,hm,ht⟩
  · have hpend : (s.worker .upper).pendingUsr1 = true := hc
    rw [hbad.unsignalled] at hpend
    cases hpend
  · exact hwoken hsummons (by rw [hbad.upper]; rfl) hc hbad.unsignalled hbad.noChair
  · have hup : (protocol tr s).phase .upper = .loop := view_phase _ hbad.upper
    simp [Role.other,hup,acknowledging] at hc
  · have hnone := hbad.unanswered
    rw [receiveWorker,msgrcv_type (by decide)] at hnone
    have hno := take_first_none hnone m hm
    simp [ht] at hno

theorem never_slept_through_called : ∃ tr s,
    Runs [beforeShutdown,triggerUninterrupted .lower,noMissedCall] (sample 1) tr s ∧
      (s.worker .lower).isInitiator = true ∧ (s.worker .lower).pc = .resume .receive ∧
        (s.worker .upper).pc = .ack .receive ∧ ¬SleptThrough tr s := by
  have hr : reaches [beforeShutdown,triggerUninterrupted .lower,noMissedCall] (sample 1)
      (reachPlatform 0 ++ safe .upper 3 ++ [.sleep .upper] ++ alarmed .lower 19 ++
        [.deliver .upper .usr1] ++ safe .upper 4 ++ safe .lower 4)
      (fun _ s => (s.worker .lower).isInitiator && (s.worker .lower).pc == .resume .receive &&
        (s.worker .upper).pc == .ack .receive) = true := by decide +kernel
  obtain ⟨tr,s,h,ht⟩ := exists_run hr
  simp only [Bool.and_eq_true,beq_iff_eq] at ht
  exact ⟨tr,s,h,ht.1.1,ht.1.2,ht.2,never_slept_through h⟩

/-- The signal comes after the test of the flag and before the wait. -/
def missedCall : List (Act 1) :=
  reachPlatform 0 ++ safe .upper 3 ++ alarmed .lower 19 ++ [.deliver .upper .usr1, .sleep .upper] ++
    safe .lower 4 ++ [.sleep .lower]

theorem missed_call_slept_through : ∃ tr s,
    Runs [beforeShutdown,workersOnly,noFailingSemop] (sample 1) tr s ∧ SleptThrough tr s := by
  have hr : reaches [beforeShutdown,workersOnly,noFailingSemop] (sample 1) missedCall
      (fun tr s => (s.worker .lower).isInitiator && (s.worker .lower).pc == .resume .receive &&
        (s.worker .lower).asleep && (receiveWorker s .lower).isNone &&
        (s.worker .upper).pc == .upper .receive && (s.worker .upper).asleep &&
        !(s.worker .upper).pendingUsr1 && s.mqArrivals.isEmpty && (transit tr).isEmpty) =
      true := by decide +kernel
  obtain ⟨tr,s,h,ht⟩ := exists_run hr
  simp only [Bool.and_eq_true,beq_iff_eq,Bool.not_eq_true',List.isEmpty_iff,
    Option.isNone_iff_eq_none] at ht
  obtain ⟨⟨⟨⟨⟨⟨⟨⟨h1,h2⟩,h3⟩,h4⟩,h5⟩,h6⟩,h7⟩,h8⟩,h9⟩ := ht
  exact ⟨tr,s,h,h1,h2,h3,h4,h5,h6,h7,h8,h9⟩

end Ropeway
