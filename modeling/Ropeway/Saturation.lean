import Ropeway.Handshake.Summons
import Ropeway.Handshake.View
import Ropeway.Frames.Starts
import Ropeway.Frames.Traffic

/-! The emergency handshake against the chair flow. Only the upper worker frees a slot,
and only the lower worker can answer its READY_TO_RESUME. -/

namespace Ropeway
open Handshake
variable {n : Nat} {s s' : Sys n} {a : Act n} {u : Setup n} {tr : List (Sys n × Act n)}

def atSlot : WorkerPc → Bool
  | .lower (.dispatchWait _) => true
  | _ => false

/-- It waits there for a buffered tourist, and no slot is free. -/
def starved (s : Sys n) : Bool :=
  atSlot (s.worker .lower).pc && !s.lower.pending.isEmpty && s.sem .chairs == 0

def unanswered (s : Sys n) : Bool := s.mqWorker.all (fun m => m.mtype != Role.upper.dest)

/-- The upper worker is an initiator that will wait for an answer or does so. -/
def awaits (s : Sys n) : Bool :=
  (s.worker .upper).isInitiator && decide (0 < (s.worker .upper).emergencyStart) &&
    !heard (phaseOf (s.worker .upper).pc) && unanswered s

/-- The action takes the lower worker into `dispatch_chair` with buffered tourists: the
tourist in hand completes the chair or does not fit, or the wait at the platform is
interrupted. -/
def startsDispatch (s : Sys n) : Act n → Bool
  | .worker .lower _ =>
    (s.worker .lower).pc == .lower .place &&
      if s.lower.fits then decide (chairCapacity ≤ s.lower.buffer.currentChairSlots)
      else !s.lower.pending.isEmpty
  | .deliver .lower sig =>
    (s.worker .lower).pc == .lower .receive && wakes (s.worker .lower) sig &&
      !s.lower.pending.isEmpty
  | _ => false

/-- No dispatch is begun without a free slot while the upper worker is an initiator that
has no answer. -/
def noLateDispatch : Env n := fun _ s a =>
  !(startsDispatch s a && s.sem .chairs == 0 && awaits s)

/-- The upper worker does not become an initiator while the lower one waits for a
slot. -/
def noLateDanger : Env n := fun _ s a =>
  match a with
  | .worker .upper _ =>
    !((s.worker .upper).pc == .trigger .stamp && decide (0 < s.shm.currentSimTimeMs) &&
      unanswered s && starved s)
  | _ => true

theorem starved_lower {p : LowerPc} {x : Nat} (hp : (s.worker .lower).pc = .lower p)
    (h : lowerWorkerMain s x p = some s') (hs : starved s' = true) :
    startsDispatch s (.worker .lower x) = true ∧ s.sem .chairs = 0 := by
  simp only [starved,Bool.and_eq_true,beq_iff_eq] at hs
  cases p with
  | place =>
    simp only [lowerWorkerMain] at h
    repeat' split at h
    all_goals
      rename_i h1 h2
      cases h
      simp [atSlot] at hs
    all_goals
      refine ⟨?_,hs.2⟩
      simp [startsDispatch,hp,h1,h2]
  | dispatchWait site =>
    simp only [lowerWorkerMain] at h
    split at h
    · cases h
      cases site <;> simp [afterDispatch,atSlot] at hs
    · obtain ⟨t,hw,rfl⟩ := Option.map_eq_some_iff.mp h
      simp [atSlot] at hs
  | dispatchSend site i =>
    simp only [lowerWorkerMain] at h
    split at h
    · cases h
      simp [atSlot] at hs
    · cases h
      cases site <;> simp [afterDispatch,atSlot] at hs
  | checkWait | recheckWait | receive =>
    obtain ⟨t,hw,rfl⟩ := Option.map_eq_some_iff.mp h
    simp [atSlot] at hs
  | checkPost | recheckPost =>
    simp only [lowerWorkerMain] at h
    split at h
    all_goals
      cases h
      simp [atSlot,Sys.enterAck] at hs
  | checkRead | recheckRead | arm | requeueStop | requeue =>
    cases h
    simp [atSlot,requeuePlatform] at hs

theorem slot_wake {l : LowerLocals} {pc : WorkerPc} (h : atSlot (wakePc l pc) = true) :
    atSlot pc = true ∨ pc = .lower .receive := by
  unfold wakePc at h
  repeat' split at h
  all_goals first | exact .inr rfl | exact .inl h

/-- The upper worker takes no slot. -/
theorem upper_slots {p : UpperPc} (h : upperWorkerMain s p = some s') :
    s.sem .chairs ≤ s'.sem .chairs := by
  cases p with
  | receive =>
    obtain ⟨⟨m,q⟩,-,rfl⟩ := Option.map_eq_some_iff.mp h
    simp
  | track =>
    simp only [upperWorkerMain] at h
    repeat' split at h
    all_goals
      cases h
      simp
  | release =>
    cases h
    simp

/-- The lower worker starves only from the start of a dispatch on. -/
theorem starved_before (hrun : s.shm.running = true) (t : Traffic s s' a)
    (h : starved s' = true) :
    starved s = true ∨ startsDispatch s a = true ∧ s.sem .chairs = 0 := by
  cases t with
  | lower hp hl => exact .inr (starved_lower hp hl h)
  | @upper x p hp hu =>
    have ho := upper_only hu
    refine .inl ?_
    simp only [starved,ho.peer,ho.lower,Bool.and_eq_true,beq_iff_eq] at h ⊢
    refine ⟨h.1,?_⟩
    have hle := upper_slots hu
    omega
  | tourist ht =>
    have hw := tourist_same ht
    simp only [starved,hw.worker,hw.lower,hw.chairs] at h
    exact .inl h
  | cont hc he =>
    subst he
    exact .inl h
  | still hs =>
    simp only [starved,hs.lower,hs.chairs,Bool.and_eq_true,beq_iff_eq] at h
    obtain ⟨⟨hslot,hpend⟩,hzero⟩ := h
    cases hs.shift .lower with
    | same he =>
      rw [he] at hslot
      exact .inl (by simp [starved,hslot,hpend,hzero])
    | calm before after =>
      generalize (s'.worker .lower).pc = pc at hslot after
      cases pc <;> first | cases hslot | cases after
    | enter he =>
      generalize (s'.worker .lower).pc = pc at hslot he
      cases he with
      | lower hp => cases hslot
      | last hp stopped =>
        rw [hrun] at stopped
        cases stopped
    | wake sent woken he =>
      rw [he] at hslot
      rcases slot_wake hslot with hs0 | hp
      · exact .inl (by simp [starved,hs0,hpend,hzero])
      · exact .inr ⟨by simp [startsDispatch,sent,hp,woken,hpend],hzero⟩

theorem unanswered_iff (tr : List (Sys n × Act n)) (s : Sys n) :
    unanswered s = true ↔ ¬answered (protocol tr s) .upper := by
  simp only [unanswered,List.all_eq_true,bne_iff_ne,ne_eq]
  constructor
  · rintro h ⟨m,hm,ht⟩
    exact h m hm ht
  · intro h m hm ht
    exact h ⟨m,hm,ht⟩

theorem awaits_iff (tr : List (Sys n × Act n)) (s : Sys n) : awaits s = true ↔
    (protocol tr s).initiator .upper = true ∧ 0 < (s.worker .upper).emergencyStart ∧
      heard ((protocol tr s).phase .upper) = false ∧ ¬answered (protocol tr s) .upper := by
  rw [← unanswered_iff]
  simp only [awaits,Bool.and_eq_true,decide_eq_true_eq,Bool.not_eq_true',and_assoc]
  rfl

/-- The start of its emergency is not touched in a step of the upper worker, and it goes
on to resume only an emergency that has one. -/
structure StartKept (s s' : Sys n) : Prop where
  start : (s'.worker .upper).emergencyStart = (s.worker .upper).emergencyStart
  resume : resuming (s'.worker .upper).pc = true →
    resuming (s.worker .upper).pc = true ∨ 0 < (s.worker .upper).emergencyStart

theorem worker_start {x : Nat} (hown : ownPc .upper (s.worker .upper).pc = true)
    (h : workerStep s .upper x = some s') (h1 : (s.worker .upper).pc ≠ .trigger .stamp)
    (h2 : (s.worker .upper).pc ≠ .resume .finish) : StartKept s s' := by
  have hk := worker_same hown h1 h2 h
  exact ⟨hk.start,hk.resume⟩

/-- The clock value of an emergency is written by its stamp and erased at its end. -/
theorem stamp_before {x : Nat} (hown : ownPc .upper (s.worker .upper).pc = true)
    (h : workerStep s .upper x = some s') (hp : (s.worker .upper).pc ≠ .trigger .stamp)
    (hpos : 0 < (s'.worker .upper).emergencyStart) : 0 < (s.worker .upper).emergencyStart := by
  by_cases hf : (s.worker .upper).pc = .resume .finish
  · simp only [workerStep,hf] at h
    cases h
    simp at hpos
  · rw [← (worker_start hown h hp hf).start]
    exact hpos

def Stamped (s : Sys n) : Prop :=
  resuming (s.worker .upper).pc = true → 0 < (s.worker .upper).emergencyStart

theorem Stamped.upper {x : Nat} (h : Stamped s) (hown : ownPc .upper (s.worker .upper).pc = true)
    (hs : workerStep s .upper x = some s') : Stamped s' := by
  by_cases h1 : (s.worker .upper).pc = .trigger .stamp
  · simp only [workerStep,h1] at hs
    cases hs
    simp [Stamped,resuming]
  by_cases h2 : (s.worker .upper).pc = .resume .finish
  · simp only [workerStep,h2] at hs
    cases hs
    simp [Stamped,resuming]
  · have hk := worker_start hown hs h1 h2
    intro hr
    rw [hk.start]
    rcases hk.resume hr with hr0 | hpos
    · exact h hr0
    · exact hpos

theorem resuming_wake {l : LowerLocals} {pc : WorkerPc} (h : resuming (wakePc l pc) = true) :
    resuming pc = true := by
  unfold wakePc at h
  repeat' split at h
  all_goals exact h

theorem Stamped.step (h : Stamped s) (hown : ∀ r, ownPc r (s.worker r).pc = true)
    (hs : Ropeway.step s a = some s') : Stamped s' := by
  by_cases ha : a.outside = true
  · simpa only [Stamped,(outside_same ha hs).worker] using h
  by_cases hw : ∃ r x, a = .worker r x
  · obtain ⟨r,x,rfl⟩ := hw
    cases r with
    | lower =>
      obtain ⟨p,q,hpeer⟩ := worker_peer (hown .lower) hs
      simp only [Role.other] at hpeer
      simpa only [Stamped,hpeer] using h
    | upper => exact h.upper (hown .upper) hs
  · obtain ⟨r,w,rfl,hpc,-,hst⟩ :=
      signal_record hown (by simpa using ha) (fun r x he => hw ⟨r,x,he⟩) hs
    cases r with
    | lower => simpa [Stamped] using h
    | upper =>
      simp only [Stamped,Sys.setWorker_worker,Function.update_self,hst]
      intro hr
      rcases hpc with hpc | hpc
      · rw [hpc] at hr
        exact h hr
      · rw [hpc] at hr
        exact h (resuming_wake hr)

theorem phase_stamping {pc : WorkerPc} (h : phaseOf pc = .stamping) : pc = .trigger .stamp := by
  cases pc with
  | trigger p | ack p | resume p => cases p <;> first | rfl | cases h
  | _ => cases h

theorem heard_wake {l : LowerLocals} {pc : WorkerPc} (h : heard (phaseOf (wakePc l pc)) = false) :
    heard (phaseOf pc) = false := by
  by_cases hp : pc = .trigger .waitState
  · rw [hp]
    rfl
  · rwa [wake_phase hp] at h

theorem awaits_upper {x : Nat} (y : Yielded .upper (protocol tr s))
    (hown : ∀ r, ownPc r (s.worker r).pc = true) (hs : workerStep s .upper x = some s')
    (h : awaits s' = true) : awaits s = true ∨ (s.worker .upper).pc = .trigger .stamp ∧
      0 < s.shm.currentSimTimeMs ∧ unanswered s = true := by
  have hm := worker_protocol tr (hown .upper) hs
  by_cases hp : (s.worker .upper).pc = .trigger .stamp
  · refine .inr ⟨hp,?_⟩
    simp only [workerStep,hp] at hs
    cases hs
    simp only [awaits,Bool.and_eq_true,decide_eq_true_eq,Sys.setWorker_worker,
      Function.update_self] at h
    exact ⟨h.1.1.2,h.2⟩
  · rw [awaits_iff (tr ++ [(s,.worker .upper x)])] at h
    obtain ⟨hi,hpos,hh,hn⟩ := h
    rcases y.awaits hm hi hh hn with ⟨hi0,hh0,hn0⟩ | hst
    · exact .inl ((awaits_iff tr s).mpr ⟨hi0,stamp_before (hown .upper) hs hp hpos,hh0,hn0⟩)
    · exact absurd (phase_stamping hst) hp

theorem awaits_lower {x : Nat} (tr : List (Sys n × Act n)) (hown : ∀ r, ownPc r (s.worker r).pc = true)
    (hs : workerStep s .lower x = some s') (h : awaits s' = true) : awaits s = true := by
  have hm := worker_protocol tr (hown .lower) hs
  obtain ⟨p,q,hpeer⟩ := worker_peer (hown .lower) hs
  simp only [Role.other] at hpeer
  simp only [awaits,hpeer,Bool.and_eq_true] at h
  simp only [awaits,Bool.and_eq_true]
  refine ⟨h.1,?_⟩
  rw [unanswered_iff tr]
  intro ha
  exact (unanswered_iff _ _).mp h.2 (answered_other (w := .upper) hm ha)

theorem awaits_before (y : Yielded .upper (protocol tr s))
    (hown : ∀ r, ownPc r (s.worker r).pc = true) (hs : step s a = some s')
    (h : awaits s' = true) : awaits s = true ∨ (∃ x, a = .worker .upper x) ∧
      (s.worker .upper).pc = .trigger .stamp ∧ 0 < s.shm.currentSimTimeMs ∧
        unanswered s = true := by
  by_cases ha : a.outside = true
  · have hsame := outside_same ha hs
    refine .inl ?_
    simpa only [awaits,unanswered,hsame.worker,hsame.mqWorker] using h
  by_cases hw : ∃ r x, a = .worker r x
  · obtain ⟨r,x,rfl⟩ := hw
    cases r with
    | lower => exact .inl (awaits_lower tr hown hs h)
    | upper =>
      rcases awaits_upper y hown hs h with h0 | h0
      · exact .inl h0
      · exact .inr ⟨⟨x,rfl⟩,h0⟩
  · obtain ⟨r,w,rfl,hpc,hi,hst⟩ :=
      signal_record hown (by simpa using ha) (fun r x he => hw ⟨r,x,he⟩) hs
    refine .inl ?_
    cases r with
    | lower => simpa [awaits,unanswered] using h
    | upper =>
      simp only [awaits,unanswered,Sys.setWorker_worker,Function.update_self,hi,hst,Bool.and_eq_true,
        Bool.not_eq_true'] at h
      simp only [awaits,unanswered,Bool.and_eq_true,Bool.not_eq_true']
      refine ⟨⟨h.1.1,?_⟩,h.2⟩
      rcases hpc with hpc | hpc
      · rw [← hpc]
        exact h.1.2
      · have hh := h.1.2
        rw [hpc] at hh
        exact heard_wake hh

/-- The lower worker is blocked on `SEM_CHAIRS`, the upper worker as initiator in its
wait for I_AM_READY. -/
structure CircularWait (s : Sys n) : Prop where
  lower : ∃ site, (s.worker .lower).pc = .lower (.dispatchWait site)
  lowerAsleep : (s.worker .lower).asleep = true
  buffered : s.lower.pending ≠ []
  noSlot : s.sem .chairs = 0
  initiator : (s.worker .upper).isInitiator = true
  upper : (s.worker .upper).pc = .resume .receive
  upperAsleep : (s.worker .upper).asleep = true
  unanswered : receiveWorker s .upper = none

theorem run_flowing (h : Runs [beforeShutdown,noLateDispatch,noLateDanger] u tr s) :
    Stamped s ∧ ¬(awaits s = true ∧ starved s = true) := by
  have hall : Running s ∧ Yielded .upper (protocol tr s) ∧ Stamped s ∧
      ¬(awaits s = true ∧ starved s = true) := by
    refine h.invariant (fun tr s => Running s ∧ Yielded .upper (protocol tr s) ∧ Stamped s ∧
      ¬(awaits s = true ∧ starved s = true)) ?_ ?_
    · rw [start_protocol]
      refine ⟨start_running u,start_yielded .upper,?_,?_⟩
      · simp [Stamped,Setup.start,Worker.init,resuming]
      · simp [awaits,Setup.start,Worker.init]
    · rintro tr s a s' ⟨hrun,y,hst,hno⟩ allowed hstep
      simp only [allow_cons] at allowed
      obtain ⟨hrun',ht⟩ := hrun.step allowed.1 hstep
      refine ⟨hrun',y.turn (step_protocol tr hrun.own hstep),hst.step hrun.own hstep,?_⟩
      rintro ⟨hw,hs⟩
      rcases awaits_before y hrun.own hstep hw with hw0 | ⟨⟨x,rfl⟩,hp,hclock,hun⟩
      · rcases starved_before hrun.on ht hs with hs0 | ⟨hd,hz⟩
        · exact hno ⟨hw0,hs0⟩
        · simp [noLateDispatch,hd,hz,hw0] at allowed
      · rcases starved_before hrun.on ht hs with hs0 | ⟨hd,-⟩
        · simp [noLateDanger,hp,hclock,hun,hs0] at allowed
        · cases hd
  exact hall.2.2

/-- The two workers do not wait for each other when no dispatch is begun without a slot
in an emergency of the upper worker, and no such emergency begins while the lower worker
waits for a slot. -/
theorem no_circular_wait (h : Runs [beforeShutdown,noLateDispatch,noLateDanger] u tr s) :
    ¬CircularWait s := by
  intro hbad
  obtain ⟨hst,hno⟩ := run_flowing h
  obtain ⟨site,hsite⟩ := hbad.lower
  have hpos := hst (by rw [hbad.upper]; rfl)
  have hnone := hbad.unanswered
  rw [receiveWorker,Lib.msgrcv_type (by decide)] at hnone
  have hun : unanswered s = true := by
    simp only [unanswered,List.all_eq_true,bne_iff_ne,ne_eq]
    intro m hm ht
    simpa [ht] using Lib.take_first_none hnone m hm
  refine hno ⟨?_,?_⟩
  · have hph : heard (phaseOf (s.worker .upper).pc) = false := by
      rw [hbad.upper]
      rfl
    simp [awaits,hbad.initiator,hpos,hph,hun]
  · simp [starved,hsite,atSlot,hbad.buffered,hbad.noSlot]

theorem no_circular_wait_answered : ∃ tr s,
    Runs [beforeShutdown,noLateDispatch,noLateDanger] (sample 1) tr s ∧
      (s.worker .upper).isInitiator = true ∧ (s.worker .upper).pc = .resume .receive ∧
        ¬CircularWait s := by
  have hr : reaches [beforeShutdown,noLateDispatch,noLateDanger] (sample 1)
      (rideAlone 0 ++ walks 0 1 ++ alarmed .upper 13 ++ safe .lower 9 ++ safe .upper 4)
      (fun _ s => (s.worker .upper).isInitiator && (s.worker .upper).pc == .resume .receive) =
      true := by decide +kernel
  obtain ⟨tr,s,h,ht⟩ := exists_run hr
  simp only [Bool.and_eq_true,beq_iff_eq] at ht
  exact ⟨tr,s,h,ht.1,ht.2,no_circular_wait h⟩

def comes (i : Nat) : List (Act 38) := reachPlatform i ++ safe .lower 13

def ridesOn (i : Nat) : List (Act 38) := comes i ++ timeout ++ safe .lower 3 ++ walks i 2

/-- The first chair goes up with two tourists and 35 more with one each; the last tourist
is buffered and the lower worker waits for a slot. Then one of the two tourists of the
first chair arrives, which frees no slot, and the upper worker sees a danger. -/
def saturatedRun : List (Act 38) :=
  comes 0 ++ comes 1 ++ timeout ++ safe .lower 4 ++ walks 0 2 ++ walks 1 2 ++
    (List.range 35).flatMap (fun k => ridesOn (k + 2)) ++
    comes 37 ++ timeout ++ [.sleep .lower] ++
    walks 0 3 ++ safe .upper 5 ++ alarmed .upper 11 ++ [.sleep .upper]

set_option maxRecDepth 100000 in
theorem saturated_circular_wait : ∃ tr s,
    Runs [beforeShutdown,workersOnly,noFailingSemop] (sample 38) tr s ∧ CircularWait s := by
  have hr : reaches [beforeShutdown,workersOnly,noFailingSemop] (sample 38) saturatedRun
      (fun _ s => (s.worker .lower).pc == .lower (.dispatchWait .timeout) &&
        (s.worker .lower).asleep && !s.lower.pending.isEmpty && s.sem .chairs == 0 &&
        (s.worker .upper).isInitiator && (s.worker .upper).pc == .resume .receive &&
        (s.worker .upper).asleep && (receiveWorker s .upper).isNone) = true := by decide +kernel
  obtain ⟨tr,s,h,ht⟩ := exists_run hr
  simp only [Bool.and_eq_true,beq_iff_eq,Bool.not_eq_true',Option.isNone_iff_eq_none] at ht
  obtain ⟨⟨⟨⟨⟨⟨⟨h1,h2⟩,h3⟩,h4⟩,h5⟩,h6⟩,h7⟩,h8⟩ := ht
  have hpend : s.lower.pending ≠ [] := by
    intro he
    simp [he] at h3
  exact ⟨tr,s,h,⟨_,h1⟩,h2,hpend,h4,h5,h6,h7,h8⟩

end Ropeway
