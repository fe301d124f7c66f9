import Ropeway.Handshake.View
import Ropeway.Handshake.Flag
import Ropeway.Frames.Starts
import Ropeway.Handshake.Tokens

/-! The emergency handshake of the program, carried over from the protocol. -/

namespace Ropeway
open Handshake

variable {n : Nat} {s s' : Sys n} {a : Act n} {u : Setup n} {tr : List (Sys n × Act n)}

/-- The log of resumes: complete rounds, and at the end the part of a round that
has been reached. In a round the initiator offers, the other worker takes the
offer and answers, the initiator hears the answer and resumes. -/
def Matched (log : List Event) : Prop :=
  ∃ (rs : List Role) (w : Role) (k : Nat), k < (roundOf w).length ∧ log = rs.flatMap roundOf ++ (roundOf w).take k

structure HandshakeSafe (tr : List (Sys n × Act n)) (s : Sys n) : Prop where
  lock : s.sem .emergencyLock = 0 ∨ s.sem .emergencyLock = 1
  single : ¬((ledger tr).held .lower = true ∧ (ledger tr).held .upper = true)
  agree : s.sem .emergencyLock = 0 ↔ ∃ r, (ledger tr).held r = true
  entered : ∀ r p, (s.worker r).pc = .resume p → p ≠ .finish → (ledger tr).held r = true
  matched : Matched (ledger tr).log
  ready : ∀ r m q, (s.worker r).pc = .ack .receive → receiveWorker s r = some (m,q) →
    m.msgType = .readyToResume
  answer : ∀ r m q, (s.worker r).pc = .resume .receive → receiveWorker s r = some (m,q) →
    m.msgType = .iAmReady

theorem session_matched {v : Protocol} (h : Session v) : Matched v.log := by
  cases h with
  | free rs _ _ _ log => exact ⟨rs,.lower,0,by simp [roundOf],by simp [log]⟩
  | busy w k rs _ stage log => exact ⟨rs,w,k,by cases stage <;> simp [roundOf],log⟩

theorem resume_owns {p : ResumePc} (h : p ≠ .finish) : owns (phaseOf (.resume p)) = true := by
  cases p <;> first | rfl | exact absurd rfl h

/-- The invariants of the protocol carry over to the program. -/
theorem handshake_safe_of (x : Exclusive (protocol tr s)) (hs : Session (protocol tr s)) :
    HandshakeSafe tr s := by
  have hsum := x.sum .lower
  have hlock : s.sem .emergencyLock + ((ledger tr).held .lower).toNat +
      ((ledger tr).held .upper).toNat = 1 := hsum
  refine ⟨?_,?_,?_,?_,session_matched hs,?_,?_⟩
  · omega
  · rintro ⟨hl,hu⟩
    rw [hl,hu] at hlock
    simp at hlock
  · constructor
    · intro hz
      rw [hz] at hlock
      cases hl : (ledger tr).held .lower with
      | true => exact ⟨.lower,hl⟩
      | false =>
        refine ⟨.upper,?_⟩
        cases hu : (ledger tr).held .upper with
        | true => rfl
        | false => simp [hl,hu] at hlock
    · rintro ⟨r,hr⟩
      exact (x.only hr).1
  · intro r p hp hne
    apply x.owner r
    rw [protocol,view_phase _ hp]
    exact resume_owns hne
  · intro r m q hp hm
    have hw : (protocol tr s).phase r = .waiting := view_phase _ hp
    obtain ⟨rfl,-⟩ := hs.take hw hm
    rfl
  · intro r m q hp hm
    have hw : (protocol tr s).phase r = .listening := view_phase _ hp
    obtain ⟨-,rfl,-⟩ := hs.hear x hw hm
    rfl

/-- Only the wait before raising the flag can fail for the protocol. -/
theorem no_failure {a : Act n} {r : Role} (h : triggerUninterrupted r tr s a = true) :
    ¬(faults s a).fails r := by
  intro hf
  cases a with
  | deliver q sig =>
    have hset : fails s r (.deliver q sig) = true := hf
    simp only [fails] at hset
    simp [triggerUninterrupted,hset] at h
  | _ => cases hf

theorem never_fails {rules : List (Env n)} (hl : triggerUninterrupted .lower ∈ rules)
    (hu : triggerUninterrupted .upper ∈ rules) :
    ∀ tr s a, allow rules tr s a = true → ∀ r, ¬(faults s a).fails r := by
  intro tr s a allowed
  exact Role.both .lower (no_failure (allow_mem hl allowed)) (no_failure (allow_mem hu allowed))

/-- An invariant of the protocol that rests on its one holder and its log. -/
theorem run_session {rules : List (Env n)} (I : Protocol → Prop)
    (ok : ∀ tr s a, allow rules tr s a = true → ∀ r, ¬(faults s a).fails r)
    (start : I Handshake.start)
    (preserve : ∀ tr s a v', Exclusive (protocol tr s) → Session (protocol tr s) →
      I (protocol tr s) → allow rules tr s a = true → Turn (faults s a) (protocol tr s) v' → I v')
    (h : Runs rules u tr s) :
    Exclusive (protocol tr s) ∧ Session (protocol tr s) ∧ I (protocol tr s) := by
  refine run_protocol (fun v => Exclusive v ∧ Session v ∧ I v)
    ⟨start_exclusive,start_session,start⟩ ?_ h
  intro tr s a v' hi allowed t
  obtain ⟨x,hs,hinv⟩ := hi
  have hf := ok tr s a allowed
  exact ⟨x.turn hf t,hs.turn x hf t,preserve tr s a v' x hs hinv allowed t⟩

/-- However the two workers are interleaved and signalled, there is one emergency
at a time and every resume is matched by one acknowledgement. -/
theorem handshake_safe
    (h : Runs [triggerUninterrupted .lower,triggerUninterrupted .upper] u tr s) :
    HandshakeSafe tr s := by
  obtain ⟨x,hs,-⟩ := run_session (fun _ => True) (never_fails (by simp) (by simp)) trivial
    (fun _ _ _ _ _ _ _ _ _ => trivial) h
  exact handshake_safe_of x hs

def oneEmergency : List (Act 1) :=
  reachPlatform 0 ++ alarmed .lower 19 ++ [.deliver .upper .usr1] ++ safe .upper 4 ++
    safe .lower 4 ++ safe .upper 5 ++ safe .lower 11

theorem handshake_safe_once : ∃ tr s,
    Runs [triggerUninterrupted .lower,triggerUninterrupted .upper] (sample 1) tr s ∧
      (ledger tr).log = roundOf .lower ∧ HandshakeSafe tr s := by
  have hr : reaches [triggerUninterrupted .lower,triggerUninterrupted .upper] (sample 1)
      oneEmergency (fun tr _ => (ledger tr).log == roundOf .lower) = true := by decide +kernel
  obtain ⟨tr,s,h,ht⟩ := exists_run hr
  exact ⟨tr,s,h,by simpa using ht,handshake_safe h⟩

/-- From the moment an initiator has set `emergency_stop` until it sends
READY_TO_RESUME the flag is 1. -/
def FlagKept (tr : List (Sys n × Act n)) (s : Sys n) : Prop :=
  ∀ r, (ledger tr).opened r = true → s.shm.emergencyStop = true

/-- An initiator does not set the flag while the other worker is between its
I_AM_READY and its own clearing of the flag. -/
def noLateClear : Env n := fun _ s a =>
  match a with
  | .worker r _ => !late s r
  | _ => true

theorem no_late {a : Act n} (h : noLateClear tr s a = true) : ¬(faults s a).late := by
  rintro ⟨r,x,rfl,hl⟩
  simp [noLateClear,hl] at h

theorem semop_no_failure {a : Act n} (h : noFailingSemop tr s a = true) :
    ∀ r, ¬(faults s a).fails r := by
  intro r hf
  cases a with
  | deliver q sig =>
    simp only [faults,fails,Bool.and_eq_true,beq_iff_eq] at hf
    obtain ⟨⟨-,hasleep⟩,hpc⟩ := hf
    simp [noFailingSemop,hasleep,hpc,inSemop] at h
  | _ => cases hf

/-- When no initiator sets the flag ahead of a late clear, the flag of an open
emergency is never lost. -/
theorem flag_kept (h : Runs [workersOnly,noFailingSemop,noLateClear] u tr s) :
    FlagKept tr s := by
  have ok : ∀ tr s a, allow [workersOnly,noFailingSemop,noLateClear (n := n)] tr s a = true →
      ∀ r, ¬(faults s a).fails r :=
    fun _ _ _ allowed => semop_no_failure (allow_mem (by simp) allowed)
  obtain ⟨-,-,hflag⟩ := run_session Flagged ok start_flagged (by
    intro tr s a v' x hs hf allowed t
    exact hf.turn x hs (no_late (allow_mem (by simp) allowed)) (ok tr s a allowed) t) h
  intro r hr
  exact (hflag r hr).stop

theorem flag_kept_in_emergency : ∃ tr s,
    Runs [workersOnly,noFailingSemop,noLateClear] (sample 1) tr s ∧
      (ledger tr).opened .lower = true ∧ FlagKept tr s := by
  have hr : reaches [workersOnly,noFailingSemop,noLateClear] (sample 1)
      (reachPlatform 0 ++ alarmed .lower 19) (fun tr _ => (ledger tr).opened .lower) = true := by
    decide +kernel
  obtain ⟨tr,s,h,ht⟩ := exists_run hr
  exact ⟨tr,s,h,ht,flag_kept h⟩

/-- The upper worker answers and is delayed, the lower worker resumes and meets the
next danger, and only then does the upper worker clear the flag. -/
def lateClear : List (Act 2) :=
  reachPlatform 0 ++ alarmed .lower 19 ++ [.deliver .upper .usr1] ++ safe .upper 4 ++
    safe .lower 4 ++ safe .upper 2 ++ safe .lower 11 ++ reachPlatform 1 ++ alarmed .lower 18 ++
    safe .upper 2

theorem late_clear_loses_flag : ∃ tr s,
    Runs [beforeShutdown,workersOnly,noFailingSemop] (sample 2) tr s ∧ ¬FlagKept tr s := by
  have hr : reaches [beforeShutdown,workersOnly,noFailingSemop] (sample 2) lateClear
      (fun tr s => (ledger tr).opened .lower && !s.shm.emergencyStop) = true := by
    decide +kernel
  obtain ⟨tr,s,h,ht⟩ := exists_run hr
  simp only [Bool.and_eq_true,Bool.not_eq_true'] at ht
  refine ⟨tr,s,h,?_⟩
  intro hkept
  rw [hkept .lower ht.1] at ht
  cases ht.2

/-- No emergency begins at the simulated time 0. -/
def noZeroStart : Env n := fun _ s a =>
  match a with
  | .worker r _ => !((s.worker r).pc == .trigger .stamp && s.shm.currentSimTimeMs == 0)
  | _ => true

def Dated (s : Sys n) : Prop := ∀ r, (s.worker r).isInitiator = true → 0 < (s.worker r).emergencyStart

theorem Dated.step (h : Dated s) (hown : ∀ r, ownPc r (s.worker r).pc = true)
    (ok : noZeroStart tr s a = true) (hs : step s a = some s') : Dated s' := by
  by_cases ha : a.outside = true
  · intro r
    rw [(outside_same ha hs).worker]
    exact h r
  by_cases hw : ∃ r x, a = .worker r x
  · obtain ⟨r,x,rfl⟩ := hw
    refine r.both ?_ ?_
    · intro hi
      by_cases hp : (s.worker r).pc = .trigger .stamp
      · simp only [noZeroStart,hp,beq_self_eq_true,Bool.true_and,Bool.not_eq_true',beq_eq_false_iff_ne] at ok
        simp only [Ropeway.step,workerStep,hp] at hs
        cases hs
        simpa using Nat.pos_of_ne_zero ok
      by_cases hf : (s.worker r).pc = .resume .finish
      · simp only [Ropeway.step,workerStep,hf] at hs
        cases hs
        simp at hi
      · have hk := worker_same (hown r) hp hf hs
        rw [hk.start]
        exact h r (hk.init hi)
    · obtain ⟨p,q,hpeer⟩ := worker_peer (hown r) hs
      rw [hpeer]
      exact h r.other
  · obtain ⟨r,w,rfl,-,hi,hst⟩ :=
      signal_record hown (by simpa using ha) (fun r x he => hw ⟨r,x,he⟩) hs
    refine r.both ?_ (by simpa using h r.other)
    simp only [Sys.setWorker_worker,Function.update_self,hi,hst]
    exact h r

theorem run_dated {rules : List (Env n)} (ok : noZeroStart ∈ rules) (h : Runs rules u tr s) : Dated s := by
  refine run_invariant (fun _ s => Dated s) ?_ ?_ h
  · intro r hr
    cases hr
  · intro tr s a s' hown hi allowed hs
    exact hi.step hown (allow_mem ok allowed) hs

def midnight : Setup 1 :=
  { sample 1 with
    cfg := { sampleConfig with simStartHour := 0 }
    valid := by decide
    sem := semValues { sampleConfig with simStartHour := 0 }
    created := by decide }

end Ropeway
