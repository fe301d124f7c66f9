import Ropeway.Frames.Workers
import Ropeway.Handshake.Session

/-! The workers follow the protocol: every step of the system, seen through
`view`, is a turn of it. -/

namespace Ropeway
open Function (update)
open Handshake

variable {n : Nat} {s s' : Sys n} {r : Role}

def phaseOf : WorkerPc → Phase
  | .trigger .tryWait => .trying
  | .trigger .stamp => .stamping
  | .trigger .waitState => .setting
  | .trigger .setFlag => .raising
  | .trigger .postState | .trigger .kill => .calling
  | .trigger .unlock => .retreating
  | .ack .waitState | .ack .setFlag => .stopping
  | .ack .postState | .ack .receive => .waiting
  | .ack .send => .answering
  | .ack .waitClear | .ack .clear => .clearing
  | .ack .postClear => .cleared
  | .resume .send => .offering
  | .resume .receive => .listening
  | .resume .finish => .closed
  | .resume _ => .closing
  | _ => .loop

/-- The history of the protocol: who is between a successful try for the lock
and its release, who has raised the flag and not yet offered to resume, and the
visible actions of the resumes. -/
structure Ledger where
  held : Role → Bool
  opened : Role → Bool
  log : List Event

def Ledger.blank : Ledger := ⟨fun _ => false, fun _ => false, []⟩

def Ledger.note (g : Ledger) (s : Sys n) : Act n → Ledger
  | .worker r _ =>
    match (s.worker r).pc with
    | .trigger .tryWait =>
      if 0 < s.sem .emergencyLock then { g with held := update g.held r true } else g
    | .trigger .setFlag => { g with opened := update g.opened r true }
    | .trigger .unlock => { g with held := update g.held r false }
    | .ack .receive => { g with log := g.log ++ [.taken r] }
    | .ack .send => { g with log := g.log ++ [.answered r] }
    | .resume .send => { g with opened := update g.opened r false, log := g.log ++ [.offered r] }
    | .resume .receive => { g with log := g.log ++ [.heard r] }
    | .resume .unlock => { g with held := update g.held r false, log := g.log ++ [.resumed r] }
    | _ => g
  | _ => g

def ledger (tr : List (Sys n × Act n)) : Ledger := Lib.history Ledger.note .blank tr

def view (g : Ledger) (s : Sys n) : Protocol where
  lock := s.sem .emergencyLock
  stop := s.shm.emergencyStop
  mq := s.mqWorker
  phase := fun q => phaseOf (s.worker q).pc
  signalled := fun q => (s.worker q).emergencySignal
  pending := fun q => (s.worker q).pendingUsr1
  initiator := fun q => (s.worker q).isInitiator
  held := g.held
  opened := g.opened
  log := g.log

/-- The next step of worker `r` enters the acknowledgement although no signal
flag was seen: the lock is taken, or the loop check of the lower worker has read a
raised flag. -/
def straying (s : Sys n) (r : Role) : Bool :=
  match (s.worker r).pc with
  | .trigger .tryWait => s.sem .emergencyLock == 0
  | .lower .checkPost => (s.worker .lower).emergency
  | _ => false

theorem fun_update {α β γ : Type} [DecidableEq α] (f : β → γ) (g : α → β) (a : α) (b : β) :
    (fun q => f (update g a b q)) = update (fun q => f (g q)) a (f b) := by
  funext q
  exact Function.apply_update (fun _ => f) g a b q

/-- The next step of worker `r` sets the flag while the other one has answered and
not yet cleared it. -/
def late (s : Sys n) (r : Role) : Bool :=
  (s.worker r).pc == .trigger .setFlag && phaseOf (s.worker r.other).pc == .clearing

def intrudes : Act n → Bool
  | .kill _ .usr1 => true
  | _ => false

/-- The action interrupts the wait for `SEM_STATE` of worker `r`, which starts an
emergency. -/
def fails (s : Sys n) (r : Role) : Act n → Bool
  | .deliver q _ => q == r && (s.worker q).asleep && (s.worker q).pc == .trigger .waitState
  | _ => false

def faults (s : Sys n) (a : Act n) : Faults where
  stray := ∃ r x, a = .worker r x ∧ straying s r = true
  late := ∃ r x, a = .worker r x ∧ late s r = true
  outside := intrudes a = true
  fails := fun r => fails s r a = true

theorem view_phase (g : Ledger) {p : WorkerPc} (hp : (s.worker r).pc = p) :
    (view g s).phase r = phaseOf p := by
  simp [view,hp]

theorem view_setWorker (g : Ledger) (s : Sys n) (r : Role) (w : Worker) :
    view g (s.setWorker r w) = { view g s with
      phase := update (view g s).phase r (phaseOf w.pc)
      signalled := update (view g s).signalled r w.emergencySignal
      pending := update (view g s).pending r w.pendingUsr1
      initiator := update (view g s).initiator r w.isInitiator } := by
  have hp := fun_update (fun w => phaseOf w.pc) s.worker r w
  simp [view,fun_update,hp]

theorem view_goto (g : Ledger) (s : Sys n) (r : Role) (pc : WorkerPc) :
    view g (s.goto r pc) = { view g s with phase := update (view g s).phase r (phaseOf pc) } := by
  rw [Sys.goto,view_setWorker]
  simp [view]

/-- Going on inside one phase does not show. -/
theorem view_still (g : Ledger) {p pc : WorkerPc} (hp : (s.worker r).pc = p)
    (h : phaseOf pc = phaseOf p) : view g (s.goto r pc) = view g s := by
  rw [view_goto,h,← hp]
  simp [view]

theorem view_enterAck (g : Ledger) (s : Sys n) (r : Role) :
    view g (s.enterAck r) = { view g s with
      phase := update (view g s).phase r .stopping
      initiator := update (view g s).initiator r false } := by
  rw [Sys.enterAck,view_setWorker]
  simp [view,show phaseOf (.ack .waitState) = .stopping from rfl]

/-- A worker record that differs in nothing the protocol sees. -/
theorem view_same (g : Ledger) {w : Worker} (hp : phaseOf w.pc = phaseOf (s.worker r).pc)
    (hs : w.emergencySignal = (s.worker r).emergencySignal)
    (hu : w.pendingUsr1 = (s.worker r).pendingUsr1)
    (hi : w.isInitiator = (s.worker r).isInitiator) : view g (s.setWorker r w) = view g s := by
  rw [view_setWorker,hp,hs,hu,hi]
  simp [view]

/-- Among the semaphores the protocol sees only its lock. -/
theorem view_sem (g : Ledger) (s : Sys n) {i : Sem} (k : Nat) (hi : i ≠ .emergencyLock) :
    view g { s with sem := update s.sem i k } = view g s := by
  simp [view,hi.symm]

theorem view_semPost (g : Ledger) (s : Sys n) {i : Sem} (k : Nat) (hi : i ≠ .emergencyLock) :
    view g (semPost s i k) = view g s := view_sem g s _ hi

theorem trigger_move (g : Ledger) {p : TriggerPc} (hp : (s.worker r).pc = .trigger p)
    (h : workerTriggerEmergencyStop r s p = some s') (x : Nat) :
    Move (faults s (.worker r x)) r (view g s) (view (g.note s (.worker r x)) s') := by
  have hv := view_phase g hp
  simp only [Ledger.note,hp]
  cases p with
  | tryWait =>
    by_cases hl : 0 < s.sem .emergencyLock
    · have hw : semWait s .emergencyLock 1 = some _ := if_pos hl
      simp only [workerTriggerEmergencyStop,hw] at h
      cases h
      rw [if_pos hl,view_goto]
      apply Move.of_eq (.win hv hl)
      simp [view,show phaseOf (.trigger .stamp) = .stamping from rfl]
    · have hw : semWait s .emergencyLock 1 = none := if_neg hl
      simp only [workerTriggerEmergencyStop,hw] at h
      cases h
      rw [if_neg hl,view_enterAck]
      refine .stray ?_ (.inr hv)
      exact ⟨r,x,rfl,by simpa [straying,hp] using hl⟩
  | stamp =>
    cases h
    rw [view_setWorker]
    apply Move.of_eq (.stamp hv)
    simp [view,show phaseOf (.trigger .waitState) = .setting from rfl]
  | waitState =>
    obtain ⟨-,rfl⟩ := sem_wait_map h
    rw [view_goto,view_sem _ _ _ (by decide)]
    exact .ready hv
  | setFlag =>
    cases h
    rw [view_goto]
    refine .raise hv ?_
    intro hc
    have hc' : phaseOf (s.worker r.other).pc = .clearing := hc
    exact ⟨r,x,rfl,by simp [late,hp,hc']⟩
  | postState =>
    cases h
    rw [view_still _ (by exact hp) (by rfl),view_semPost _ _ _ (by decide)]
    exact .rest
  | kill =>
    cases h
    rw [view_goto,view_setWorker]
    apply Move.of_eq (.call hv)
    simp [view,show phaseOf .top = .loop from rfl]
  | unlock =>
    cases h
    rw [view_goto]
    apply Move.of_eq (.retreat hv)
    simp [view,show phaseOf .top = .loop from rfl]

theorem ack_move (g : Ledger) {p : AckPc} (hp : (s.worker r).pc = .ack p)
    (h : workerAcknowledgeEmergencyStop r s p = some s') (x : Nat) (f : Faults) :
    Move f r (view g s) (view (g.note s (.worker r x)) s') := by
  have hv := view_phase g hp
  simp only [Ledger.note,hp]
  cases p with
  | waitState =>
    obtain ⟨-,rfl⟩ := sem_wait_map h
    rw [view_still _ (by exact hp) (by rfl),view_sem _ _ _ (by decide)]
    exact .rest
  | setFlag =>
    cases h
    rw [view_goto]
    exact .mark hv
  | postState =>
    cases h
    rw [view_still _ (by exact hp) (by rfl),view_semPost _ _ _ (by decide)]
    exact .rest
  | receive =>
    obtain ⟨⟨m,q⟩,hm,rfl⟩ := Option.map_eq_some_iff.mp h
    rw [view_goto]
    exact .take hv hm
  | send =>
    cases h
    rw [view_goto]
    exact .answer hv
  | waitClear =>
    obtain ⟨-,rfl⟩ := sem_wait_map h
    rw [view_still _ (by exact hp) (by rfl),view_sem _ _ _ (by decide)]
    exact .rest
  | clear =>
    cases h
    rw [view_goto]
    exact .clear hv
  | postClear =>
    cases h
    rw [view_goto,view_semPost _ _ _ (by decide)]
    exact .back hv

theorem resume_move (g : Ledger) {p : ResumePc} (hp : (s.worker r).pc = .resume p)
    (h : workerInitiateResume r s p = some s') (x : Nat) (f : Faults) :
    Move f r (view g s) (view (g.note s (.worker r x)) s') := by
  have hv := view_phase g hp
  simp only [Ledger.note,hp]
  cases p with
  | send =>
    cases h
    rw [view_goto]
    exact .offer hv
  | receive =>
    obtain ⟨⟨m,q⟩,hm,rfl⟩ := Option.map_eq_some_iff.mp h
    rw [view_goto]
    exact .hear hv hm
  | kill =>
    cases h
    rw [view_still _ (by simpa using hp) (by rfl),view_setWorker]
    apply Move.of_eq .rest
    simp [view]
  | waitState | releaseWait =>
    obtain ⟨-,rfl⟩ := sem_wait_map h
    rw [view_still _ (by exact hp) (by rfl),view_sem _ _ _ (by decide)]
    exact .rest
  | clear =>
    cases h
    rw [view_still _ (by exact hp) (by rfl)]
    exact .reopen hv
  | postState | releasePost | releaseTokens =>
    cases h
    rw [view_still _ (by exact hp) (by rfl),view_semPost _ _ _ (by decide)]
    exact .rest
  | releaseTake =>
    cases h
    rw [view_still _ (by exact hp) (by rfl)]
    exact .rest
  | unlock =>
    cases h
    rw [view_goto]
    apply Move.of_eq (.release hv)
    simp [view,show phaseOf (.resume .finish) = .closed from rfl]
  | finish =>
    cases h
    rw [view_setWorker]
    apply Move.of_eq (.finish hv)
    simp [view,show phaseOf .top = .loop from rfl]

theorem danger_move (g : Ledger) (hp : (s.worker r).pc = .danger) (x : Nat) (f : Faults) :
    Move f r (view g s) (view g (checkForDanger r s x)) := by
  have hv := view_phase g hp
  have hstill : view g (s.goto r .top) = view g s := view_still _ hp rfl
  simp only [checkForDanger]
  split
  · rw [hstill]
    exact .rest
  · split
    · rw [hstill]
      exact .rest
    · split
      · rw [view_setWorker]
        apply Move.of_eq (.alarm hv)
        simp [view,show phaseOf (.trigger .tryWait) = .trying from rfl]
      · rw [hstill]
        exact .rest

theorem head_move (g : Ledger) {p : WorkerPc} (hp : (s.worker r).pc = p)
    (h : workerLoopHead r s p = some s') (f : Faults) :
    Move f r (view g s) (view g s') := by
  have hv := view_phase g hp
  cases p with
  | top =>
    simp only [workerLoopHead] at h
    split at h
    · cases r <;> cases h <;> exact .still (view_still g hp rfl)
    · split at h
      · rename_i hsig
        cases h
        rw [view_enterAck,view_setWorker]
        apply Move.of_eq (.heed hv hsig)
        simp [view]
      · cases h
        exact .still (view_still g hp rfl)
  | checkResume =>
    cases h
    exact .still (view_same g (by rw [hp]; rfl) rfl rfl rfl)
  | checkInitiator =>
    simp only [workerLoopHead] at h
    split at h
    · rename_i hinit
      split at h
      · cases h
        rw [view_goto]
        exact .enter hv hinit.1
      · cases h
        exact .still (view_still g hp rfl)
    · cases r <;> cases h <;> exact .still (view_still g hp rfl)
  | pauseArm =>
    cases h
    exact .still (view_same g (by rw [hp]; rfl) rfl rfl rfl)
  | _ => cases h

theorem after_dispatch_view (g : Ledger) {p : LowerPc} (hp : (s.worker .lower).pc = .lower p)
    (l : LowerLocals) (site : Site) :
    view g (afterDispatch { s with lower := l } site) = view g s := by
  cases site <;> exact view_still g hp rfl

theorem lower_move (g : Ledger) {p : LowerPc} (hp : (s.worker .lower).pc = .lower p) {x : Nat}
    (h : lowerWorkerMain s x p = some s') :
    Move (faults s (.worker .lower x)) .lower (view g s) (view g s') := by
  have hv := view_phase g hp
  cases p with
  | checkWait | recheckWait =>
    obtain ⟨-,rfl⟩ := sem_wait_map h
    rw [view_still _ (by exact hp) (by rfl),view_sem _ _ _ (by decide)]
    exact .rest
  | checkRead | recheckRead | arm =>
    cases h
    exact .still (view_same g (by rw [hp]; rfl) rfl rfl rfl)
  | checkPost =>
    simp only [lowerWorkerMain] at h
    split at h
    · rename_i hs
      cases h
      rw [view_enterAck,view_semPost _ _ _ (by decide)]
      exact .stray ⟨.lower,x,rfl,by simpa [straying,hp] using hs⟩ (.inl hv)
    · cases h
      rw [view_still _ (by exact hp) (by rfl),view_semPost _ _ _ (by decide)]
      exact .rest
  | receive =>
    obtain ⟨⟨m,q⟩,hm,rfl⟩ := Option.map_eq_some_iff.mp h
    exact .still (view_same g (by rw [hp]; rfl) rfl rfl rfl)
  | recheckPost =>
    simp only [lowerWorkerMain] at h
    split at h
    all_goals
      cases h
      rw [view_still _ (by exact hp) (by rfl),view_semPost _ _ _ (by decide)]
      exact .rest
  | requeueStop | requeue =>
    cases h
    exact .still (view_still g hp rfl)
  | place =>
    simp only [lowerWorkerMain] at h
    repeat' split at h
    all_goals
      cases h
      exact .still (view_still g hp rfl)
  | dispatchWait site =>
    simp only [lowerWorkerMain] at h
    split at h
    · cases h
      exact .still (after_dispatch_view g hp s.lower site)
    · obtain ⟨-,rfl⟩ := sem_wait_map h
      rw [view_still _ (by exact hp) (by rfl)]
      exact .still (view_sem (i := .chairs) g s (s.sem .chairs - 1) (by decide))
  | dispatchSend site i =>
    simp only [lowerWorkerMain] at h
    split at h
    · cases h
      exact .still (view_still g hp rfl)
    · cases h
      exact .still (after_dispatch_view g hp { s.lower with pending := [] } site)

theorem upper_move (g : Ledger) {p : UpperPc} (hp : (s.worker .upper).pc = .upper p)
    (h : upperWorkerMain s p = some s') (f : Faults) :
    Move f .upper (view g s) (view g s') := by
  cases p with
  | receive =>
    obtain ⟨⟨m,q⟩,hm,rfl⟩ := Option.map_eq_some_iff.mp h
    exact .still (view_still g hp rfl)
  | track =>
    simp only [upperWorkerMain] at h
    repeat' split at h
    all_goals
      cases h
      exact .still (view_still g hp rfl)
  | release =>
    cases h
    rw [view_still _ (by exact hp) (by rfl)]
    exact .still (view_semPost (i := .chairs) g s 1 (by decide))

theorem worker_move (g : Ledger) (hown : ownPc r (s.worker r).pc = true) {x : Nat}
    (h : workerStep s r x = some s') :
    Move (faults s (.worker r x)) r (view g s) (view (g.note s (.worker r x)) s') := by
  cases worker_runs h with
  | danger hp hs =>
    rw [hs]
    simpa only [Ledger.note,hp] using danger_move g hp x _
  | trigger hp hs => exact trigger_move g hp hs x
  | ack hp hs => exact ack_move g hp hs x _
  | resume hp hs => exact resume_move g hp hs x _
  | lower hp hs =>
    obtain rfl := own_lower hown hp
    simpa only [Ledger.note,hp] using lower_move g hp hs
  | upper hp hs =>
    obtain rfl := own_upper hown hp
    simpa only [Ledger.note,hp] using upper_move g hp hs _
  | @head p hp idle hs =>
    have hnote : g.note s (.worker r x) = g := by
      cases p with
      | top | checkResume | checkInitiator | pauseArm => simp only [Ledger.note,hp]
      | _ => cases hs
    rw [hnote]
    exact head_move g hp hs _

theorem view_outside (g : Ledger) (h : SameWorkers s s') : view g s' = view g s := by
  simp [view,h.worker,h.lock,h.stop,h.mqWorker]

theorem note_outside (g : Ledger) (s : Sys n) {a : Act n} (h : ∀ r x, a ≠ .worker r x) :
    g.note s a = g := by
  unfold Ledger.note
  split
  · exact absurd rfl (h _ _)
  · rfl

/-- What the handler changes for the protocol. -/
theorem handler_view (g : Ledger) {w : Worker} {sig : Signal}
    (h : handler (s.worker r) sig = some w) :
    view g (s.setWorker r w) = view g s ∨
      (view g s).pending r = true ∧ view g (s.setWorker r w) = (view g s).handled r := by
  cases sig <;> simp only [handler] at h
  case usr1 =>
    split at h
    · rename_i hp
      cases h
      refine .inr ⟨hp,?_⟩
      rw [view_setWorker]
      simp [view,Protocol.handled]
    · cases h
  case cont =>
    cases h
    exact .inl (view_same g rfl rfl rfl rfl)
  all_goals
    split at h
    · cases h
      exact .inl (view_same g rfl rfl rfl rfl)
    · cases h

theorem wake_phase {l : LowerLocals} {pc : WorkerPc} (h : pc ≠ .trigger .waitState) :
    phaseOf (wakePc l pc) = phaseOf pc := by
  unfold wakePc
  repeat' split
  all_goals first | rfl | exact absurd rfl h

theorem deliver_turn (g : Ledger) {sig : Signal} (hown : ownPc r (s.worker r).pc = true)
    (h : deliverSignal s r sig = some s') :
    Turn (faults s (.deliver r sig)) (view g s) (view g s') := by
  obtain ⟨w,hw,⟨-,rfl⟩ | ⟨hwake,al,rfl⟩⟩ := deliver_eq hown h
  · rcases handler_view g hw with he | ⟨hp,he⟩
    · rw [he]
      exact .move r .rest
    · rw [he]
      exact .handle r hp
  · obtain ⟨hpc,hinit,-⟩ := handler_frame hw
    by_cases hset : (s.worker r).pc = .trigger .waitState
    · have hasleep := wakes_asleep hwake
      have hv := view_phase g hset
      have he : view g (s.setWorker r { w with
          pc := wakePc s.lower (s.worker r).pc, asleep := false, alarm := al }) =
          { view g (s.setWorker r w) with phase := update (view g s).phase r .retreating } := by
        rw [view_setWorker,view_setWorker,hset]
        rfl
      rw [he]
      exact .fail r (by simp [faults,fails,hasleep,hset]) hv (handler_view g hw)
    · have he : view g (s.setWorker r { w with
          pc := wakePc s.lower (s.worker r).pc, asleep := false, alarm := al }) =
          view g (s.setWorker r w) := by
        rw [view_setWorker,view_setWorker,wake_phase hset,hpc]
      rw [he]
      rcases handler_view g hw with hs | ⟨hp,hs⟩
      · rw [hs]
        exact .move r .rest
      · rw [hs]
        exact .handle r hp

theorem kill_turn (g : Ledger) {sig : Signal} {w : Worker}
    (h : (s.worker r).signal sig = some w) :
    Turn (faults s (.kill r sig)) (view g s) (view g (s.setWorker r w)) := by
  cases sig <;> cases h
  case usr1 =>
    have he : view g (s.setWorker r { s.worker r with pendingUsr1 := true }) =
        { view g s with pending := update (view g s).pending r true } := by
      rw [view_setWorker]
      simp [view]
    rw [he]
    exact .signal rfl r
  case usr2 => exact .move r (.still (view_same g rfl rfl rfl rfl))

/-- Seen as protocol, every step of the system is one turn. -/
theorem step_turn (g : Ledger) {a : Act n} (hown : ∀ r, ownPc r (s.worker r).pc = true)
    (h : step s a = some s') :
    Turn (faults s a) (view g s) (view (g.note s a) s') := by
  by_cases ha : a.outside = true
  · rw [note_outside g s (by rintro r x rfl; cases ha),view_outside g (outside_same ha h)]
    exact .move .lower .rest
  · cases a with
    | worker r x => exact .move r (worker_move g (hown r) h)
    | sleep r =>
      simp only [step] at h
      split at h
      · cases h
        rw [note_outside g s (by simp)]
        exact .move r (.still (view_same g rfl rfl rfl rfl))
      · cases h
    | deliver r sig =>
      rw [note_outside g s (by simp)]
      exact deliver_turn g (hown r) h
    | kill r sig =>
      obtain ⟨w,hw,rfl⟩ := Option.map_eq_some_iff.mp h
      rw [note_outside g s (by simp)]
      exact kill_turn g hw
    | _ => simp [Act.outside] at ha

def protocol (tr : List (Sys n × Act n)) (s : Sys n) : Protocol := view (ledger tr) s

theorem step_protocol {a : Act n} (tr : List (Sys n × Act n))
    (hown : ∀ r, ownPc r (s.worker r).pc = true) (h : step s a = some s') :
    Turn (faults s a) (protocol tr s) (protocol (tr ++ [(s,a)]) s') := by
  simpa [protocol,ledger] using step_turn (ledger tr) hown h

theorem worker_protocol {x : Nat} (tr : List (Sys n × Act n))
    (hown : ownPc r (s.worker r).pc = true) (h : workerStep s r x = some s') :
    Move (faults s (.worker r x)) r (protocol tr s) (protocol (tr ++ [(s,.worker r x)]) s') := by
  simpa [protocol,ledger] using worker_move (ledger tr) hown h

theorem start_protocol (u : Setup n) : protocol [] u.start = Handshake.start := by
  have hsem := sem_create_values u.created
  simp [protocol,view,ledger,Setup.start,Handshake.start,hsem,semValues,SharedState.init,
    Worker.init,Ledger.blank,phaseOf]

/-- An invariant of the protocol is an invariant of the program: it is enough to
look at the turns its allowed steps make. -/
theorem run_protocol {rules : List (Env n)} {u : Setup n} {tr : List (Sys n × Act n)}
    (I : Protocol → Prop) (start : I Handshake.start)
    (preserve : ∀ tr s a s', I (protocol tr s) → allow rules tr s a = true →
      Turn (faults s a) (protocol tr s) s' → I s')
    (h : Runs rules u tr s) : I (protocol tr s) := by
  refine run_invariant (fun tr s => I (protocol tr s)) ?_ ?_ h
  · rw [start_protocol]
    exact start
  · intro tr s a s' hown hi allowed hstep
    exact preserve tr s a _ hi allowed (step_protocol tr hown hstep)

end Ropeway
