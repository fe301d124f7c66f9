import Ropeway.Initiator
import Ropeway.Frames.Traffic

/-! The lower worker between its SIGUSR1 and the end of its acknowledgement. -/

namespace Ropeway.Handshake
open Function (update)
variable {f : Faults} {v v' : Protocol} {r w : Role}

/-- A party in this phase has heard from its partner and goes on to clear the flag. -/
def settles : Phase → Bool
  | .answering | .clearing | .closing => true
  | _ => false

structure Standing (w : Role) (v : Protocol) : Prop where
  stop : v.stop = true
  deaf : settles (v.phase w) = false
  unanswered : ¬answered v w

theorem answered_of_receive {m : WorkerMsg} {q : List WorkerMsg} (got : v.receive w = some (m,q)) :
    answered v w := by
  obtain ⟨a,b,hq,-,ht,-⟩ := Lib.msgrcv_split (by cases w <;> decide) got
  exact ⟨m,by simp [hq],ht⟩

theorem Standing.own (h : Standing w v) (m : Move f w v v') : Standing w v' := by
  have hdeaf := h.deaf
  cases m with
  | rest => exact h
  | take hp got | hear hp got => exact absurd (answered_of_receive got) h.unanswered
  | answer hp | clear hp | reopen hp | release hp => simp [hp,settles] at hdeaf
  | offer hp =>
    refine ⟨h.stop,by simp [settles],?_⟩
    intro ha
    obtain ⟨m,hm,ht⟩ := ha
    rcases List.mem_append.mp hm with hm | hm
    · exact h.unanswered ⟨m,hm,ht⟩
    · rw [List.mem_singleton.mp hm] at ht
      exact w.dest_other_ne ht
  | raise | mark => exact ⟨rfl,by simp [settles],h.unanswered⟩
  | alarm | win | stamp | ready | call | retreat | heed | stray | back | enter | finish =>
    exact ⟨h.stop,by simp [settles],h.unanswered⟩

theorem Standing.other (h : Standing w v) (hl : v.phase w.other = .loop)
    (m : Move f w.other v v') : Standing w v' := by
  cases m with
  | rest => exact h
  | alarm | heed | stray | enter => exact ⟨h.stop,by simpa using h.deaf,h.unanswered⟩
  | win hp | stamp hp | ready hp | raise hp | call hp | retreat hp | mark hp | take hp | answer hp
  | clear hp | back hp | offer hp | hear hp | reopen hp | release hp | finish hp =>
    rw [hl] at hp
    cases hp

/-- Whatever goes wrong, the emergency stands while the partner of `w` is in its loop. -/
theorem Standing.turn (h : Standing w v) (hl : v.phase w.other = .loop) (t : Turn f v v') :
    Standing w v' := by
  cases t with
  | move r m =>
    rcases w.eq_or_other r with rfl | rfl
    · exact h.own m
    · exact h.other hl m
  | signal | handle => exact ⟨h.stop,h.deaf,h.unanswered⟩
  | @fail y r ok hp hy =>
    have hstop : y.stop = v.stop := by rcases hy with rfl | ⟨-,rfl⟩ <;> rfl
    have hmq : y.mq = v.mq := by rcases hy with rfl | ⟨-,rfl⟩ <;> rfl
    refine ⟨hstop.trans h.stop,?_,?_⟩
    · by_cases hr : w = r
      · simp [hr,settles]
      · simpa [hr] using h.deaf
    · unfold answered
      rw [hmq]
      exact h.unanswered

/-- A party loses its signal only by entering the acknowledgement. -/
theorem Move.keeps_signal (m : Move f r v v') (h : v.signalled r = true) :
    v'.signalled r = true ∨ v'.phase r = .stopping := by
  cases m with
  | heed => exact .inr (by simp)
  | _ => exact .inl h

/-- A holder of the lock that does not show has an empty mailbox. -/
theorem Session.quiet_mail (h : Session v) (x : Exclusive v) (hw : v.held w = true)
    (dark : visible (v.phase w) = none) : v.mq = [] := by
  obtain ⟨k,rs,stage,-⟩ := h.holder x hw
  cases stage with
  | idle self mq peer => exact mq
  | offered self | taken self | answered self | heard self => simp [self] at dark

/-- The partner of a holder cannot act as initiator. -/
theorem Exclusive.no_owner (x : Exclusive v) (hw : v.held w = true) :
    owns (v.phase w.other) = false := by
  cases ho : owns (v.phase w.other) with
  | false => rfl
  | true =>
    have hheld := x.owner w.other ho
    rw [(x.only hw).2] at hheld
    cases hheld

/-- When the answer to the holder `w` is there and its partner has left its acknowledgement,
the flag is down. -/
def Lowered (w : Role) (v : Protocol) : Prop :=
  v.held w = true → v.mq = [.to w .iAmReady] ∨ v.phase w = .closing →
    acknowledging (v.phase w.other) = false → v.phase w.other ≠ .clearing → v.stop = false

/-- A move of `w` that neither hears the answer nor touches flag, lock and mailbox. -/
theorem Lowered.keep (h : Lowered w v) (held : v'.held w = v.held w) (mq : v'.mq = v.mq)
    (stop : v'.stop = v.stop) (peer : v'.phase w.other = v.phase w.other)
    (self : v'.phase w ≠ .closing) : Lowered w v' := by
  intro hw hc ha hp
  rw [held] at hw
  rw [peer] at ha hp
  rw [stop]
  rcases hc with hm | hm
  · rw [mq] at hm
    exact h hw (.inl hm) ha hp
  · exact absurd hm self

theorem Lowered.silent (mq : v.mq = []) (self : v.phase w ≠ .closing) : Lowered w v := by
  intro _ hc
  rcases hc with hm | hm
  · simp [mq] at hm
  · exact absurd hm self

theorem Lowered.own (h : Lowered w v) (x : Exclusive v) (s : Session v) (m : Move f w v v') :
    Lowered w v' := by
  cases m with
  | rest => exact h
  | win hp free =>
    obtain ⟨rs,mq,-⟩ := s.alone (x.free free)
    exact .silent mq (by simp)
  | raise hp | mark hp =>
    intro hw
    have hmq := s.quiet_mail x hw (by simp [hp,visible])
    exact Lowered.silent hmq (by simp) hw
  | take hp got =>
    intro hw
    obtain ⟨-,-,hother,-⟩ := s.take hp got
    rw [(x.only hw).2] at hother
    cases hother
  | answer hp =>
    intro hw
    obtain ⟨-,hother,-⟩ := s.answer hp
    rw [(x.only hw).2] at hother
    cases hother
  | offer hp =>
    intro _ hc
    obtain ⟨hmq,-⟩ := s.offer x hp
    simp [hmq,WorkerMsg.to] at hc
  | hear hp got =>
    intro hw _ ha hc
    obtain ⟨hmq,-⟩ := s.hear x hp got
    exact h hw (.inl hmq) (by simpa using ha) (by simpa using hc)
  | clear | reopen =>
    intro _ _ _ _
    rfl
  | retreat | release =>
    intro hw
    simp at hw
  | alarm | stamp | ready | call | heed | stray | back | enter | finish =>
    exact h.keep (by simp) rfl rfl (by simp) (by simp)

theorem Lowered.other (h : Lowered w v) (x : Exclusive v) (m : Move f w.other v v') :
    Lowered w v' := by
  intro hw hc ha hp
  have hheld : v.held w = true := by
    have := m.held_other
    rw [Role.other_other] at this
    rw [← this]
    exact hw
  have hfree := x.no_owner hheld
  cases m with
  | rest => exact h hheld hc ha hp
  | win hq free =>
    rw [x.free free] at hheld
    cases hheld
  | stamp hq | ready hq | raise hq | call hq | retreat hq | offer hq | hear hq | reopen hq | release hq =>
    simp [hq,owns] at hfree
  | heed | stray | mark | take => simp [acknowledging] at ha
  | answer => simp at hp
  | clear => rfl
  | alarm hq | back hq | enter hq | finish hq =>
    exact h hheld (by simpa using hc) (by simp [hq,acknowledging]) (by simp [hq])

theorem Lowered.turn (h : Lowered w v) (x : Exclusive v) (s : Session v) (hf : ∀ r, ¬f.fails r)
    (t : Turn f v v') : Lowered w v' := by
  cases t with
  | move r m =>
    rcases w.eq_or_other r with rfl | rfl
    · exact h.own x s m
    · exact h.other x m
  | signal | handle => exact h
  | fail r ok => exact absurd ok (hf r)

theorem start_lowered (w : Role) : Lowered w start := by
  intro hw
  cases hw

/-- As long as no start of an emergency is interrupted, an emergency whose flag is up stands
until the partner acknowledges it. -/
theorem Lowered.standing (h : Lowered w v) (x : Exclusive v) (s : Session v) (l : Led v)
    (y : Yielded w v) (stop : v.stop = true) (held : v.held w = true)
    (ha : acknowledging (v.phase w.other) = false) (hc : v.phase w.other ≠ .clearing) :
    Standing w v := by
  have hopen : ¬(v.mq = [.to w .iAmReady] ∨ v.phase w = .closing) := by
    intro hm
    rw [h held hm ha hc] at stop
    cases stop
  refine ⟨stop,?_,?_⟩
  · have hled := l w held
    cases hp : v.phase w with
    | answering =>
      have hno := y (.inl (by rw [hp]; rfl))
      simp [hp,hno] at hled
    | clearing =>
      have hno := y (.inr (.inl hp))
      simp [hp,hno] at hled
    | closing => exact absurd (.inr hp) hopen
    | _ => rfl
  · intro ⟨m,hm,ht⟩
    obtain ⟨k,rs,stage,-⟩ := s.holder x held
    cases stage with
    | idle _ mq | taken _ mq | heard _ mq => simp [mq] at hm
    | offered _ mq =>
      rw [mq,List.mem_singleton] at hm
      rw [hm] at ht
      exact w.dest_other_ne ht
    | answered _ mq => exact hopen (.inl mq)

end Ropeway.Handshake

namespace Ropeway
open Handshake
variable {n : Nat} {s s' : Sys n} {a : Act n} {r : Role} {u : Setup n} {tr : List (Sys n × Act n)}

/-- The ledger, and whether the lower worker has been told to stop. -/
structure Watch where
  ledger : Ledger
  told : Bool

/-- The lower worker is told when its handler of SIGUSR1 runs in an emergency of the upper
worker, until it returns from an acknowledgement and no signal is left to acknowledge. -/
def Watch.note (g : Watch) (s : Sys n) (a : Act n) : Watch where
  ledger := g.ledger.note s a
  told :=
    match a with
    | .deliver .lower .usr1 => g.told || s.shm.emergencyStop && g.ledger.held .upper
    | .worker .lower _ =>
      g.told && !((s.worker .lower).pc == .ack .postClear && !(s.worker .lower).emergencySignal)
    | _ => g.told

def watch (tr : List (Sys n × Act n)) : Watch := Lib.history Watch.note ⟨.blank, false⟩ tr

def told (tr : List (Sys n × Act n)) : Bool := (watch tr).told

theorem watch_ledger (tr : List (Sys n × Act n)) : (watch tr).ledger = ledger tr := by
  induction tr using List.reverseRecOn with
  | nil => rfl
  | append_singleton tr p ih =>
    obtain ⟨s,a⟩ := p
    simp only [watch,ledger,Lib.history_snoc] at ih ⊢
    rw [← ih]
    rfl

/-- A worker that is told after a step was told by it, or before it and the step did not
return from the acknowledgement of the signal. -/
theorem told_cases (h : told (tr ++ [(s,a)]) = true) :
    a = .deliver .lower .usr1 ∧ s.shm.emergencyStop = true ∧ (ledger tr).held .upper = true ∨
      told tr = true ∧ ∀ x, a = .worker .lower x → (s.worker .lower).pc = .ack .postClear →
        (s.worker .lower).emergencySignal = true := by
  have hnote : ((watch tr).note s a).told = true := by simpa [told,watch] using h
  simp only [Watch.note] at hnote
  split at hnote
  · simp only [Bool.or_eq_true,Bool.and_eq_true,watch_ledger] at hnote
    rcases hnote with ht | ht
    · exact .inr ⟨ht,by simp⟩
    · exact .inl ⟨rfl,ht⟩
  · simp only [Bool.and_eq_true,Bool.not_eq_true',Bool.and_eq_false_iff,beq_eq_false_iff_ne,
      Bool.not_eq_false'] at hnote
    refine .inr ⟨hnote.1,?_⟩
    intro x _ hp
    rcases hnote.2 with hne | hsig
    · exact absurd hp hne
    · exact hsig
  · rename_i hw
    refine .inr ⟨hnote,?_⟩
    intro x hx
    exact absurd hx (hw x)

/-- Placing the tourist in hand dispatches a chair: it becomes full, or the tourist does not fit
with those who wait for it. -/
def LowerLocals.leaves (l : LowerLocals) : Bool :=
  if l.fits then chairCapacity ≤ l.buffer.currentChairSlots else !l.pending.isEmpty

/-- From this place the lower worker can go on to dispatch a chair without looking at
`emergency_stop` again; `emergency` is what it has read last. -/
def LowerLocals.leaving (l : LowerLocals) (emergency : Bool) : WorkerPc → Bool
  | .lower .checkPost => !emergency && !l.pending.isEmpty
  | .lower .arm | .lower .receive => !l.pending.isEmpty
  | .lower .recheckPost => !emergency && l.leaves
  | .lower .place => l.leaves
  | .lower (.dispatchWait _) => !l.pending.isEmpty
  | _ => false

def leaving (s : Sys n) : Bool :=
  s.lower.leaving (s.worker .lower).emergency (s.worker .lower).pc

theorem wake_leaving {l : LowerLocals} {e : Bool} {pc : WorkerPc} (h : l.leaving e pc = false) :
    l.leaving e (wakePc l pc) = false := by
  unfold wakePc
  split
  case h_7 =>
    split
    · rfl
    · rename_i hne
      simp [LowerLocals.leaving,hne] at h
  case h_8 => exact h
  all_goals rfl

theorem lower_leaving {p : LowerPc} {x : Nat} (hp : (s.worker .lower).pc = .lower p)
    (h : lowerWorkerMain s x p = some s') (hstop : s.shm.emergencyStop = true)
    (hl : leaving s = false) : leaving s' = false := by
  simp only [leaving,hp] at hl
  cases p with
  | checkWait | recheckWait =>
    obtain ⟨-,rfl⟩ := sem_wait_map h
    simp [leaving,LowerLocals.leaving]
  | checkRead | recheckRead =>
    cases h
    simp [leaving,LowerLocals.leaving,hstop]
  | checkPost =>
    simp only [lowerWorkerMain] at h
    split at h
    · cases h
      simp [leaving,LowerLocals.leaving,Sys.enterAck]
    · rename_i he
      cases h
      simpa [leaving,LowerLocals.leaving,he] using hl
  | arm =>
    cases h
    simpa [leaving,LowerLocals.leaving] using hl
  | receive =>
    obtain ⟨⟨m,q⟩,-,rfl⟩ := Option.map_eq_some_iff.mp h
    simp [leaving,LowerLocals.leaving]
  | recheckPost =>
    simp only [lowerWorkerMain] at h
    split at h
    · cases h
      simp [leaving,LowerLocals.leaving]
    · rename_i he
      cases h
      simpa [leaving,LowerLocals.leaving,he] using hl
  | requeueStop | requeue =>
    cases h
    simp [leaving,LowerLocals.leaving,requeuePlatform]
  | place =>
    simp only [LowerLocals.leaving,LowerLocals.leaves] at hl
    simp only [lowerWorkerMain] at h
    split at h
    · rename_i hfits
      split at h
      · rename_i hfull
        simp [hfits,hfull] at hl
      · cases h
        simp [leaving,LowerLocals.leaving]
    · rename_i hfits
      split at h
      · cases h
        simp [leaving,LowerLocals.leaving]
      · rename_i hne
        simp [hfits,hne] at hl
  | dispatchWait site =>
    simp only [LowerLocals.leaving,Bool.not_eq_false',List.isEmpty_iff] at hl
    simp only [lowerWorkerMain,hl,if_true] at h
    cases h
    cases site <;> simp [leaving,LowerLocals.leaving,afterDispatch]
  | dispatchSend site i =>
    simp only [lowerWorkerMain] at h
    split at h
    · cases h
      simp [leaving,LowerLocals.leaving]
    · cases h
      cases site <;> simp [leaving,LowerLocals.leaving,afterDispatch]

theorem calm_leaving {l : LowerLocals} {e : Bool} {pc : WorkerPc} (h : atWork pc = false) :
    l.leaving e pc = false := by
  cases pc with
  | lower p => cases h
  | _ => rfl

/-- With the flag up, a step that begins neither at the top of the loop nor on the way to a
dispatch does not lead there. -/
theorem worker_leaving {x : Nat} (hown : ownPc .lower (s.worker .lower).pc = true)
    (htop : (s.worker .lower).pc ≠ .top) (hstop : s.shm.emergencyStop = true)
    (hl : leaving s = false) (h : workerStep s .lower x = some s') : leaving s' = false := by
  cases worker_acts h with
  | calm hw _ =>
    rcases worker_pc hw h with hc | he
    · exact calm_leaving hc
    · unfold leaving
      generalize (s'.worker .lower).pc = pc at he
      cases he with
      | lower => rfl
      | last hp => exact absurd hp htop
  | lower hp hs => exact lower_leaving hp hs hstop hl
  | upper hp => simp [hp,ownPc] at hown

def inAck : WorkerPc → Bool
  | .ack _ => true
  | _ => false

theorem ack_of_stopping {pc : WorkerPc} (h : phaseOf pc = .stopping) : inAck pc = true := by
  unfold phaseOf at h
  split at h
  all_goals first | rfl | cases h

theorem ack_in_emergency {pc : WorkerPc} (h : inAck pc = true) : inEmergency pc = true := by
  cases pc with
  | ack p => rfl
  | _ => cases h

theorem loop_of_no_emergency {pc : WorkerPc} (h : inEmergency pc = false) : phaseOf pc = .loop := by
  cases pc with
  | top | trigger | ack | resume => cases h
  | _ => rfl

/-- The acknowledgement goes on until its last step returns to the top of the loop. -/
theorem ack_goes {x : Nat} (hp : inAck (s.worker r).pc = true) (h : workerStep s r x = some s') :
    inAck (s'.worker r).pc = true ∨ (s.worker r).pc = .ack .postClear ∧ (s'.worker r).pc = .top ∧
      (s'.worker r).emergencySignal = (s.worker r).emergencySignal := by
  cases worker_runs h with
  | @ack p hpc hs =>
    cases p with
    | waitState | waitClear =>
      obtain ⟨-,rfl⟩ := sem_wait_map hs
      exact .inl (by simp [inAck])
    | receive =>
      obtain ⟨⟨m,q⟩,-,rfl⟩ := Option.map_eq_some_iff.mp hs
      exact .inl (by simp [inAck])
    | postClear =>
      cases hs
      exact .inr ⟨hpc,by simp,by simp⟩
    | setFlag | postState | send | clear =>
      cases hs
      exact .inl (by simp [inAck])
  | danger hpc | trigger hpc | resume hpc | lower hpc | upper hpc => simp [hpc,inAck] at hp
  | @head p hpc idle hs =>
    cases p with
    | top | checkResume | checkInitiator | pauseArm => simp [hpc,inAck] at hp
    | _ => cases hs

/-- At the top of the loop a signalled worker enters the acknowledgement. -/
theorem top_heeds {x : Nat} (hp : (s.worker r).pc = .top) (hrun : s.shm.running = true)
    (hsig : (s.worker r).emergencySignal = true) (h : workerStep s r x = some s') :
    inAck (s'.worker r).pc = true := by
  simp only [workerStep,hp,workerLoopHead,hrun,hsig,Bool.not_true,Bool.false_eq_true,if_false,
    if_true] at h
  cases h
  simp [inAck,Sys.enterAck]

/-- The emergency code of a signalled worker leads to the acknowledgement, by way of the top of
the loop if need be. -/
theorem emergency_goes {x : Nat} (hp : inEmergency (s.worker r).pc = true)
    (hrun : s.shm.running = true) (hsig : (s.worker r).emergencySignal = true)
    (h : workerStep s r x = some s') : inEmergency (s'.worker r).pc = true := by
  cases worker_runs h with
  | trigger hpc hs => exact trigger_pc hs
  | ack hpc hs => exact ack_pc hs
  | resume hpc hs => exact resume_pc hs
  | danger hpc | lower hpc | upper hpc => simp [hpc,inEmergency] at hp
  | @head p hpc idle hs =>
    cases p with
    | top => exact ack_in_emergency (top_heeds hpc hrun hsig h)
    | checkResume | checkInitiator | pauseArm => simp [hpc,inEmergency] at hp
    | _ => cases hs

structure Spared (s s' : Sys n) : Prop where
  lower : s'.lower = s.lower
  pc : (s'.worker .lower).pc = (s.worker .lower).pc ∨
    (s'.worker .lower).pc = wakePc s.lower (s.worker .lower).pc
  emergency : (s'.worker .lower).emergency = (s.worker .lower).emergency
  signal : (s.worker .lower).emergencySignal = true → (s'.worker .lower).emergencySignal = true

theorem Spared.same (hl : s'.lower = s.lower) (hw : s'.worker .lower = s.worker .lower) :
    Spared s s' := by
  refine ⟨hl,.inl ?_,?_,?_⟩
  all_goals rw [hw]
  exact id

theorem Spared.leaving (h : Spared s s') (hl : leaving s = false) : leaving s' = false := by
  unfold Ropeway.leaving
  rw [h.lower,h.emergency]
  rcases h.pc with hp | hp
  · rw [hp]
    exact hl
  · rw [hp]
    exact wake_leaving hl

theorem Spared.ack (h : Spared s s') (ha : inAck (s.worker .lower).pc = true) :
    inAck (s'.worker .lower).pc = true := by
  have hwake : wakePc s.lower (s.worker .lower).pc = (s.worker .lower).pc := by
    cases hp : (s.worker .lower).pc with
    | ack p => rfl
    | _ => simp [hp,inAck] at ha
  rcases h.pc with hp | hp
  · rw [hp]
    exact ha
  · rw [hp,hwake]
    exact ha

theorem wake_emergency (l : LowerLocals) {pc : WorkerPc} (h : inEmergency pc = true) :
    inEmergency (wakePc l pc) = true := by
  cases pc with
  | top | ack => rfl
  | trigger p | resume p => cases p <;> rfl
  | _ => cases h

theorem Spared.emergency_code (h : Spared s s') (he : inEmergency (s.worker .lower).pc = true) :
    inEmergency (s'.worker .lower).pc = true := by
  rcases h.pc with hp | hp
  · rw [hp]
    exact he
  · rw [hp]
    exact wake_emergency _ he

theorem handler_spares {w v : Worker} {sig : Signal} (h : handler v sig = some w) :
    w.emergency = v.emergency ∧ (v.emergencySignal = true → w.emergencySignal = true) ∧
      (sig = .usr1 → w.emergencySignal = true) := by
  cases sig with
  | cont =>
    cases h
    exact ⟨rfl,id,by simp⟩
  | usr1 =>
    simp only [handler] at h
    split at h
    · cases h
      exact ⟨rfl,fun _ => rfl,fun _ => rfl⟩
    · cases h
  | usr2 | alrm =>
    simp only [handler] at h
    split at h
    · cases h
      exact ⟨rfl,id,by simp⟩
    · cases h

/-- A signal for the lower worker; SIGUSR1 leaves its flag set. -/
theorem deliver_spares {sig : Signal} (hown : ownPc .lower (s.worker .lower).pc = true)
    (h : deliverSignal s .lower sig = some s') :
    Spared s s' ∧ (sig = .usr1 → (s'.worker .lower).emergencySignal = true) := by
  obtain ⟨w,hw,⟨-,rfl⟩ | ⟨-,al,rfl⟩⟩ := deliver_eq hown h
  · obtain ⟨he,hkeep,hset⟩ := handler_spares hw
    refine ⟨⟨rfl,.inl ?_,?_,?_⟩,?_⟩
    · simpa using (handler_frame hw).1
    · simpa using he
    · simpa using hkeep
    · simpa using hset
  · obtain ⟨he,hkeep,hset⟩ := handler_spares hw
    refine ⟨⟨rfl,.inr ?_,?_,?_⟩,?_⟩
    · simp
    · simpa using he
    · simpa using hkeep
    · simpa using hset

theorem upper_spares {x : Nat} (hown : ownPc .upper (s.worker .upper).pc = true)
    (h : workerStep s .upper x = some s') : Spared s s' := by
  obtain ⟨p,q,hpeer⟩ := worker_peer hown h
  simp only [Role.other] at hpeer
  refine ⟨upper_lower hown h,.inl ?_,?_,?_⟩
  all_goals rw [hpeer]
  exact id

/-- Only its own steps take the lower worker further. -/
theorem step_spares (hown : ∀ r, ownPc r (s.worker r).pc = true) (ha : ∀ x, a ≠ .worker .lower x)
    (h : step s a = some s') : Spared s s' := by
  by_cases ho : a.outside = true
  · have hs := outside_same ho h
    exact .same hs.lower (by rw [hs.worker])
  cases a with
  | worker r x =>
    cases r with
    | lower => exact absurd rfl (ha x)
    | upper => exact upper_spares (hown .upper) h
  | sleep r =>
    simp only [step] at h
    split at h
    · cases h
      cases r with
      | lower => exact ⟨rfl,.inl (by simp),by simp,by simp⟩
      | upper => exact .same rfl (by simp)
    · cases h
  | deliver r sig =>
    cases r with
    | lower => exact (deliver_spares (hown .lower) h).1
    | upper =>
      obtain ⟨w,-,⟨-,rfl⟩ | ⟨-,al,rfl⟩⟩ := deliver_eq (hown .upper) h
      · exact .same rfl (by simp)
      · exact .same rfl (by simp)
  | kill r sig =>
    obtain ⟨w,hw,rfl⟩ := Option.map_eq_some_iff.mp h
    cases r with
    | lower => cases sig <;> cases hw <;> exact ⟨rfl,.inl (by simp),by simp,by simp⟩
    | upper => exact .same rfl (by simp)
  | _ => simp [Act.outside] at ho

/-- A lower worker that has been told acknowledges, or has its signal before it: in the emergency
code, or where it does not dispatch while the emergency stands. -/
def Obeys (tr : List (Sys n × Act n)) (s : Sys n) : Prop :=
  told tr = true → s.shm.running = true → inAck (s.worker .lower).pc = true ∨
    (s.worker .lower).emergencySignal = true ∧ (inEmergency (s.worker .lower).pc = true ∨
      Standing .upper (protocol tr s) ∧ leaving s = false)

/-- The lower worker is in its loop, but the upper one has heard from it in this emergency. -/
def overdue (s : Sys n) : Bool :=
  !inEmergency (s.worker .lower).pc && (settles (phaseOf (s.worker .upper).pc) ||
    s.mqWorker.any (fun m => m.mtype == Role.upper.dest))

/-- In an emergency of the upper worker the handler of SIGUSR1 does not run while the lower worker
is on its way to a dispatch, nor after it has answered already. -/
def toldInTime : Env n := fun tr s a =>
  match a with
  | .deliver .lower .usr1 =>
    !(s.shm.running && s.shm.emergencyStop && (ledger tr).held .upper && (leaving s || overdue s))
  | _ => true

theorem standing_of_not_overdue (hstop : s.shm.emergencyStop = true) (ho : overdue s = false)
    (he : inEmergency (s.worker .lower).pc = false) : Standing .upper (protocol tr s) := by
  simp only [overdue,he,Bool.not_false,Bool.true_and,Bool.or_eq_false_iff,List.any_eq_false,
    beq_iff_eq] at ho
  refine ⟨hstop,ho.1,?_⟩
  intro ha
  obtain ⟨m,hm,ht⟩ := ha
  exact ho.2 m hm ht

/-- Outside its emergency code the lower worker does not end a standing emergency. -/
theorem stands (hown : ∀ r, ownPc r (s.worker r).pc = true) (hs : step s a = some s')
    (he : inEmergency (s.worker .lower).pc = false) (h : Standing .upper (protocol tr s)) :
    Standing .upper (protocol (tr ++ [(s,a)]) s') :=
  h.turn (loop_of_no_emergency he) (step_protocol tr hown hs)

theorem Obeys.worker {x : Nat} (h : Obeys tr s) (hown : ∀ r, ownPc r (s.worker r).pc = true)
    (hs : step s (.worker .lower x) = some s')
    (hrun : s'.shm.running = true → s.shm.running = true) :
    Obeys (tr ++ [(s,.worker .lower x)]) s' := by
  intro ht hr
  have hkept : told tr = true ∧ ((s.worker .lower).pc = .ack .postClear →
      (s.worker .lower).emergencySignal = true) := by
    rcases told_cases ht with ⟨hd,-⟩ | ⟨htold,hlast⟩
    · cases hd
    · exact ⟨htold,hlast x rfl⟩
  cases ha : inAck (s.worker .lower).pc with
  | true =>
    rcases ack_goes ha hs with hin | ⟨hp,htop,hsame⟩
    · exact .inl hin
    · exact .inr ⟨hsame.trans (hkept.2 hp),.inl (by rw [htop]; rfl)⟩
  | false =>
    rcases h hkept.1 (hrun hr) with hin | ⟨hsig,hplace⟩
    · rw [ha] at hin
      cases hin
    rcases (worker_protocol tr (hown .lower) hs).keeps_signal hsig with hsig' | hphase
    · refine .inr ⟨hsig',?_⟩
      cases he : inEmergency (s.worker .lower).pc with
      | true => exact .inl (emergency_goes he (hrun hr) hsig hs)
      | false =>
        rw [he] at hplace
        obtain ⟨hst,hl⟩ := hplace.resolve_left (by simp)
        refine .inr ⟨stands hown hs he hst,worker_leaving (hown .lower) ?_ hst.stop hl hs⟩
        intro htop
        rw [htop] at he
        cases he
    · exact .inl (ack_of_stopping hphase)

theorem Obeys.spared (h : Obeys tr s) (hown : ∀ r, ownPc r (s.worker r).pc = true)
    (ha : ∀ x, a ≠ .worker .lower x) (hs : step s a = some s')
    (hrun : s'.shm.running = true → s.shm.running = true)
    (intime : toldInTime tr s a = true) : Obeys (tr ++ [(s,a)]) s' := by
  intro ht hr
  have hsp := step_spares hown ha hs
  rcases told_cases ht with ⟨rfl,hstop,hheld⟩ | ⟨htold,-⟩
  · refine .inr ⟨(deliver_spares (hown .lower) hs).2 rfl,?_⟩
    cases he : inEmergency (s.worker .lower).pc with
    | true => exact .inl (hsp.emergency_code he)
    | false =>
      simp only [toldInTime,hrun hr,hstop,hheld,Bool.true_and,Bool.not_eq_true',
        Bool.or_eq_false_iff] at intime
      have hst : Standing .upper (protocol tr s) := standing_of_not_overdue hstop intime.2 he
      exact .inr ⟨stands hown hs he hst,hsp.leaving intime.1⟩
  · rcases h htold (hrun hr) with hin | ⟨hsig,hplace⟩
    · exact .inl (hsp.ack hin)
    · refine .inr ⟨hsp.signal hsig,?_⟩
      cases he : inEmergency (s.worker .lower).pc with
      | true => exact .inl (hsp.emergency_code he)
      | false =>
        rw [he] at hplace
        obtain ⟨hst,hl⟩ := hplace.resolve_left (by simp)
        exact .inr ⟨stands hown hs he hst,hsp.leaving hl⟩

theorem running_before (hown : ∀ r, ownPc r (s.worker r).pc = true) (hs : step s a = some s')
    (hr : s'.shm.running = true) : s.shm.running = true := by
  by_cases ha : a = .shutdown
  · subst ha
    cases hs
    cases hr
  · rw [← step_running hown ha hs]
    exact hr

theorem run_obeys {rules : List (Env n)} (ok : toldInTime ∈ rules) (h : Runs rules u tr s) :
    Obeys tr s := by
  refine run_invariant (fun tr s => Obeys tr s) ?_ ?_ h
  · intro ht
    cases ht
  · intro tr s a s' hown hi allowed hs
    have hrun := running_before hown hs
    by_cases ha : ∃ x, a = .worker .lower x
    · obtain ⟨x,rfl⟩ := ha
      exact hi.worker hown hs hrun
    · exact hi.spared hown (fun x hx => ha ⟨x,hx⟩) hs hrun (allow_mem ok allowed)

/-- The lower worker is in `dispatch_chair` with tourists buffered and has not got the slot for
their chair. -/
def departing (s : Sys n) : Bool :=
  match (s.worker .lower).pc with
  | .lower (.dispatchWait _) => !s.lower.pending.isEmpty
  | _ => false

/-- Between being told and the end of its acknowledgement the lower worker dispatches no chair,
unless the shutdown has begun. -/
def Halted (tr : List (Sys n × Act n)) (s : Sys n) : Prop :=
  told tr = true → s.shm.running = true → departing s = false

theorem leaving_of_departing (h : departing s = true) : leaving s = true := by
  unfold departing at h
  split at h
  · rename_i hp
    simp only [leaving,hp]
    exact h
  · cases h

theorem emergency_not_departing (h : inEmergency (s.worker .lower).pc = true) :
    departing s = false := by
  unfold departing
  split
  · rename_i hp
    rw [hp] at h
    cases h
  · rfl

/-- A lower worker that is told in time dispatches no chair before it has acknowledged. -/
theorem halted (h : Runs [toldInTime] u tr s) : Halted tr s := by
  intro ht hr
  rcases run_obeys (by simp) h ht hr with hin | ⟨-,he | ⟨-,hl⟩⟩
  · exact emergency_not_departing (ack_in_emergency hin)
  · exact emergency_not_departing he
  · cases hd : departing s with
    | false => rfl
    | true =>
      rw [leaving_of_departing hd] at hl
      cases hl

/-- The lower worker, one tourist on its chair, is at the top of its loop when SIGUSR1 comes. -/
def toldAtTop : List (Act 2) :=
  rideAlone 0 ++ reachPlatform 1 ++ safe .lower 13 ++ walks 0 1 ++ alarmed .upper 13 ++
    [.deliver .lower .usr1] ++ safe .lower 4

theorem halted_at_top : ∃ tr s, Runs [toldInTime] (sample 2) tr s ∧
    told tr = true ∧ s.shm.running = true ∧ s.lower.pending ≠ [] ∧ Halted tr s := by
  have hr : reaches [toldInTime] (sample 2) toldAtTop
      (fun tr s => told tr && s.shm.running && !s.lower.pending.isEmpty) = true := by
    decide +kernel
  obtain ⟨tr,s,h,ht⟩ := exists_run hr
  simp only [Bool.and_eq_true,Bool.not_eq_true',List.isEmpty_eq_false_iff] at ht
  exact ⟨tr,s,h,ht.1.1,ht.1.2,ht.2,halted h⟩

/-- SIGUSR1 finds the lower worker asleep at the platform, one tourist on its chair. -/
def toldAtPlatform : List (Act 2) :=
  rideAlone 0 ++ reachPlatform 1 ++ safe .lower 20 ++ [.sleep .lower] ++ walks 0 1 ++
    alarmed .upper 13 ++ [.deliver .lower .usr1]

/-- The stop signal ends the wait at the platform like the timeout does: the chair departs. -/
theorem stop_dispatches : ∃ tr s, Runs [beforeShutdown,workersOnly,noFailingSemop] (sample 2) tr s ∧
    ¬Halted tr s ∧ ∃ s', step s (.worker .lower 0) = some s' ∧ s'.sem .chairs < s.sem .chairs := by
  have hr : reaches [beforeShutdown,workersOnly,noFailingSemop] (sample 2) toldAtPlatform
      (fun tr s => told tr && s.shm.running && departing s &&
        (step s (.worker .lower 0)).any (fun s' => s'.sem .chairs < s.sem .chairs)) = true := by
    decide +kernel
  obtain ⟨tr,s,h,ht⟩ := exists_run hr
  simp only [Bool.and_eq_true,Option.any_eq_true,decide_eq_true_eq] at ht
  obtain ⟨⟨⟨htold,hrun⟩,hdep⟩,s',hs,hslot⟩ := ht
  refine ⟨tr,s,h,?_,s',hs,hslot⟩
  intro hhalt
  rw [hhalt htold hrun] at hdep
  cases hdep

/-- Then the signal of an emergency whose flag is up does not come after its answer. -/
theorem never_overdue {rules : List (Env n)} (hl : triggerUninterrupted .lower ∈ rules)
    (hu : triggerUninterrupted .upper ∈ rules) (h : Runs rules u tr s)
    (hstop : s.shm.emergencyStop = true) (hheld : (ledger tr).held .upper = true) :
    overdue s = false := by
  have ok := never_fails hl hu
  obtain ⟨x,hs,hled⟩ := run_led hl hu h
  obtain ⟨-,-,hlow⟩ := run_session (Lowered .upper) ok (start_lowered .upper) (by
    intro tr s a v' x hs hlow allowed t
    exact hlow.turn x hs (ok tr s a allowed) t) h
  have hy : Yielded .upper (protocol tr s) := by
    refine run_protocol (Yielded .upper) (start_yielded .upper) ?_ h
    intro tr s a v' hy _ t
    exact hy.turn t
  cases he : inEmergency (s.worker .lower).pc with
  | true => simp [overdue,he]
  | false =>
    have hloop : (protocol tr s).phase Role.upper.other = .loop := loop_of_no_emergency he
    have hst := hlow.standing x hs hled hy hstop hheld (by rw [hloop]; rfl) (by rw [hloop]; decide)
    have hdeaf : settles (phaseOf (s.worker .upper).pc) = false := hst.deaf
    simp only [overdue,hdeaf,Bool.false_or,Bool.and_eq_false_iff,List.any_eq_false,beq_iff_eq]
    refine .inr ?_
    intro m hm ht
    exact hst.unanswered ⟨m,hm,ht⟩

end Ropeway
