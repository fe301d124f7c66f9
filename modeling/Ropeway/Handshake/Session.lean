import Ropeway.Handshake.Protocol

/-! The lock has one holder, and the log of resumes is made of whole rounds. -/

namespace Ropeway.Handshake
open Function (update)
variable {f : Faults} {v v' : Protocol} {r : Role}

/-- The phases between winning the lock and giving it back in which the party
acts as initiator; in `loop` only the history tells. -/
def owns : Phase → Bool
  | .stamping | .setting | .raising | .calling | .retreating | .offering | .listening | .closing => true
  | _ => false

/-- The lock and the holder recorded by the history agree, and whoever acts as
initiator is that holder. No party is on its way back from a failed wait. -/
structure Exclusive (v : Protocol) : Prop where
  one : v.lock + (v.held .lower).toNat + (v.held .upper).toNat = 1
  owner : ∀ r, owns (v.phase r) = true → v.held r = true
  done : ∀ r, v.phase r = .closed → v.held r = false
  steady : ∀ r, v.phase r ≠ .retreating
  init : ∀ r, v.initiator r = true → v.phase r ≠ .closed → v.held r = true

theorem Exclusive.sum (h : Exclusive v) (r : Role) :
    v.lock + (v.held r).toNat + (v.held r.other).toNat = 1 := by
  have hone := h.one
  cases r with
  | lower => exact hone
  | upper => simp only [Role.other]; omega

theorem Exclusive.free (h : Exclusive v) (hl : 0 < v.lock) (r : Role) : v.held r = false := by
  have hs := h.sum r
  cases hr : v.held r with
  | false => rfl
  | true => rw [hr] at hs; simp at hs; omega

theorem Exclusive.only (h : Exclusive v) (hr : v.held r = true) :
    v.lock = 0 ∧ v.held r.other = false := by
  have hs := h.sum r
  rw [hr] at hs
  cases ho : v.held r.other with
  | false => simp at hs ⊢; omega
  | true => rw [ho] at hs; simp at hs

/-- What a move of `r` has to show, the other party being untouched. -/
theorem Exclusive.local (h : Exclusive v) (r : Role)
    (sum : v'.lock + (v'.held r).toNat + (v.held r.other).toNat = 1)
    (phase : v'.phase r.other = v.phase r.other) (held : v'.held r.other = v.held r.other)
    (initiator : v'.initiator r.other = v.initiator r.other)
    (own : owns (v'.phase r) = true → v'.held r = true)
    (done : v'.phase r = .closed → v'.held r = false) (steady : v'.phase r ≠ .retreating)
    (init : v'.initiator r = true → v'.phase r ≠ .closed → v'.held r = true) : Exclusive v' := by
  refine ⟨?_,r.both own ?_,r.both done ?_,r.both steady ?_,r.both init ?_⟩
  · rw [← held] at sum
    cases r with
    | lower => exact sum
    | upper => simp only [Role.other] at sum; omega
  · rw [phase,held]
    exact h.owner _
  · rw [phase,held]
    exact h.done _
  · rw [phase]
    exact h.steady _
  · rw [initiator,phase,held]
    exact h.init _

theorem Exclusive.move (h : Exclusive v) (m : Move f r v v') : Exclusive v' := by
  have hsum := h.sum r
  have hown := h.owner r
  have hdone := h.done r
  have hsteady := h.steady r
  have hinit := h.init r
  cases m with
  | retreat hp => exact absurd hp hsteady
  | win hp free =>
    have hr := h.free free r
    have ho := h.free free r.other
    refine h.local r ?_ ?_ ?_ rfl ?_ ?_ ?_ ?_ <;> simp_all
  | release hp =>
    have hh := hown (by rw [hp]; rfl)
    have hone := h.only hh
    refine h.local r ?_ ?_ ?_ rfl ?_ ?_ ?_ ?_ <;> simp_all [owns]
  | _ => 
    refine h.local r hsum ?_ rfl ?_ ?_ ?_ ?_ ?_ <;> simp_all [owns]

/-- The phases that show in a session: the others are alike to the partner. -/
def visible : Phase → Option Phase
  | .listening => some .listening
  | .closing => some .closing
  | .answering => some .answering
  | _ => none

def roundOf (w : Role) : List Event :=
  [.offered w, .taken w.other, .answered w.other, .heard w, .resumed w]

/-- How far the resume of the holder `w` has come: the number of events of its
round that have happened. -/
inductive Stage (v : Protocol) (w : Role) : Nat → Prop
  | idle (self : visible (v.phase w) = none) (mq : v.mq = [])
      (peer : visible (v.phase w.other) = none) : Stage v w 0
  | offered (self : visible (v.phase w) = some .listening)
      (mq : v.mq = [.to w.other .readyToResume])
      (peer : visible (v.phase w.other) = none) : Stage v w 1
  | taken (self : visible (v.phase w) = some .listening) (mq : v.mq = [])
      (peer : visible (v.phase w.other) = some .answering) : Stage v w 2
  | answered (self : visible (v.phase w) = some .listening) (mq : v.mq = [.to w .iAmReady])
      (peer : visible (v.phase w.other) = none) : Stage v w 3
  | heard (self : visible (v.phase w) = some .closing) (mq : v.mq = [])
      (peer : visible (v.phase w.other) = none) : Stage v w 4

/-- The log is a sequence of complete rounds, followed by the part of a round
that the present holder of the lock has reached. -/
inductive Session (v : Protocol) : Prop
  | free (rs : List Role) (nobody : ∀ r, v.held r = false) (mq : v.mq = [])
      (calm : ∀ r, visible (v.phase r) = none) (log : v.log = rs.flatMap roundOf)
  | busy (w : Role) (k : Nat) (rs : List Role) (held : v.held w = true) (stage : Stage v w k)
      (log : v.log = rs.flatMap roundOf ++ (roundOf w).take k)

/-- Moves between phases that do not show leave the session as it is. -/
theorem Session.quiet (h : Session v) (held : v'.held = v.held) (mq : v'.mq = v.mq)
    (log : v'.log = v.log) (same : ∀ q, visible (v'.phase q) = visible (v.phase q)) :
    Session v' := by
  cases h with
  | free rs nobody empty calm hlog =>
    refine .free rs ?_ (mq.trans empty) ?_ (log.trans hlog)
    · rw [held]
      exact nobody
    · intro q
      rw [same]
      exact calm q
  | busy w k rs hw stage hlog =>
    refine .busy w k rs (by rw [held]; exact hw) ?_ (log.trans hlog)
    cases stage with
    | idle self empty peer =>
      exact .idle ((same _).trans self) (mq.trans empty) ((same _).trans peer)
    | offered self one peer =>
      exact .offered ((same _).trans self) (mq.trans one) ((same _).trans peer)
    | taken self empty peer =>
      exact .taken ((same _).trans self) (mq.trans empty) ((same _).trans peer)
    | answered self one peer =>
      exact .answered ((same _).trans self) (mq.trans one) ((same _).trans peer)
    | heard self empty peer =>
      exact .heard ((same _).trans self) (mq.trans empty) ((same _).trans peer)

theorem receive_nil (hq : v.mq = []) : v.receive r = none := by
  cases r <;> simp [Protocol.receive,hq,Lib.msgrcv,Lib.takeFirst,Role.dest]

theorem receive_own {t : WorkerMsgType} (hq : v.mq = [.to r t]) :
    v.receive r = some (.to r t,[]) := by
  cases r <;> simp [Protocol.receive,hq,Lib.msgrcv,Lib.takeFirst,Role.dest,WorkerMsg.to]

theorem receive_foreign {t : WorkerMsgType} (hq : v.mq = [.to r.other t]) :
    v.receive r = none := by
  cases r <;> simp [Protocol.receive,hq,Lib.msgrcv,Lib.takeFirst,Role.dest,WorkerMsg.to,Role.other]

/-- The holder of the lock is the party whose session it is. -/
theorem Session.holder (h : Session v) (x : Exclusive v) (hr : v.held r = true) :
    ∃ (k : Nat) (rs : List Role), Stage v r k ∧ v.log = rs.flatMap roundOf ++ (roundOf r).take k := by
  cases h with
  | free rs nobody =>
    rw [nobody] at hr
    cases hr
  | busy w k rs hw stage log =>
    rcases w.eq_or_other r with rfl | rfl
    · exact ⟨k,rs,stage,log⟩
    · rw [(x.only hw).2] at hr
      cases hr

theorem Session.alone (h : Session v) (nobody : ∀ r, v.held r = false) :
    ∃ rs : List Role, v.mq = [] ∧ (∀ r, visible (v.phase r) = none) ∧ v.log = rs.flatMap roundOf := by
  cases h with
  | free rs _ mq calm log => exact ⟨rs,mq,calm,log⟩
  | busy w k rs hw stage log =>
    rw [nobody] at hw
    cases hw

/-- Only a READY_TO_RESUME can be received in the acknowledgement, and only while
the other party listens. -/
theorem Session.take (h : Session v) {m : WorkerMsg} {q : List WorkerMsg}
    (hp : v.phase r = .waiting) (got : v.receive r = some (m,q)) :
    m = .to r .readyToResume ∧ q = [] ∧ v.held r.other = true ∧ 
      visible (v.phase r.other) = some .listening ∧
      ∃ rs : List Role, v.log = rs.flatMap roundOf ++ (roundOf r.other).take 1 := by
  cases h with
  | free rs _ mq => simp [receive_nil mq] at got
  | busy w k rs hw stage log =>
    cases stage with
    | idle _ mq _ | taken _ mq _ | heard _ mq _ => simp [receive_nil mq] at got
    | offered self mq peer =>
      rcases w.eq_or_other r with rfl | rfl
      · simp [hp,visible] at self
      · rw [receive_own mq] at got
        cases got
        exact ⟨rfl,rfl,by simpa using hw,by simpa using self,rs,by simpa using log⟩
    | answered self mq peer =>
      rcases w.eq_or_other r with rfl | rfl
      · simp [hp,visible] at self
      · rw [receive_foreign (by simpa using mq)] at got
        cases got

/-- Only an I_AM_READY can be received by the initiator. -/
theorem Session.hear (h : Session v) (x : Exclusive v) {m : WorkerMsg} {q : List WorkerMsg}
    (hp : v.phase r = .listening) (got : v.receive r = some (m,q)) :
    v.mq = [.to r .iAmReady] ∧ m = .to r .iAmReady ∧ q = [] ∧
      visible (v.phase r.other) = none ∧
      ∃ rs : List Role, v.log = rs.flatMap roundOf ++ (roundOf r).take 3 := by
  obtain ⟨k,rs,stage,log⟩ := h.holder x (x.owner r (by rw [hp]; rfl))
  cases stage with
  | idle self _ _ | heard self _ _ => simp [hp,visible] at self
  | taken _ mq _ => simp [receive_nil mq] at got
  | offered _ mq _ => simp [receive_foreign mq] at got
  | answered self mq peer =>
    rw [receive_own mq] at got
    cases got
    exact ⟨mq,rfl,rfl,peer,rs,log⟩

/-- The mailbox is empty when a resume begins. -/
theorem Session.offer (h : Session v) (x : Exclusive v) (hp : v.phase r = .offering) :
    v.mq = [] ∧ visible (v.phase r.other) = none ∧
      ∃ rs : List Role, v.log = rs.flatMap roundOf := by
  obtain ⟨k,rs,stage,log⟩ := h.holder x (x.owner r (by rw [hp]; rfl))
  cases stage with
  | idle self mq peer => exact ⟨mq,peer,rs,by simpa using log⟩
  | offered self _ _ | taken self _ _ | answered self _ _ | heard self _ _ =>
    simp [hp,visible] at self

/-- A party answers only the resume of the other one. -/
theorem Session.answer (h : Session v) (hp : v.phase r = .answering) :
    v.mq = [] ∧ v.held r.other = true ∧ visible (v.phase r.other) = some .listening ∧
      ∃ rs : List Role, v.log = rs.flatMap roundOf ++ (roundOf r.other).take 2 := by
  cases h with
  | free rs _ _ calm _ => simpa [hp,visible] using calm r
  | busy w k rs hw stage log =>
    cases stage with
    | idle self _ peer | offered self _ peer | answered self _ peer | heard self _ peer =>
      rcases w.eq_or_other r with rfl | rfl
      · simp [hp,visible] at self
      · simp [hp,visible] at peer
    | taken self mq peer =>
      rcases w.eq_or_other r with rfl | rfl
      · simp [hp,visible] at self
      · rw [Role.other_other]
        exact ⟨mq,hw,self,rs,log⟩

theorem Session.move (h : Session v) (x : Exclusive v) (m : Move f r v v') : Session v' := by
  cases m with
  | rest => exact h
  | retreat hp => exact absurd hp (x.steady r)
  | win hp free =>
    obtain ⟨rs,mq,calm,log⟩ := h.alone (x.free free)
    refine .busy r 0 rs (by simp) (.idle ?_ mq ?_) (by simpa using log)
    · simp [visible]
    · simpa using calm r.other
  | take hp got =>
    obtain ⟨rfl,rfl,hh,self,rs,log⟩ := h.take hp got
    refine .busy r.other 2 rs hh (.taken ?_ rfl ?_) ?_
    · simpa using self
    · simp [visible]
    · simp [log,roundOf]
  | answer hp =>
    obtain ⟨mq,hh,self,rs,log⟩ := h.answer hp
    refine .busy r.other 3 rs hh (.answered ?_ (by simp [mq]) ?_) (by simp [log,roundOf])
    · simpa using self
    · simp [visible]
  | offer hp =>
    obtain ⟨mq,peer,rs,log⟩ := h.offer x hp
    refine .busy r 1 rs (x.owner r (by rw [hp]; rfl)) (.offered ?_ (by simp [mq]) ?_) ?_
    · simp [visible]
    · simpa using peer
    · simpa [roundOf] using log
  | hear hp got =>
    obtain ⟨-,rfl,rfl,peer,rs,log⟩ := h.hear x hp got
    refine .busy r 4 rs (x.owner r (by rw [hp]; rfl)) (.heard ?_ rfl ?_) ?_
    · simp [visible]
    · simpa using peer
    · simp [log,roundOf]
  | release hp =>
    have hr := x.owner r (by rw [hp]; rfl)
    obtain ⟨k,rs,stage,log⟩ := h.holder x hr
    cases stage with
    | heard self mq peer =>
      refine .free (rs ++ [r]) (r.both ?_ ?_) mq (r.both ?_ ?_) ?_
      · simp
      · simpa using (x.only hr).2
      · simp [visible]
      · simpa using peer
      · simp [log,roundOf]
    | idle self _ _ | offered self _ _ | taken self _ _ | answered self _ _ =>
      simp [hp,visible] at self
  | stray ok hp =>
    refine h.quiet rfl rfl rfl (r.both ?_ (by simp))
    rcases hp with hp | hp <;> simp [hp,visible]
  | reopen hp => exact h.quiet rfl rfl rfl (fun _ => rfl)
  | alarm hp | stamp hp | ready hp | raise hp _ | call hp | heed hp _ | mark hp | clear hp | back hp
  | enter hp _ | finish hp =>
    exact h.quiet rfl rfl rfl (r.both (by simp [hp,visible]) (by simp))

theorem Exclusive.turn (h : Exclusive v) (hf : ∀ r, ¬f.fails r) (t : Turn f v v') : Exclusive v' := by
  cases t with
  | move r m => exact h.move m
  | signal ok r => exact ⟨h.one,h.owner,h.done,h.steady,h.init⟩
  | handle r hp => exact ⟨h.one,h.owner,h.done,h.steady,h.init⟩
  | fail r ok => exact absurd ok (hf r)

theorem Session.turn (h : Session v) (x : Exclusive v) (hf : ∀ r, ¬f.fails r) (t : Turn f v v') :
    Session v' := by
  cases t with
  | move r m => exact h.move x m
  | signal ok r => exact h.quiet rfl rfl rfl (fun _ => rfl)
  | handle r hp => exact h.quiet rfl rfl rfl (fun _ => rfl)
  | fail r ok => exact absurd ok (hf r)

theorem start_exclusive : Exclusive start := by
  refine ⟨rfl,?_,?_,?_,?_⟩ <;> simp [start,owns]

theorem start_session : Session start := by
  refine .free [] ?_ rfl ?_ rfl <;> simp [start,visible]

end Ropeway.Handshake
