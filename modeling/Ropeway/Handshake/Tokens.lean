import Ropeway.Handshake.Session

/-! Counting the calls that are on their way. Without stray moves and without
signals from outside every call is answered by one acknowledgement. -/

namespace Ropeway.Handshake
open Function (update)
variable {f : Faults} {v v' : Protocol} {r : Role}

def heeding : Phase → Bool
  | .stopping | .waiting => true
  | _ => false

/-- The calls addressed to `r` that it has not yet answered: a pending signal, a
set flag, an acknowledgement that has not received its message. -/
def tokens (v : Protocol) (r : Role) : Nat :=
  (v.pending r).toNat + (v.signalled r).toNat + (heeding (v.phase r)).toNat

def uncalled : Phase → Bool
  | .stamping | .setting | .raising | .calling => true
  | _ => false

def due (v : Protocol) (w : Role) : Nat :=
  if uncalled (v.phase w) then 0
  else match visible (v.phase w) with
    | none => 1
    | some .listening => if v.mq = [.to w.other .readyToResume] then 1 else 0
    | some _ => 0

/-- The holder of the lock `w` is not called by anybody, is marked as initiator
from its stamp on, and its partner has exactly the calls `w` has outstanding. -/
structure Serves (v : Protocol) (w : Role) : Prop where
  self : tokens v w = 0
  peer : tokens v w.other = due v w
  init : v.phase w ≠ .stamping → v.initiator w = true

theorem due_le_one (v : Protocol) (w : Role) : due v w ≤ 1 := by
  unfold due
  repeat' split
  all_goals omega

structure Paired (v : Protocol) : Prop where
  free : (∀ r, v.held r = false) → ∀ r, tokens v r = 0
  busy : ∀ w, v.held w = true → Serves v w

/-- A party with a call outstanding is not the holder, and the other one is. -/
theorem Paired.called (h : Paired v) (ht : 0 < tokens v r) :
    v.held r = false ∧ v.held r.other = true := by
  cases hs : v.held r with
  | true =>
    have hz := (h.busy r hs).self
    omega
  | false =>
    cases ho : v.held r.other with
    | true => exact ⟨rfl,rfl⟩
    | false =>
      have hz := h.free (r.both hs ho) r
      omega

theorem Paired.le_one (h : Paired v) (r : Role) : tokens v r ≤ 1 := by
  by_cases ht : 0 < tokens v r
  · have hs := (h.busy r.other (h.called ht).2).peer
    rw [Role.other_other] at hs
    rw [hs]
    exact due_le_one v r.other
  · omega

/-- Moves that change neither the calls nor what the holder has outstanding. -/
theorem Paired.same (h : Paired v) (held : v'.held = v.held)
    (tok : ∀ q, tokens v' q = tokens v q)
    (out : ∀ w, v.held w = true → due v' w = due v w)
    (init : ∀ w, v.held w = true → (v.phase w ≠ .stamping → v.initiator w = true) →
      v'.phase w ≠ .stamping → v'.initiator w = true) : Paired v' := by
  refine ⟨?_,?_⟩
  · intro hf q
    rw [tok]
    exact h.free (by rw [← held]; exact hf) q
  · intro w hw
    rw [held] at hw
    have hs := h.busy w hw
    refine ⟨?_,?_,init w hw hs.init⟩
    · rw [tok]
      exact hs.self
    · rw [tok,out w hw]
      exact hs.peer

/-- A move of `r` between two phases that count alike. -/
theorem Paired.local (h : Paired v) (held : v'.held = v.held) (mq : v'.mq = v.mq)
    (pending : v'.pending = v.pending) (signalled : v'.signalled = v.signalled)
    (phase : v'.phase r.other = v.phase r.other)
    (initiator : v'.initiator r.other = v.initiator r.other)
    (heed : heeding (v'.phase r) = heeding (v.phase r))
    (unc : uncalled (v'.phase r) = uncalled (v.phase r))
    (vis : visible (v'.phase r) = visible (v.phase r))
    (init : v.held r = true → (v.phase r ≠ .stamping → v.initiator r = true) →
      v'.phase r ≠ .stamping → v'.initiator r = true) : Paired v' := by
  refine h.same held (r.both ?_ ?_) ?_ (r.both init ?_)
  · simp only [tokens,pending,signalled,heed]
  · simp only [tokens,pending,signalled,phase]
  · intro w _
    rcases r.eq_or_other w with rfl | rfl
    · simp only [due,unc,vis,mq]
    · simp only [due,phase,mq]
  · intro _ hi
    rw [phase,initiator]
    exact hi

theorem Paired.win (h : Paired v) (x : Exclusive v) (free : 0 < v.lock)
    (hp : v.phase r = .trying) :
    Paired { v with
      lock := v.lock - 1
      phase := update v.phase r .stamping
      held := update v.held r true } := by
  have nobody := x.free free
  have hself := h.free nobody r
  have hpeer := h.free nobody r.other
  refine ⟨fun hf => by simpa using hf r,r.both ?_ ?_⟩
  · intro _
    refine ⟨?_,?_,by simp⟩
    · simpa [tokens,hp,heeding] using hself
    · simpa [tokens,due,uncalled] using hpeer
  · intro hw
    simp [nobody] at hw

theorem Paired.call (h : Paired v) (x : Exclusive v) (hp : v.phase r = .calling) :
    Paired { v with
      phase := update v.phase r .loop
      pending := update v.pending r.other true } := by
  have hr := x.owner r (by rw [hp]; rfl)
  have hs := h.busy r hr
  have hself := hs.self
  have hpeer : tokens v r.other = 0 := by
    rw [hs.peer]
    simp [due,hp,uncalled]
  refine ⟨fun hf => by simpa [hr] using hf r,r.both ?_ ?_⟩
  · intro _
    refine ⟨?_,?_,fun _ => hs.init (by simp [hp])⟩
    · simpa [tokens,hp,heeding] using hself
    · simp_all [tokens,due,uncalled,visible]
  · intro hw
    rw [(x.only hr).2] at hw
    cases hw

theorem Paired.heed (h : Paired v) (hp : v.phase r = .loop)
    (sig : v.signalled r = true) :
    Paired { v with
      phase := update v.phase r .stopping
      signalled := update v.signalled r false
      initiator := update v.initiator r false } := by
  obtain ⟨hr,ho⟩ := h.called (r := r) (by simp only [tokens,sig,Bool.toNat_true]; omega)
  refine h.same rfl (r.both ?_ ?_) (r.both ?_ ?_) (r.both ?_ ?_)
  · simp [tokens,sig,hp,heeding]
  · simp [tokens]
  · simp [hr]
  · simp [due]
  · simp [hr]
  · simp

theorem Paired.take (h : Paired v) (s : Session v) {m : WorkerMsg}
    {q : List WorkerMsg} (hp : v.phase r = .waiting) (got : v.receive r = some (m,q)) :
    Paired { v with
      mq := q
      phase := update v.phase r .answering
      log := v.log ++ [.taken r] } := by
  obtain ⟨hr,ho⟩ := h.called (r := r) (by simp [tokens,hp,heeding])
  obtain ⟨rfl,rfl,-,self,-⟩ := s.take hp got
  have hs := h.busy r.other ho
  have hone := h.le_one r
  refine ⟨fun hf => by simpa [ho] using hf r.other,r.both ?_ ?_⟩
  · intro hw
    simp [hr] at hw
  · intro _
    refine ⟨?_,?_,?_⟩
    · simpa [tokens] using hs.self
    · simp_all [tokens,due,heeding]
    · simpa using hs.init

theorem Paired.answer (h : Paired v) (x : Exclusive v) (s : Session v)
    (hp : v.phase r = .answering) :
    Paired { v with
      mq := v.mq ++ [.to r.other .iAmReady]
      phase := update v.phase r .clearing
      log := v.log ++ [.answered r] } := by
  obtain ⟨mq,ho,self,-⟩ := s.answer hp
  have hr := (x.only ho).2
  rw [Role.other_other] at hr
  refine h.same rfl (r.both ?_ ?_) (r.both ?_ ?_) (r.both ?_ ?_)
  · simp [tokens,hp,heeding]
  · simp [tokens]
  · simp [hr]
  · simp [due,self,mq,WorkerMsg.to]
  · simp [hr]
  · simp

theorem Paired.offer (h : Paired v) (x : Exclusive v) (s : Session v)
    (hp : v.phase r = .offering) :
    Paired { v with
      mq := v.mq ++ [.to r.other .readyToResume]
      phase := update v.phase r .listening
      opened := update v.opened r false
      log := v.log ++ [.offered r] } := by
  have hr := x.owner r (by rw [hp]; rfl)
  have ho := (x.only hr).2
  obtain ⟨mq,-⟩ := s.offer x hp
  refine h.same rfl (r.both ?_ ?_) (r.both ?_ ?_) (r.both ?_ ?_)
  · simp [tokens,hp,heeding]
  · simp [tokens]
  · simp [due,mq,hp,uncalled,visible]
  · simp [ho]
  · simp [hp]
  · simp

theorem Paired.hear (h : Paired v) (x : Exclusive v) (s : Session v) {m : WorkerMsg}
    {q : List WorkerMsg} (hp : v.phase r = .listening) (got : v.receive r = some (m,q)) :
    Paired { v with
      mq := q
      phase := update v.phase r .closing
      log := v.log ++ [.heard r] } := by
  have hr := x.owner r (by rw [hp]; rfl)
  have ho := (x.only hr).2
  obtain ⟨hmq,-⟩ := s.hear x hp got
  refine h.same rfl (r.both ?_ ?_) (r.both ?_ ?_) (r.both ?_ ?_)
  · simp [tokens,hp,heeding]
  · simp [tokens]
  · simp [due,hmq,hp,uncalled,visible,WorkerMsg.to]
  · simp [ho]
  · simp [hp]
  · simp

theorem Paired.release (h : Paired v) (x : Exclusive v) (hp : v.phase r = .closing) :
    Paired { v with
      lock := v.lock + 1
      phase := update v.phase r .closed
      held := update v.held r false
      log := v.log ++ [.resumed r] } := by
  have hr := x.owner r (by rw [hp]; rfl)
  have ho := (x.only hr).2
  have hs := h.busy r hr
  have hpeer : tokens v r.other = 0 := by
    rw [hs.peer]
    simp [due,hp,uncalled,visible]
  refine ⟨fun _ => r.both ?_ ?_,r.both ?_ ?_⟩
  · simpa [tokens,hp,heeding] using hs.self
  · simpa [tokens] using hpeer
  · simp
  · simp [ho]

theorem Paired.move (h : Paired v) (x : Exclusive v) (s : Session v)
    (hs : ¬f.stray) (m : Move f r v v') : Paired v' := by
  cases m with
  | rest => exact h
  | stray ok => exact absurd ok hs
  | retreat hp => exact absurd hp (x.steady r)
  | win hp free => exact h.win x free hp
  | call hp => exact h.call x hp
  | heed hp sig => exact h.heed hp sig
  | take hp got => exact h.take s hp got
  | alarm hp | ready hp | raise hp _ | mark hp | clear hp | back hp | enter hp _ =>
    refine h.local (r := r) rfl rfl rfl rfl ?_ rfl ?_ ?_ ?_ ?_
    all_goals simp [hp,heeding,uncalled,visible]
  | stamp hp =>
    refine h.local (r := r) rfl rfl rfl rfl ?_ ?_ ?_ ?_ ?_ ?_
    all_goals simp [hp,heeding,uncalled,visible]
  | finish hp =>
    refine h.local (r := r) rfl rfl rfl rfl ?_ ?_ ?_ ?_ ?_ ?_
    all_goals simp [hp,heeding,uncalled,visible,x.done r hp]
  | reopen hp => exact h.local (r := r) rfl rfl rfl rfl rfl rfl rfl rfl rfl (fun _ hi => hi)
  | answer hp => exact h.answer x s hp
  | offer hp => exact h.offer x s hp
  | hear hp got => exact h.hear x s hp got
  | release hp => exact h.release x hp

theorem Paired.turn (h : Paired v) (x : Exclusive v) (s : Session v)
    (hs : ¬f.stray) (ho : ¬f.outside) (hf : ∀ r, ¬f.fails r) (t : Turn f v v') : Paired v' := by
  cases t with
  | move r m => exact h.move x s hs m
  | signal ok => exact absurd ok ho
  | fail r ok => exact absurd ok (hf r)
  | handle r hp =>
    refine h.same rfl (r.both ?_ ?_) (fun _ _ => rfl) (fun _ _ hi => hi)
    · have hone := h.le_one r
      cases hsig : v.signalled r with
      | false => simp [tokens,Protocol.handled,hp,hsig]
      | true =>
        simp only [tokens,hp,hsig,Bool.toNat_true] at hone
        omega
    · simp [tokens,Protocol.handled]

end Ropeway.Handshake
