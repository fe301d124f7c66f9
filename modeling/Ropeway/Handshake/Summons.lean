import Ropeway.Handshake.Session

/-! From the call of an initiator until it hears the answer, its partner has the call
before it, acknowledges or has answered. -/

namespace Ropeway.Handshake
open Function (update)
variable {f : Faults} {v v' : Protocol} {r w : Role}

def summoning : Phase → Bool
  | .loop | .trying | .offering | .listening => true
  | _ => false

def acknowledging : Phase → Bool
  | .stopping | .waiting | .answering => true
  | _ => false

def answered (v : Protocol) (w : Role) : Prop := ∃ m ∈ v.mq, m.mtype = w.dest

def called (v : Protocol) (w : Role) : Prop :=
  v.pending w.other = true ∨ v.signalled w.other = true ∨
    acknowledging (v.phase w.other) = true ∨ answered v w

structure Move.Frame (r : Role) (v v' : Protocol) : Prop where
  own : v'.pending r = v.pending r
  seen : v'.signalled r = true → v.signalled r = true
  called : v.pending r.other = true → v'.pending r.other = true
  signalled : v'.signalled r.other = v.signalled r.other
  phase : v'.phase r.other = v.phase r.other
  initiator : v'.initiator r.other = v.initiator r.other

theorem Move.frame (m : Move f r v v') : Move.Frame r v v' := by
  cases m <;> constructor <;> simp

theorem called_handled (r : Role) (h : called v w) : called (v.handled r) w := by
  rcases h with hc | hc | hc
  · by_cases hr : w.other = r
    · exact .inr (.inl (by simp [Protocol.handled,hr]))
    · exact .inl (by simpa [Protocol.handled,hr] using hc)
  · refine .inr (.inl ?_)
    by_cases hr : w.other = r
    · simp [Protocol.handled,hr]
    · simpa [Protocol.handled,hr] using hc
  · exact .inr (.inr hc)

theorem answered_send (h : answered v w) (m : WorkerMsg) :
    ∃ m' ∈ v.mq ++ [m], m'.mtype = w.dest := by
  obtain ⟨m',hm,ht⟩ := h
  exact ⟨m',List.mem_append_left _ hm,ht⟩

/-- The partner takes only its own messages. -/
theorem answered_receive {m : WorkerMsg} {q : List WorkerMsg} (h : answered v w)
    (got : v.receive w.other = some (m,q)) : ∃ m' ∈ q, m'.mtype = w.dest := by
  obtain ⟨a,b,hq,rfl,ht,-⟩ := Lib.msgrcv_split (by cases w <;> decide) got
  obtain ⟨m',hm,ht'⟩ := h
  rw [hq] at hm
  refine ⟨m',?_,ht'⟩
  rcases List.mem_append.mp hm with hm | hm
  · exact List.mem_append_left _ hm
  · rcases List.mem_cons.mp hm with rfl | hm
    · rw [ht] at ht'
      exact absurd ht' w.dest_other_ne
    · exact List.mem_append_right _ hm

theorem answered_other (m : Move f w.other v v') (h : answered v w) : answered v' w := by
  cases m with
  | take hp got | hear hp got => exact answered_receive h got
  | answer | offer => exact answered_send h _
  | _ => exact h

def Yielded (w : Role) (v : Protocol) : Prop :=
  acknowledging (v.phase w) = true ∨ v.phase w = .clearing ∨ v.phase w = .cleared →
    v.initiator w = false

theorem Yielded.same (h : Yielded w v) (hp : v'.phase w = v.phase w)
    (hi : v'.initiator w = v.initiator w) : Yielded w v' := by
  unfold Yielded
  rw [hp,hi]
  exact h

theorem Yielded.own (h : Yielded w v) (m : Move f w v v') : Yielded w v' := by
  cases m with
  | rest => exact h
  | mark hp | take hp | answer hp | clear hp =>
    intro _
    exact h (by simp [hp,acknowledging])
  | heed | stray | finish =>
    intro _
    simp
  | reopen hp => exact h.same rfl rfl
  | _ => simp [Yielded,acknowledging]

theorem Yielded.turn (h : Yielded w v) (t : Turn f v v') : Yielded w v' := by
  cases t with
  | move r m =>
    rcases w.eq_or_other r with rfl | rfl
    · exact h.own m
    · exact h.same (by simpa using m.frame.phase) (by simpa using m.frame.initiator)
  | signal | handle => exact h.same rfl rfl
  | @fail x r ok hp hx =>
    have hinit : x.initiator = v.initiator := by rcases hx with rfl | ⟨-,rfl⟩ <;> rfl
    by_cases hr : w = r
    · subst hr
      simp [Yielded,acknowledging]
    · exact h.same (by simp [hr]) (by rw [hinit])

theorem start_yielded (w : Role) : Yielded w start := fun _ => rfl

structure Summoned (w : Role) (v : Protocol) : Prop where
  call : v.initiator w = true → summoning (v.phase w) = true → called v w
  steady : v.phase w ≠ .retreating

/-- A move of `w` itself that leaves the call alone. -/
theorem Summoned.keep (h : Summoned w v) (hi : v'.initiator w = true → v.initiator w = true)
    (hs : summoning (v'.phase w) = true → summoning (v.phase w) = true)
    (hc : called v w → called v' w) (hr : v'.phase w ≠ .retreating) : Summoned w v' :=
  ⟨fun h1 h2 => hc (h.call (hi h1) (hs h2)),hr⟩

theorem Summoned.own (h : Summoned w v) (y : Yielded w v) (m : Move f w v v') :
    Summoned w v' := by
  cases m with
  | rest => exact h
  | call hp => exact ⟨fun _ _ => .inl (by simp),by simp⟩
  | retreat hp => exact absurd hp h.steady
  | heed | stray | finish => exact ⟨by simp,by simp⟩
  | back hp =>
    have hi := y (by simp [hp])
    exact ⟨by simp [hi],by simp⟩
  | alarm hp | enter hp _ =>
    refine h.keep id (by simp [hp,summoning]) ?_ (by simp)
    simp [called,answered]
  | offer hp =>
    refine h.keep id (by simp [hp,summoning]) ?_ (by simp)
    rintro (hc | hc | hc | hc)
    · exact .inl hc
    · exact .inr (.inl hc)
    · exact .inr (.inr (.inl (by simpa using hc)))
    · exact .inr (.inr (.inr (answered_send hc _)))
  | reopen hp => exact ⟨by simp [hp,summoning],by simp [hp]⟩
  | _ => exact ⟨by simp [summoning],by simp⟩

/-- A move of the partner. -/
theorem Summoned.peer (h : Summoned w v) (hp : v'.phase w = v.phase w)
    (hi : v'.initiator w = v.initiator w) (hc : called v w → called v' w) : Summoned w v' :=
  h.keep (by rw [hi]; exact id) (by rw [hp]; exact id) hc (by rw [hp]; exact h.steady)

theorem Summoned.other (h : Summoned w v) (m : Move f w.other v v') : Summoned w v' := by
  have hm := m.frame
  apply h.peer (by simpa using hm.phase) (by simpa using hm.initiator)
  rintro (hc | hc | hc | hc)
  · exact .inl (hm.own.trans hc)
  · cases m with
    | heed => exact .inr (.inr (.inl (by simp [acknowledging])))
    | _ => exact .inr (.inl hc)
  · cases m with
    | rest => exact .inr (.inr (.inl hc))
    | mark | take => exact .inr (.inr (.inl (by simp [acknowledging])))
    | answer => exact .inr (.inr (.inr ⟨.to w .iAmReady,by simp,rfl⟩))
    | stray ok hp =>
      exact .inr (.inr (.inl (by simp [acknowledging])))
    | reopen hp => exact .inr (.inr (.inl hc))
    | alarm hp | win hp | stamp hp | ready hp | raise hp | call hp | retreat hp | heed hp | clear hp
    | back hp | enter hp | offer hp | hear hp | release hp | finish hp =>
      simp [hp,acknowledging] at hc
  · exact .inr (.inr (.inr (answered_other m hc)))

/-- Whatever else goes wrong, the call of `w` is not lost when its own wait before
raising the flag does not fail. -/
theorem Summoned.turn (h : Summoned w v) (y : Yielded w v) (hf : ¬f.fails w) (t : Turn f v v') :
    Summoned w v' := by
  cases t with
  | move r m =>
    rcases w.eq_or_other r with rfl | rfl
    · exact h.own y m
    · exact h.other m
  | signal ok r =>
    refine h.peer rfl rfl ?_
    rintro (hc | hc)
    · refine .inl ?_
      by_cases hr : w.other = r
      · simp [hr]
      · simpa [hr] using hc
    · exact .inr hc
  | handle r hr => exact h.peer rfl rfl (called_handled r)
  | @fail x r ok hp hx =>
    have hphase : x.phase = v.phase := by rcases hx with rfl | ⟨-,rfl⟩ <;> rfl
    have hinit : x.initiator = v.initiator := by rcases hx with rfl | ⟨-,rfl⟩ <;> rfl
    have hcall : called v w → called x w := by
      rcases hx with rfl | ⟨-,rfl⟩
      · exact id
      · exact called_handled r
    rcases w.eq_or_other r with rfl | rfl
    · exact absurd ok hf
    apply h.peer (by simp) (by rw [hinit])
    intro h0
    rcases hcall h0 with hc | hc | hc | hc
    · exact .inl hc
    · exact .inr (.inl hc)
    · rw [hphase] at hc
      simp [hp,acknowledging] at hc
    · exact .inr (.inr (.inr hc))

/-- Only its call makes an initiator summon its partner. -/
theorem Summoned.begin (h : Summoned w v) (y : Yielded w v) (m : Move f w v v')
    (hi : v'.initiator w = true) (hs : summoning (v'.phase w) = true) :
    v.initiator w = true ∧ summoning (v.phase w) = true ∨ v'.pending w.other = true := by
  cases m with
  | rest => exact .inl ⟨hi,hs⟩
  | call => exact .inr (by simp)
  | retreat hp => exact absurd hp h.steady
  | back hp =>
    have hno := y (by simp [hp])
    simp [hno] at hi
  | alarm hp | enter hp | offer hp => exact .inl ⟨hi,by simp [hp,summoning]⟩
  | reopen hp => simp [hp,summoning] at hs
  | heed | stray | finish => simp at hi
  | _ => simp [summoning] at hs

theorem start_summoned (w : Role) : Summoned w start :=
  ⟨by simp [start],by simp [start]⟩

def heard : Phase → Bool
  | .closing | .closed => true
  | _ => false

/-- An initiator starts to wait for an answer with its stamp only. -/
theorem Yielded.awaits (y : Yielded w v) (m : Move f w v v') (hi : v'.initiator w = true)
    (hh : heard (v'.phase w) = false) (hn : ¬answered v' w) :
    v.initiator w = true ∧ heard (v.phase w) = false ∧ ¬answered v w ∨ v.phase w = .stamping := by
  cases m with
  | rest => exact .inl ⟨hi,hh,hn⟩
  | stamp hp => exact .inr hp
  | take hp =>
    have hno := y (by simp [hp,acknowledging])
    simp [hno] at hi
  | answer hp | offer hp =>
    exact .inl ⟨hi,by simp [hp,heard],fun ha => hn (answered_send ha _)⟩
  | heed | stray | finish => simp at hi
  | hear | release => simp [heard] at hh
  | reopen hp => simp [hp,heard] at hh
  | alarm hp | win hp | ready hp | raise hp | call hp | retreat hp | mark hp | clear hp | back hp
  | enter hp => exact .inl ⟨hi,by simp [hp,heard],hn⟩

end Ropeway.Handshake
