import Ropeway.Handshake.Session

/-! The raised flag under the condition that no late clear is on its way. -/

namespace Ropeway.Handshake
open Function (update)
variable {f : Faults} {v v' : Protocol} {r : Role}

/-- While an emergency is open its initiator still holds the lock, has not begun
to resume, and nobody is about to clear the flag. -/
structure Open (v : Protocol) (w : Role) : Prop where
  held : v.held w = true
  stop : v.stop = true
  self : visible (v.phase w) = none
  calm : ∀ q, v.phase q ≠ .clearing

def Flagged (v : Protocol) : Prop := ∀ w, v.opened w = true → Open v w

/-- The session of an open emergency is idle, so its partner does not show either. -/
theorem Open.peer {w : Role} (h : Open v w) (x : Exclusive v) (s : Session v) :
    ∀ q, visible (v.phase q) = none := by
  obtain ⟨k,rs,stage,_⟩ := s.holder x h.held
  have self := h.self
  cases stage with
  | idle self _ peer => exact w.both self peer
  | offered hs _ _ | taken hs _ _ | answered hs _ _ | heard hs _ _ => simp [hs] at self

theorem Open.holder {w : Role} (h : Open v w) (x : Exclusive v) (hr : v.held r = true) : w = r := by
  rcases r.eq_or_other w with rfl | rfl
  · rfl
  · have ho := h.held
    rw [(x.only hr).2] at ho
    cases ho

/-- A move of `r` to a phase that neither shows nor clears, with the flag not
cleared and the histories untouched. -/
theorem Open.local {w : Role} (h : Open v w) (held : v'.held = v.held)
    (stop : v.stop = true → v'.stop = true) (phase : v'.phase r.other = v.phase r.other)
    (dark : visible (v'.phase r) = none) (keep : v'.phase r ≠ .clearing) : Open v' w := by
  refine ⟨by rw [held]; exact h.held,stop h.stop,?_,r.both keep (by rw [phase]; exact h.calm _)⟩
  rcases r.eq_or_other w with rfl | rfl
  · exact dark
  · rw [phase]
    exact h.self

theorem Flagged.move (h : Flagged v) (x : Exclusive v) (s : Session v)
    (hl : ¬f.late) (m : Move f r v v') : Flagged v' := by
  intro w hw
  cases m with
  | rest => exact h w hw
  | retreat hp => exact absurd hp (x.steady r)
  | win hp free =>
    have ho := (h w hw).held
    rw [x.free free] at ho
    cases ho
  | raise hp ok =>
    have hr := x.owner r (by rw [hp]; rfl)
    rcases r.eq_or_other w with rfl | rfl
    · refine ⟨hr,rfl,by simp [visible],w.both (by simp) ?_⟩
      simpa using fun hc => hl (ok hc)
    · have hne := (h r.other (by simpa using hw)).held
      rw [(x.only hr).2] at hne
      cases hne
  | take hp got =>
    obtain ⟨-,-,-,self,-⟩ := s.take hp got
    have hd := (h w hw).peer x s r.other
    rw [hd] at self
    cases self
  | answer hp =>
    have hd := (h w hw).peer x s r
    simp [hp,visible] at hd
  | clear hp => exact ((h w hw).calm r hp).elim
  | offer hp =>
    have hr := x.owner r (by rw [hp]; rfl)
    rcases r.eq_or_other w with rfl | rfl
    · simp at hw
    · have hne := (h r.other (by simpa using hw)).held
      rw [(x.only hr).2] at hne
      cases hne
  | hear hp _ | reopen hp | release hp =>
    have hr := x.owner r (by rw [hp]; rfl)
    obtain rfl := (h w hw).holder x hr
    have hd := (h w hw).self
    simp [hp,visible] at hd
  | mark hp => exact (h w hw).local (r := r) rfl (fun _ => rfl) (by simp) (by simp [visible]) (by simp)
  | alarm hp | stamp hp | ready hp | call hp | heed hp _ | stray _ hp | back hp | enter hp _
  | finish hp =>
    exact (h w hw).local (r := r) rfl id (by simp) (by simp [visible]) (by simp)

theorem Flagged.turn (h : Flagged v) (x : Exclusive v) (s : Session v) (hl : ¬f.late)
    (hf : ∀ r, ¬f.fails r) (t : Turn f v v') : Flagged v' := by
  cases t with
  | move r m => exact h.move x s hl m
  | signal _ r => exact fun w hw => ⟨(h w hw).held,(h w hw).stop,(h w hw).self,(h w hw).calm⟩
  | handle r _ => exact fun w hw => ⟨(h w hw).held,(h w hw).stop,(h w hw).self,(h w hw).calm⟩
  | fail r ok => exact absurd ok (hf r)

theorem start_flagged : Flagged start := by
  intro w hw
  cases hw

end Ropeway.Handshake
