import Ropeway.Frames.Traffic

/-! Boarding: the order of the tourists between the platform queue and the chairs. -/

namespace Ropeway
variable {n : Nat} {s s' : Sys n} {a : Act n} {u : Setup n} {tr : List (Sys n × Act n)}

/-- The tourists that have sent themselves to the platform and those that have been
buffered on a chair, in order. -/
structure Manifest where
  sends : List Nat
  boarded : List Nat

def Manifest.note (g : Manifest) (s : Sys n) : Act n → Manifest
  | .tourist i _ =>
    if (s.tourists i).pc = .boardSend then
      { g with sends := g.sends ++ [(s.tourists i).data.id] }
    else g
  | .worker .lower _ =>
    if (s.worker .lower).pc = .lower .place ∧ s.lower.fits = true then
      { g with
        boarded := g.boarded ++
          (s.lower.buffer.pending.drop s.lower.pending.length).map (·.touristId) }
    else g
  | _ => g

def manifest (tr : List (Sys n × Act n)) : Manifest := Lib.history Manifest.note ⟨[], []⟩ tr

/-- The places at which the lower worker has a tourist in hand: received, and neither
buffered nor put back. -/
def handAt : WorkerPc → PlatformMsg → List PlatformMsg
  | .lower .recheckWait, m | .lower .recheckRead, m | .lower .recheckPost, m
  | .lower .requeueStop, m | .lower .place, m | .lower .requeue, m
  | .lower (.dispatchWait .noFit), m | .lower (.dispatchSend .noFit _), m => [m]
  | _, _ => []

def inHand (s : Sys n) : List PlatformMsg := handAt (s.worker .lower).pc s.lower.msg

/-- The messages of `MQ_PLATFORM` that were put back, and those sent by tourists. -/
def requeued (s : Sys n) : List PlatformMsg := s.mqPlatform.filter (·.mtype == 1)

def ordinary (s : Sys n) : List PlatformMsg := s.mqPlatform.filter (·.mtype == 2)

/-- The wait for `SEM_STATE` after a successful receive is not interrupted. -/
def recheckUninterrupted : Env n := fun _ s a =>
  match a with
  | .deliver .lower _ =>
    !((s.worker .lower).asleep && (s.worker .lower).pc == .lower .recheckWait)
  | _ => true

structure Boarding (g : Manifest) (s : Sys n) : Prop where
  order : g.boarded ++ (inHand s ++ requeued s ++ ordinary s).map (·.touristId) = g.sends
  single : (inHand s).length + (requeued s).length ≤ 1
  typed : ∀ m ∈ s.mqPlatform, m.mtype = 1 ∨ m.mtype = 2
  needs : ∀ m ∈ inHand s ++ s.mqPlatform, 1 ≤ m.slotsNeeded
  room : s.lower.pending.length ≤ s.lower.currentChairSlots
  seats : ∀ i, 1 ≤ (s.tourists i).data.chairSlots

theorem hand_calm {pc : WorkerPc} (h : atWork pc = false) (m : PlatformMsg) : handAt pc m = [] := by
  cases pc <;> first | rfl | cases h

theorem hand_wake {l : LowerLocals} {pc : WorkerPc} (h : pc ≠ .lower .recheckWait)
    (m : PlatformMsg) : handAt (wakePc l pc) m = handAt pc m := by
  unfold wakePc
  repeat' split
  all_goals first | rfl | exact absurd rfl h

/-- Outside its work the hand of the lower worker is empty or stays as it is. -/
theorem hand_still (h : Still a s s') (ok : recheckUninterrupted tr s a = true) :
    inHand s' = inHand s := by
  unfold inHand
  rw [h.lower]
  cases h.shift .lower with
  | same he => rw [he]
  | calm before after => rw [hand_calm before,hand_calm after]
  | enter he =>
    generalize (s'.worker .lower).pc = pc at he
    cases he with
    | lower hp | last hp => rw [hp]; rfl
  | wake sent woken he =>
    rw [he]
    refine hand_wake ?_ _
    intro hpc
    simp [recheckUninterrupted,sent,wakes_asleep woken,hpc] at ok

theorem Boarding.keep {g : Manifest} (h : Boarding g s) (hq : s'.mqPlatform = s.mqPlatform)
    (hh : inHand s' = inHand s) (hr : s'.lower.pending.length ≤ s'.lower.currentChairSlots)
    (ht : ∀ i, (s'.tourists i).data.chairSlots = (s.tourists i).data.chairSlots) :
    Boarding g s' := by
  refine ⟨?_,?_,by rw [hq]; exact h.typed,by rw [hh,hq]; exact h.needs,hr,?_⟩
  · simp only [requeued,ordinary,hh,hq]
    exact h.order
  · simp only [requeued,hh,hq]
    exact h.single
  · intro i
    rw [ht]
    exact h.seats i

theorem note_still (g : Manifest) (h : Still a s s') : g.note s a = g := by
  unfold Manifest.note
  split
  · exact absurd rfl (h.visitor _ _)
  · have hidle := h.idle _ _ rfl
    split
    · rename_i hp
      simp [hp.1,atWork] at hidle
    · rfl
  · rfl

theorem Boarding.still {g : Manifest} (h : Boarding g s) (hs : Still a s s')
    (ok : recheckUninterrupted tr s a = true) : Boarding (g.note s a) s' := by
  rw [note_still g hs]
  refine h.keep hs.mqPlatform (hand_still hs ok) ?_ ?_
  · rw [hs.lower]
    exact h.room
  · intro i
    rw [hs.tourists]

/-- `msgrcv` with type -2 on a queue with at most one message that was put back takes
the head of the line. -/
theorem receive_line {q r : List PlatformMsg} {m : PlatformMsg}
    (hm : Lib.msgrcv PlatformMsg.mtype q (-2) = some (m,r))
    (typed : ∀ y ∈ q, y.mtype = 1 ∨ y.mtype = 2)
    (single : (q.filter (·.mtype == 1)).length ≤ 1) :
    (∀ y ∈ r, y ∈ q) ∧ m ∈ q ∧ r.filter (·.mtype == 1) = [] ∧
      q.filter (·.mtype == 1) ++ q.filter (·.mtype == 2) = m :: r.filter (·.mtype == 2) := by
  obtain ⟨a,b,rfl,rfl,ha,hlow⟩ := Lib.msgrcv_lowest (by decide) hm
  have hmem : m ∈ a ++ m :: b := by simp
  refine ⟨?_,hmem,?_⟩
  · intro y hy
    simp only [List.mem_append,List.mem_cons] at hy ⊢
    tauto
  · rcases typed m hmem with ht | ht
    · -- It is the one message that was put back, so no other of its type is left.
      have hone : (a.filter (·.mtype == 1)).length + (b.filter (·.mtype == 1)).length = 0 := by
        simp only [List.filter_append,List.filter_cons,ht,beq_self_eq_true,if_true,
          List.length_append,List.length_cons] at single
        omega
      have hna : a.filter (·.mtype == 1) = [] := List.length_eq_zero_iff.mp (by omega)
      have hnb : b.filter (·.mtype == 1) = [] := List.length_eq_zero_iff.mp (by omega)
      constructor
      · rw [List.filter_append,hna,hnb]
        rfl
      · simp [List.filter_append,ht,hna,hnb]
    · -- Nothing was put back, so it is the oldest message.
      have hall : ∀ y ∈ a ++ m :: b, y.mtype = 2 := by
        intro y hy
        have hle := hlow y hy (by rcases typed y hy with ht | ht <;> simp [ht])
        rcases typed y hy with h1 | h2
        · omega
        · exact h2
      have ha0 : a = [] := by
        rw [List.eq_nil_iff_forall_not_mem]
        intro y hy
        exact ha y hy ((hall y (by simp [hy])).trans ht.symm)
      subst ha0
      have hb1 : b.filter (·.mtype == 1) = [] := by
        rw [List.filter_eq_nil_iff]
        intro y hy
        simp [hall y (by simp [hy])]
      constructor
      · simpa using hb1
      · simp [ht,hb1]

/-- The hand is empty when the lower worker receives, and the line does not change. -/
theorem Boarding.receive {g : Manifest} {m : PlatformMsg} {q : List PlatformMsg}
    (h : Boarding g s) (hp : (s.worker .lower).pc = .lower .receive)
    (hm : receivePlatform s = some (m,q)) {w : Worker} (hw : w.pc = .lower .recheckWait) :
    Boarding g ({ s with mqPlatform := q, lower := { s.lower with msg := m } }.setWorker .lower
      w) := by
  have hnone : inHand s = [] := by simp [inHand,hp,handAt]
  have horder := h.order
  have hsingle := h.single
  simp only [hnone,List.nil_append,List.length_nil,Nat.zero_add,requeued,ordinary] at horder hsingle
  obtain ⟨hsub,hmem,hleft,hline⟩ := receive_line hm h.typed hsingle
  have hhand : inHand ({ s with mqPlatform := q, lower := { s.lower with msg := m } }.setWorker
      .lower w) = [m] := by simp [inHand,hw,handAt]
  refine ⟨?_,?_,fun y hy => h.typed y (hsub y hy),?_,h.room,h.seats⟩
  · rw [hhand,← horder,hline]
    simp [requeued,ordinary,hleft]
  · rw [hhand]
    simp [requeued,hleft]
  · intro y hy
    rw [hhand] at hy
    rcases List.mem_append.mp hy with hy | hy
    · rw [List.mem_singleton.mp hy]
      exact h.needs m (by simp [hmem])
    · exact h.needs y (List.mem_append_right _ (hsub y hy))

theorem Boarding.requeue {g : Manifest} (h : Boarding g s) (hh : inHand s = [s.lower.msg]) :
    Boarding g (requeuePlatform s) := by
  have horder := h.order
  have hsingle := h.single
  have hnone : requeued s = [] := by
    rw [hh,List.length_singleton] at hsingle
    exact List.length_eq_zero_iff.mp (by omega)
  have hhand : inHand (requeuePlatform s) = [] := by
    simp [inHand,requeuePlatform,handAt]
  refine ⟨?_,?_,?_,?_,h.room,h.seats⟩
  · rw [← horder,hhand,hh,hnone]
    unfold requeued at hnone
    simp [requeued,ordinary,requeuePlatform,hnone]
  · rw [hhand]
    unfold requeued at hnone ⊢
    simp [requeuePlatform,hnone]
  · intro y hy
    simp only [requeuePlatform,Sys.goto_mqPlatform,List.mem_append,List.mem_singleton] at hy
    rcases hy with hy | rfl
    · exact h.typed y hy
    · exact .inl rfl
  · intro y hy
    rw [hhand] at hy
    simp only [requeuePlatform,Sys.goto_mqPlatform,List.nil_append,List.mem_append,List.mem_singleton] at hy
    rcases hy with hy | rfl
    · exact h.needs y (List.mem_append_right _ hy)
    · exact h.needs s.lower.msg (by simp [hh])

theorem after_dispatch_hand (l : LowerLocals) (hl : l.msg = s.lower.msg) (site : Site)
    {p : LowerPc} (hp : (s.worker .lower).pc = .lower p)
    (hs : handAt (.lower p) s.lower.msg = handAt (.lower (.dispatchWait site)) s.lower.msg) :
    inHand (afterDispatch { s with lower := l } site) = inHand s := by
  unfold inHand
  rw [hp,hs]
  cases site <;> simp [afterDispatch,handAt,LowerLocals.newChair,hl]

theorem after_dispatch_room {l : LowerLocals} (hl : l.pending = []) (site : Site) :
    (afterDispatch { s with lower := l } site).lower.pending.length ≤
      (afterDispatch { s with lower := l } site).lower.currentChairSlots := by
  cases site <;> simp [afterDispatch,LowerLocals.newChair,hl]

theorem after_dispatch_platform (l : LowerLocals) (site : Site) :
    (afterDispatch { s with lower := l } site).mqPlatform = s.mqPlatform := by
  cases site <;> rfl

/-- The tourist in hand goes to the end of the buffer: the bound check of `g_pending`
never fails. -/
theorem buffer_pending {l : LowerLocals} (hroom : l.pending.length ≤ l.currentChairSlots)
    (hneed : 1 ≤ l.msg.slotsNeeded) (hfits : l.fits = true) :
    l.buffer.pending = l.pending ++ [⟨l.msg.touristId, l.msg.slotsNeeded⟩] := by
  have hle : l.currentChairSlots + l.msg.slotsNeeded ≤ 4 := of_decide_eq_true hfits
  have hlt : l.pending.length < 4 := by omega
  simp [LowerLocals.buffer,hlt]

theorem Boarding.place {g : Manifest} (h : Boarding g s) (hp : (s.worker .lower).pc = .lower .place)
    (hfits : s.lower.fits = true) {pc : WorkerPc} (hpc : ∀ m, handAt pc m = []) (x : Nat) :
    Boarding (g.note s (.worker .lower x)) ({ s with lower := s.lower.buffer }.goto .lower pc) := by
  have hh : inHand s = [s.lower.msg] := by simp [inHand,hp,handAt]
  have hneed : 1 ≤ s.lower.msg.slotsNeeded := h.needs _ (by simp [hh])
  have hpend := buffer_pending h.room hneed hfits
  have hhand : inHand ({ s with lower := s.lower.buffer }.goto .lower pc) = [] := by
    simp [inHand,hpc]
  have horder := h.order
  have hsingle := h.single
  have hroom := h.room
  rw [hh] at horder hsingle
  refine ⟨?_,?_,h.typed,?_,?_,h.seats⟩
  · rw [hhand]
    simpa [Manifest.note,hp,hfits,hpend,requeued,ordinary] using horder
  · rw [hhand]
    simp only [List.length_cons,List.length_nil,requeued,Sys.goto_mqPlatform] at hsingle ⊢
    omega
  · rw [hhand]
    intro y hy
    exact h.needs y (List.mem_append_right _ hy)
  · simp only [Sys.goto_lower,hpend,List.length_append,List.length_singleton]
    simp only [LowerLocals.buffer]
    omega

theorem Boarding.lower {g : Manifest} {p : LowerPc} {x : Nat} (h : Boarding g s)
    (hp : (s.worker .lower).pc = .lower p) (hs : lowerWorkerMain s x p = some s') :
    Boarding (g.note s (.worker .lower x)) s' := by
  have ht : ∀ i, (s'.tourists i).data.chairSlots = (s.tourists i).data.chairSlots := by
    intro i
    rw [(lower_only hs).tourists]
  by_cases hpl : p = .place
  · subst hpl
    simp only [lowerWorkerMain] at hs
    split at hs
    · rename_i hfits
      split at hs
      all_goals
        cases hs
        exact h.place hp hfits (fun m => rfl) x
    · rename_i hfits
      have hnote : g.note s (.worker .lower x) = g := by simp [Manifest.note,hfits]
      rw [hnote]
      split at hs
      · rename_i hempty
        cases hs
        refine h.keep rfl ?_ ?_ ht
        · simp [inHand,hp,handAt,LowerLocals.newChair]
        · simp [LowerLocals.newChair,hempty]
      · cases hs
        exact h.keep rfl (by simp [inHand,hp,handAt]) h.room ht
  · have hnote : g.note s (.worker .lower x) = g := by simp [Manifest.note,hp,hpl]
    rw [hnote]
    cases p with
    | place => exact absurd rfl hpl
    | checkWait | recheckWait =>
      obtain ⟨-,rfl⟩ := sem_wait_map hs
      exact h.keep rfl (by simp [inHand,hp,handAt]) h.room ht
    | checkRead | recheckRead | arm =>
      cases hs
      exact h.keep rfl (by simp [inHand,hp,handAt]) h.room ht
    | checkPost | recheckPost =>
      simp only [lowerWorkerMain] at hs
      split at hs
      all_goals
        cases hs
        exact h.keep rfl (by simp [inHand,hp,handAt,Sys.enterAck]) h.room ht
    | receive =>
      obtain ⟨⟨m,q⟩,hm,rfl⟩ := Option.map_eq_some_iff.mp hs
      exact h.receive hp hm rfl
    | requeueStop | requeue =>
      cases hs
      exact h.requeue (by simp [inHand,hp,handAt])
    | dispatchWait site =>
      simp only [lowerWorkerMain] at hs
      split at hs
      · rename_i hempty
        cases hs
        exact h.keep (after_dispatch_platform s.lower site)
          (after_dispatch_hand s.lower rfl site hp rfl) (after_dispatch_room hempty site) ht
      · obtain ⟨-,rfl⟩ := sem_wait_map hs
        refine h.keep rfl ?_ h.room ht
        cases site <;> simp [inHand,hp,handAt]
    | dispatchSend site i =>
      simp only [lowerWorkerMain] at hs
      split at hs
      · cases hs
        refine h.keep rfl ?_ h.room ht
        cases site <;> simp [inHand,hp,handAt]
      · cases hs
        have hhand := after_dispatch_hand { s.lower with pending := [] } rfl site hp
          (by cases site <;> rfl)
        exact h.keep (after_dispatch_platform _ site) hhand (after_dispatch_room rfl site) ht

theorem TouristOnly.seats {i : Fin n} (h : TouristOnly i s s') (j : Fin n) :
    (s'.tourists j).data.chairSlots = (s.tourists j).data.chairSlots := by
  by_cases hj : j = i
  · subst hj
    exact h.chairSlots
  · rw [h.others j hj]

theorem Boarding.tourist {g : Manifest} {i : Fin n} {x : Nat} (h : Boarding g s)
    (hs : touristMain s i x = some s') : Boarding (g.note s (.tourist i x)) s' := by
  have ho := tourist_only hs
  have hw := tourist_same hs
  have hhand : inHand s' = inHand s := by simp [inHand,hw.worker,hw.lower]
  have ht := ho.seats
  have hroom : s'.lower.pending.length ≤ s'.lower.currentChairSlots := by
    rw [hw.lower]
    exact h.room
  by_cases hp : (s.tourists i).pc = .boardSend
  · simp only [touristMain,hp] at hs
    cases hs
    have hone := h.seats i
    refine ⟨?_,?_,?_,?_,hroom,fun j => by rw [ht]; exact h.seats j⟩
    · rw [hhand]
      have horder := h.order
      simp only [requeued,ordinary] at horder
      simp [Manifest.note,hp,← horder,requeued,ordinary,TouristData.platformMsg]
    · rw [hhand]
      simpa [requeued,TouristData.platformMsg] using h.single
    · intro m hm
      simp only [Sys.walk_mqPlatform,List.mem_append,List.mem_singleton] at hm
      rcases hm with hm | rfl
      · exact h.typed m hm
      · exact .inr rfl
    · intro m hm
      rw [hhand] at hm
      simp only [Sys.walk_mqPlatform,← List.append_assoc,List.mem_append,List.mem_singleton] at hm
      rcases hm with hm | rfl
      · exact h.needs m (List.mem_append.mpr hm)
      · exact hone
  · have hnote : g.note s (.tourist i x) = g := by simp [Manifest.note,hp]
    rw [hnote]
    exact h.keep ((tourist_queues hs).platform hp) hhand hroom ht

theorem Boarding.step {g : Manifest} (h : Boarding g s)
    (ok : recheckUninterrupted tr s a = true) (t : Traffic s s' a) : Boarding (g.note s a) s' := by
  cases t with
  | lower hp hl => exact h.lower hp hl
  | upper hp hu =>
    have ho := upper_only hu
    refine h.keep ho.mqPlatform (by simp [inHand,ho.peer,ho.lower]) ?_ (by simp [ho.tourists])
    rw [ho.lower]
    exact h.room
  | tourist ht => exact h.tourist ht
  | cont hc he =>
    subst he
    exact h.keep rfl rfl h.room (TouristOnly.walk _ rfl rfl rfl rfl rfl).seats
  | still hst => exact h.still hst ok

theorem start_boarding (u : Setup n) : Boarding ⟨[],[]⟩ u.start := by
  refine ⟨?_,?_,?_,?_,?_,?_⟩
  · simp [inHand,requeued,ordinary,Setup.start,handAt,Worker.init]
  · simp [inHand,requeued,Setup.start,handAt,Worker.init]
  · simp [Setup.start]
  · simp [inHand,Setup.start,handAt,Worker.init]
  · simp [Setup.start]
  · intro i
    simp only [Setup.start,Tourist.init,TouristArgs.data]
    split <;> omega

theorem run_boarding (h : Runs [beforeShutdown,recheckUninterrupted] u tr s) :
    Boarding (manifest tr) s := by
  refine run_traffic (by simp) (fun tr s => Boarding (manifest tr) s) (start_boarding u) ?_ h
  intro tr s a s' hi _ allowed t
  simp only [allow_cons] at allowed
  simpa [manifest] using hi.step allowed.2.1 t

/-- Boarding is first come, first served: those buffered on chairs, then the one in
the hand of the lower worker or put back, then the platform queue. -/
structure FirstCome (tr : List (Sys n × Act n)) (s : Sys n) : Prop where
  order : (manifest tr).boarded ++
    (inHand s ++ requeued s ++ ordinary s).map (·.touristId) = (manifest tr).sends
  single : (requeued s).length ≤ 1
  apart : (inHand s ++ requeued s).length ≤ 1
  complete : ∀ m ∈ s.mqPlatform, m ∈ requeued s ∨ m ∈ ordinary s

theorem first_come_first_served (h : Runs [beforeShutdown,recheckUninterrupted] u tr s) :
    FirstCome tr s := by
  have hb := run_boarding h
  have hsingle := hb.single
  refine ⟨hb.order,by omega,by rw [List.length_append]; exact hsingle,?_⟩
  intro m hm
  rcases hb.typed m hm with ht | ht
  · exact .inl (List.mem_filter.mpr ⟨hm,by simp [ht]⟩)
  · exact .inr (List.mem_filter.mpr ⟨hm,by simp [ht]⟩)

/-- A danger is called above while the lower worker has the third tourist in hand: it
puts it back. -/
def requeueRun : List (Act 3) :=
  rideAlone 0 ++ walks 0 1 ++ reachPlatform 1 ++ reachPlatform 2 ++ safe .lower 13 ++
    safe .lower 8 ++ alarmed .upper 13 ++ safe .lower 4

theorem first_come_first_served_requeued : ∃ tr s,
    Runs [beforeShutdown,recheckUninterrupted] (sample 3) tr s ∧
      (requeued s).map (·.touristId) = [3] ∧ FirstCome tr s := by
  have hr : reaches [beforeShutdown,recheckUninterrupted] (sample 3) requeueRun
      (fun _ s => (requeued s).map (·.touristId) == [3]) = true := by decide +kernel
  obtain ⟨tr,s,h,ht⟩ := exists_run hr
  exact ⟨tr,s,h,by simpa using ht,first_come_first_served h⟩

end Ropeway
