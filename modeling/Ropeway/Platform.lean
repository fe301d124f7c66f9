import Ropeway.Boarding
import Mathlib.Algebra.Order.Group.Multiset
import Mathlib.Tactic.Abel

/-! A tourist taken from the platform queue stays with somebody. -/

namespace Ropeway
variable {n : Nat} {s s' : Sys n} {a : Act n} {u : Setup n} {tr : List (Sys n × Act n)}

/-- The present iteration of the loop of `lower_worker_main`: the tourist it has
received and the tourists it has sent a confirmation. -/
structure Iteration where
  got : Option Nat
  confirmed : List Nat

def Iteration.note (g : Iteration) (s : Sys n) : Act n → Iteration
  | .worker .lower _ =>
    match (s.worker .lower).pc with
    | .top => ⟨none, []⟩
    | .lower .receive => { g with got := (receivePlatform s).map (·.1.touristId) }
    | .lower (.dispatchSend _ i) =>
      { g with confirmed := g.confirmed ++ (s.lower.pending[i]?).toList.map (·.touristId) }
    | _ => g
  | _ => g

def iteration (tr : List (Sys n × Act n)) : Iteration := Lib.history Iteration.note ⟨none, []⟩ tr

def unsentAt : WorkerPc → LowerLocals → List PendingBoarding
  | .lower (.dispatchSend _ i), l => l.pending.drop i
  | _, l => l.pending

def unsent (s : Sys n) : List PendingBoarding := unsentAt (s.worker .lower).pc s.lower

/-- The tourists whose request is held by some component: in the platform queue, in
the hand or the buffer of the lower worker, or as a confirmation on its way. -/
def heldIds (s : Sys n) : List Nat :=
  (inHand s).map (·.touristId) ++ s.mqPlatform.map (·.touristId) ++
    (unsent s).map (·.touristId) ++ s.mqBoarding.map (·.mtype)

def heldSet (s : Sys n) : Multiset Nat := heldIds s

def keptIds (g : Iteration) (s : Sys n) : List Nat :=
  (inHand s).map (·.touristId) ++ s.mqPlatform.map (·.touristId) ++
    s.lower.pending.map (·.touristId) ++ g.confirmed

/-- The four places a held tourist can be at. -/
theorem held_eq (s : Sys n) : heldSet s = ((inHand s).map (·.touristId) : Multiset Nat) +
    (s.mqPlatform.map (·.touristId) : Multiset Nat) + ((unsent s).map (·.touristId) : Multiset Nat) +
      (s.mqBoarding.map (·.mtype) : Multiset Nat) := by
  simp only [heldSet,heldIds,← Multiset.coe_add]

theorem held_same (hh : inHand s' = inHand s) (hp : s'.mqPlatform = s.mqPlatform)
    (hu : unsent s' = unsent s) (hb : s'.mqBoarding = s.mqBoarding) : heldSet s' = heldSet s := by
  simp only [heldSet,heldIds,hh,hp,hu,hb]

theorem held_mem {k : Nat} (h : heldSet s' = heldSet s) (hk : k ∈ heldIds s) : k ∈ heldIds s' := by
  have hmem : k ∈ heldSet s := hk
  rw [← h] at hmem
  exact hmem

theorem held_receive {m : PlatformMsg} {q : List PlatformMsg}
    (hp : (s.worker .lower).pc = .lower .receive) (hm : receivePlatform s = some (m,q))
    {w : Worker} (hw : w.pc = .lower .recheckWait) :
    heldSet ({ s with mqPlatform := q, lower := { s.lower with msg := m } }.setWorker .lower w) =
      heldSet s := by
  obtain ⟨b,c,hq,rfl,-,-⟩ := Lib.msgrcv_lowest (by decide) hm
  simp only [held_eq,inHand,unsent,hp,hw,hq,handAt,unsentAt,Sys.setWorker_worker,Function.update_self,
    Sys.setWorker_lower,Sys.setWorker_mqPlatform,Sys.setWorker_mqBoarding,List.map_append,List.map_cons,
    List.map_nil,← Multiset.coe_add,← Multiset.cons_coe,Multiset.coe_nil,← Multiset.singleton_add]
  abel

theorem held_requeue (hh : inHand s = [s.lower.msg]) (hu : unsent s = s.lower.pending) :
    heldSet (requeuePlatform s) = heldSet s := by
  simp only [held_eq,hh,hu]
  simp only [inHand,unsent,requeuePlatform,handAt,unsentAt,Sys.goto_worker,Function.update_self,
    Sys.goto_lower,Sys.goto_mqPlatform,Sys.goto_mqBoarding,List.map_append,List.map_cons,
    List.map_nil,← Multiset.coe_add,← Multiset.cons_coe,Multiset.coe_nil,← Multiset.singleton_add]
  abel

theorem held_place (hp : (s.worker .lower).pc = .lower .place)
    (hpend : s.lower.buffer.pending =
      s.lower.pending ++ [⟨s.lower.msg.touristId, s.lower.msg.slotsNeeded⟩])
    {pc : WorkerPc} (hpc : ∀ m, handAt pc m = []) (hun : ∀ l, unsentAt pc l = l.pending) :
    heldSet ({ s with lower := s.lower.buffer }.goto .lower pc) = heldSet s := by
  have hhand : handAt (.lower .place) s.lower.msg = [s.lower.msg] := rfl
  have hunsent : unsentAt (.lower .place) s.lower = s.lower.pending := rfl
  simp only [held_eq,inHand,unsent,hp,hpc,hun,hpend,hhand,hunsent,Sys.goto_worker,
    Function.update_self,Sys.goto_lower,Sys.goto_mqPlatform,Sys.goto_mqBoarding,List.map_append,
    List.map_cons,List.map_nil,← Multiset.coe_add,← Multiset.cons_coe,Multiset.coe_nil,
    ← Multiset.singleton_add]
  abel

theorem held_confirm {site : Site} {i : Nat} {p : PendingBoarding}
    (hp : (s.worker .lower).pc = .lower (.dispatchSend site i)) (hi : s.lower.pending[i]? = some p) :
    heldSet ({ s with mqBoarding := s.mqBoarding ++ [confirmation s.lower p] }.goto .lower
      (.lower (.dispatchSend site (i + 1)))) = heldSet s := by
  obtain ⟨hlt,hget⟩ := List.getElem?_eq_some_iff.mp hi
  have hdrop : s.lower.pending.drop i = p :: s.lower.pending.drop (i + 1) := by
    rw [List.drop_eq_getElem_cons hlt,hget]
  have hhand : ∀ m, handAt (.lower (.dispatchSend site (i + 1))) m =
      handAt (.lower (.dispatchSend site i)) m := by
    intro m
    cases site <;> rfl
  simp only [held_eq,inHand,unsent,hp,hhand,hdrop,unsentAt,confirmation,Sys.goto_worker,
    Function.update_self,Sys.goto_lower,Sys.goto_mqPlatform,Sys.goto_mqBoarding,List.map_append,
    List.map_cons,List.map_nil,← Multiset.coe_add,← Multiset.cons_coe,Multiset.coe_nil,
    ← Multiset.singleton_add]
  abel

theorem after_dispatch_boarding (l : LowerLocals) (site : Site) :
    (afterDispatch { s with lower := l } site).mqBoarding = s.mqBoarding := by
  cases site <;> rfl

/-- The end of a dispatch with everybody confirmed. -/
theorem held_depart (site : Site) {l : LowerLocals} (hl : l.pending = [])
    (hhand : inHand (afterDispatch { s with lower := l } site) = inHand s) (hun : unsent s = []) :
    heldSet (afterDispatch { s with lower := l } site) = heldSet s := by
  refine held_same hhand (after_dispatch_platform l site) ?_ (after_dispatch_boarding l site)
  rw [hun]
  cases site <;> simp [unsent,unsentAt,afterDispatch,LowerLocals.newChair,hl]

/-- The lower worker passes tourists on and loses none, as long as its buffer has room. -/
theorem lower_held {p : LowerPc} {x : Nat} (hp : (s.worker .lower).pc = .lower p)
    (hroom : p = .place → s.lower.fits = true → s.lower.pending.length < 4) (hs : lowerWorkerMain s x p = some s') :
    heldSet s' = heldSet s := by
  cases p with
  | receive =>
    obtain ⟨⟨m,q⟩,hm,rfl⟩ := Option.map_eq_some_iff.mp hs
    exact held_receive hp hm rfl
  | requeueStop | requeue =>
    cases hs
    exact held_requeue (by simp [inHand,hp,handAt]) (by simp [unsent,hp,unsentAt])
  | place =>
    simp only [lowerWorkerMain] at hs
    split at hs
    · rename_i hfits
      have hpend : s.lower.buffer.pending =
          s.lower.pending ++ [⟨s.lower.msg.touristId, s.lower.msg.slotsNeeded⟩] := by
        simp [LowerLocals.buffer,hroom rfl hfits]
      split at hs
      all_goals
        cases hs
        exact held_place hp hpend (fun _ => rfl) (fun _ => rfl)
    · split at hs
      all_goals
        cases hs
        refine held_same ?_ rfl ?_ rfl
        · simp [inHand,hp,handAt,LowerLocals.newChair]
        · simp [unsent,hp,unsentAt,LowerLocals.newChair]
  | dispatchWait site =>
    simp only [lowerWorkerMain] at hs
    split at hs
    · rename_i hempty
      cases hs
      apply held_depart (l := s.lower) site hempty (after_dispatch_hand s.lower rfl site hp rfl)
      simp [unsent,hp,unsentAt,hempty]
    · obtain ⟨-,rfl⟩ := sem_wait_map hs
      refine held_same ?_ rfl ?_ rfl
      · cases site <;> simp [inHand,hp,handAt]
      · simp [unsent,hp,unsentAt]
  | dispatchSend site i =>
    simp only [lowerWorkerMain] at hs
    split at hs
    · rename_i hi
      cases hs
      exact held_confirm hp hi
    · rename_i hi
      cases hs
      have hlen : s.lower.pending.length ≤ i := List.getElem?_eq_none_iff.mp hi
      refine held_depart site rfl ?_ ?_
      · exact after_dispatch_hand { s.lower with pending := [] } rfl site hp (by cases site <;> rfl)
      · simp [unsent,hp,unsentAt,hlen]
  | checkWait | recheckWait =>
    obtain ⟨-,rfl⟩ := sem_wait_map hs
    exact held_same (by simp [inHand,hp,handAt]) rfl (by simp [unsent,hp,unsentAt]) rfl
  | checkRead | recheckRead | arm =>
    cases hs
    exact held_same (by simp [inHand,hp,handAt]) rfl (by simp [unsent,hp,unsentAt]) rfl
  | checkPost | recheckPost =>
    simp only [lowerWorkerMain] at hs
    split at hs
    all_goals
      cases hs
      exact held_same (by simp [inHand,hp,handAt,Sys.enterAck]) rfl
        (by simp [unsent,hp,unsentAt,Sys.enterAck]) rfl

/-- The upper worker does not touch the platform. -/
theorem held_upper (ho : UpperOnly s s') : heldSet s' = heldSet s := by
  refine held_same ?_ ho.mqPlatform ?_ ho.mqBoarding
  · simp [inHand,ho.peer,ho.lower]
  · simp [unsent,ho.peer,ho.lower]

structure Kept (g : Iteration) (s : Sys n) : Prop where
  received : ∀ k, g.got = some k → k ∈ keptIds g s
  sent : ∀ site i, (s.worker .lower).pc = .lower (.dispatchSend site i) →
    ∀ p ∈ s.lower.pending.take i, p.touristId ∈ g.confirmed
  waiting : ∀ i, (s.tourists i).pc = .boardReceive → touristId i ∈ heldIds s
  ids : ∀ i, (s.tourists i).data.id = touristId i

/-- A step that keeps what the lower worker and the queues hold. -/
theorem Kept.keep {g : Iteration} (h : Kept g s) (hp : ∀ k ∈ keptIds g s, k ∈ keptIds g s')
    (hh : heldSet s' = heldSet s)
    (hs : ∀ site i, (s'.worker .lower).pc = .lower (.dispatchSend site i) →
      (s.worker .lower).pc = .lower (.dispatchSend site i) ∧ s'.lower = s.lower)
    (ht : s'.tourists = s.tourists) : Kept g s' := by
  refine ⟨fun k hk => hp k (h.received k hk),?_,?_,?_⟩
  · intro site i hpc
    obtain ⟨hpc0,hl⟩ := hs site i hpc
    rw [hl]
    exact h.sent site i hpc0
  · intro i hi
    rw [ht] at hi
    exact held_mem hh (h.waiting i hi)
  · rw [ht]
    exact h.ids

theorem unsent_calm {pc : WorkerPc} (h : atWork pc = false) (l : LowerLocals) :
    unsentAt pc l = l.pending := by
  cases pc <;> first | rfl | cases h

theorem unsent_wake {pc : WorkerPc} (l : LowerLocals) :
    unsentAt (wakePc l pc) l = unsentAt pc l := by
  unfold wakePc
  repeat' split
  all_goals rfl

theorem unsent_still (h : Still a s s') : unsent s' = unsent s := by
  unfold unsent
  rw [h.lower]
  cases h.shift .lower with
  | same he => rw [he]
  | calm before after => rw [unsent_calm before,unsent_calm after]
  | enter he =>
    generalize (s'.worker .lower).pc = pc at he
    cases he with
    | lower hp | last hp => rw [hp]; rfl
  | wake sent woken he =>
    rw [he]
    exact unsent_wake s.lower

/-- Outside its work the lower worker does not get into a dispatch. -/
theorem dispatch_still (h : Still a s s') {site : Site} {i : Nat}
    (hp : (s'.worker .lower).pc = .lower (.dispatchSend site i)) :
    (s.worker .lower).pc = .lower (.dispatchSend site i) := by
  cases h.shift .lower with
  | same he => rw [← he]; exact hp
  | calm before after => simp [hp,atWork] at after
  | enter he =>
    rw [hp] at he
    cases he
  | wake sent woken he =>
    rw [hp] at he
    unfold wakePc at he
    repeat' split at he
    all_goals first | exact he.symm | cases he

theorem iteration_still (g : Iteration) (h : Still a s s') :
    g.note s a = g ∨ (s.worker .lower).pc = .top ∧ g.note s a = ⟨none, []⟩ := by
  unfold Iteration.note
  split
  · have hidle := h.idle _ _ rfl
    split
    · rename_i hp
      exact .inr ⟨hp,rfl⟩
    · rename_i hp
      simp [hp,atWork] at hidle
    · rename_i hp
      simp [hp,atWork] at hidle
    · exact .inl rfl
  · exact .inl rfl

theorem Kept.still {g : Iteration} (h : Kept g s) (hs : Still a s s')
    (ok : recheckUninterrupted tr s a = true) : Kept (g.note s a) s' := by
  have hhand := hand_still hs ok
  have hheld := held_same hhand hs.mqPlatform (unsent_still hs) hs.mqBoarding
  rcases iteration_still g hs with hg | ⟨htop,hg⟩
  · rw [hg]
    refine h.keep ?_ hheld (fun site i hp => ⟨dispatch_still hs hp,hs.lower⟩) hs.tourists
    intro k hk
    simpa only [keptIds,hhand,hs.mqPlatform,hs.lower] using hk
  · rw [hg]
    refine ⟨by simp,?_,?_,by rw [hs.tourists]; exact h.ids⟩
    · intro site i hp
      have hbefore := dispatch_still hs hp
      rw [htop] at hbefore
      cases hbefore
    · intro i hi
      rw [hs.tourists] at hi
      exact held_mem hheld (h.waiting i hi)

theorem Kept.receive {g : Iteration} {m : PlatformMsg} {q : List PlatformMsg} (h : Kept g s)
    (hp : (s.worker .lower).pc = .lower .receive) (hm : receivePlatform s = some (m,q))
    {w : Worker} (hw : w.pc = .lower .recheckWait) (x : Nat) :
    Kept (g.note s (.worker .lower x))
      ({ s with mqPlatform := q, lower := { s.lower with msg := m } }.setWorker .lower w) := by
  refine ⟨?_,?_,?_,h.ids⟩
  · intro k hk
    simp only [Iteration.note,hp,hm,Option.map_some,Option.some.injEq] at hk
    subst hk
    simp [keptIds,inHand,hw,handAt]
  · intro site i hd
    simp [hw] at hd
  · intro i hi
    exact held_mem (held_receive hp hm hw) (h.waiting i hi)

theorem Kept.requeue {g : Iteration} (h : Kept g s) (hh : inHand s = [s.lower.msg])
    (hu : unsent s = s.lower.pending) : Kept g (requeuePlatform s) := by
  refine h.keep ?_ (held_requeue hh hu) ?_ rfl
  · intro k hk
    simp only [keptIds,hh,List.mem_append] at hk
    simp only [keptIds,inHand,requeuePlatform,Sys.goto_worker,Function.update_self,Sys.goto_lower,
      Sys.goto_mqPlatform,handAt,List.map_append,List.map_cons,List.map_nil,List.mem_append] at hk ⊢
    tauto
  · intro site i hp
    simp [requeuePlatform] at hp

theorem Kept.place {g : Iteration} (h : Kept g s) (hp : (s.worker .lower).pc = .lower .place)
    (hpend : s.lower.buffer.pending =
      s.lower.pending ++ [⟨s.lower.msg.touristId, s.lower.msg.slotsNeeded⟩])
    {pc : WorkerPc} (hpc : ∀ m, handAt pc m = []) (hun : ∀ l, unsentAt pc l = l.pending)
    (hd : ∀ site i, pc ≠ .lower (.dispatchSend site i)) :
    Kept g ({ s with lower := s.lower.buffer }.goto .lower pc) := by
  refine h.keep ?_ (held_place hp hpend hpc hun) ?_ rfl
  · intro k hk
    simp only [keptIds,inHand,hp,handAt,List.map_cons,List.map_nil,List.mem_append] at hk
    simp only [keptIds,inHand,Sys.goto_worker,Function.update_self,Sys.goto_lower,
      Sys.goto_mqPlatform,hpc,hpend,List.map_append,List.map_cons,List.map_nil,List.mem_append]
    tauto
  · intro site i he
    simp only [Sys.goto_worker,Function.update_self] at he
    exact absurd he (hd site i)

/-- One confirmation: the buffered tourist is now held by `MQ_BOARDING`. -/
theorem Kept.confirm {g : Iteration} {site : Site} {i : Nat} {p : PendingBoarding} (h : Kept g s)
    (hp : (s.worker .lower).pc = .lower (.dispatchSend site i)) (hi : s.lower.pending[i]? = some p)
    (x : Nat) :
    Kept (g.note s (.worker .lower x))
      ({ s with mqBoarding := s.mqBoarding ++ [confirmation s.lower p] }.goto .lower
        (.lower (.dispatchSend site (i + 1)))) := by
  have hg : g.note s (.worker .lower x) = { g with confirmed := g.confirmed ++ [p.touristId] } := by
    simp [Iteration.note,hp,hi]
  have htake : s.lower.pending.take (i + 1) = s.lower.pending.take i ++ [p] := by
    rw [List.take_add_one,hi]
    rfl
  have hhand : ∀ m, handAt (.lower (.dispatchSend site (i + 1))) m =
      handAt (.lower (.dispatchSend site i)) m := by
    intro m
    cases site <;> rfl
  rw [hg]
  refine ⟨?_,?_,?_,h.ids⟩
  · intro k hk
    have hkept := h.received k hk
    simp only [keptIds,inHand,hp,List.mem_append] at hkept
    simp only [keptIds,inHand,Sys.goto_worker,Function.update_self,Sys.goto_lower,
      Sys.goto_mqPlatform,hhand,List.mem_append]
    tauto
  · intro site' j he
    simp only [Sys.goto_worker,Function.update_self,WorkerPc.lower.injEq,
      LowerPc.dispatchSend.injEq] at he
    obtain ⟨rfl,rfl⟩ := he
    intro y hy
    simp only [Sys.goto_lower,htake,List.mem_append,List.mem_singleton] at hy
    rcases hy with hy | rfl
    · exact List.mem_append_left _ (h.sent site i hp y hy)
    · simp
  · intro j hj
    exact held_mem (held_confirm hp hi) (h.waiting j hj)

theorem after_dispatch_pc {l : LowerLocals} (site : Site) (site' : Site) (i : Nat) :
    ((afterDispatch { s with lower := l } site).worker .lower).pc ≠
      .lower (.dispatchSend site' i) := by
  cases site <;> simp [afterDispatch]

/-- The end of a dispatch with everybody confirmed: the empty buffer holds nobody who is
not held elsewhere. -/
theorem Kept.depart {g : Iteration} (h : Kept g s) (site : Site) {l : LowerLocals} (hl : l.pending = [])
    (hhand : inHand (afterDispatch { s with lower := l } site) = inHand s)
    (hconf : ∀ p ∈ s.lower.pending, g.got = some p.touristId → p.touristId ∈ g.confirmed)
    (hun : unsent s = []) : Kept g (afterDispatch { s with lower := l } site) := by
  have ht : (afterDispatch { s with lower := l } site).tourists = s.tourists := by
    cases site <;> rfl
  refine ⟨?_,?_,?_,by rw [ht]; exact h.ids⟩
  · intro k hk
    have hkept := h.received k hk
    simp only [keptIds,List.mem_append] at hkept
    simp only [keptIds,hhand,after_dispatch_platform,List.mem_append]
    rcases hkept with (hk' | hk') | hk'
    · exact .inl (.inl hk')
    · obtain ⟨p,hp,rfl⟩ := List.mem_map.mp hk'
      exact .inr (hconf p hp hk)
    · exact .inr hk'
  · intro site' i hp
    exact absurd hp (after_dispatch_pc site site' i)
  · intro i hi
    rw [ht] at hi
    exact held_mem (held_depart site hl hhand hun) (h.waiting i hi)

/-- Only a receive and a confirmation change the record of the iteration. -/
theorem iteration_lower (g : Iteration) {p : LowerPc} (x : Nat) (hp : (s.worker .lower).pc = .lower p)
    (hr : p ≠ .receive) (hd : ∀ site i, p ≠ .dispatchSend site i) :
    g.note s (.worker .lower x) = g := by
  simp only [Iteration.note,hp]
  cases p with
  | receive => exact absurd rfl hr
  | dispatchSend site i => exact absurd rfl (hd site i)
  | _ => rfl

/-- A tourist that fits on the chair fits in the buffer. -/
theorem Boarding.room_left {b : Manifest} (hb : Boarding b s) (hp : (s.worker .lower).pc = .lower .place)
    (hfits : s.lower.fits = true) : s.lower.pending.length < 4 := by
  have hneed : 1 ≤ s.lower.msg.slotsNeeded := hb.needs _ (by simp [inHand,hp,handAt])
  have hle : s.lower.currentChairSlots + s.lower.msg.slotsNeeded ≤ 4 := of_decide_eq_true hfits
  have hroom := hb.room
  omega

theorem Kept.lower_other {g : Iteration} {b : Manifest} {p : LowerPc} {x : Nat} (h : Kept g s)
    (hb : Boarding b s) (hp : (s.worker .lower).pc = .lower p) (hr : p ≠ .receive)
    (hd : ∀ site i, p ≠ .dispatchSend site i) (hs : lowerWorkerMain s x p = some s') : Kept g s' := by
  have hheld : heldSet s' = heldSet s := by
    apply lower_held hp ?_ hs
    rintro rfl
    exact hb.room_left hp
  cases p with
  | receive => exact absurd rfl hr
  | dispatchSend site i => exact absurd rfl (hd site i)
  | dispatchWait site =>
    simp only [lowerWorkerMain] at hs
    split at hs
    · rename_i hempty
      cases hs
      refine h.depart (l := s.lower) site hempty (after_dispatch_hand s.lower rfl site hp rfl) ?_ ?_
      · simp [hempty]
      · simp [unsent,hp,unsentAt,hempty]
    · obtain ⟨-,rfl⟩ := sem_wait_map hs
      have hhand : ∀ m, handAt (.lower (.dispatchSend site 0)) m =
          handAt (.lower (.dispatchWait site)) m := by
        intro m
        cases site <;> rfl
      refine ⟨?_,?_,?_,h.ids⟩
      · intro k hk
        simpa [keptIds,inHand,hp,hhand] using h.received k hk
      · intro site' j he
        simp only [Sys.goto_worker,Function.update_self,WorkerPc.lower.injEq,
          LowerPc.dispatchSend.injEq] at he
        simp [← he.2]
      · intro j hj
        exact held_mem hheld (h.waiting j hj)
  | place =>
    have hhand : inHand s = [s.lower.msg] := by simp [inHand,hp,handAt]
    simp only [lowerWorkerMain] at hs
    split at hs
    · rename_i hfits
      have hpend := buffer_pending hb.room (hb.needs _ (by simp [hhand])) hfits
      split at hs
      all_goals
        cases hs
        exact h.place hp hpend (fun _ => rfl) (fun _ => rfl) (by simp)
    · split at hs
      all_goals
        cases hs
        refine h.keep ?_ hheld (by simp) rfl
        simp [keptIds,inHand,hp,handAt,LowerLocals.newChair]
  | requeueStop | requeue =>
    cases hs
    exact h.requeue (by simp [inHand,hp,handAt]) (by simp [unsent,hp,unsentAt])
  | checkWait | recheckWait =>
    obtain ⟨-,rfl⟩ := sem_wait_map hs
    refine h.keep ?_ hheld (by simp) rfl
    simp [keptIds,inHand,hp,handAt]
  | checkRead | recheckRead | arm =>
    cases hs
    refine h.keep ?_ hheld (by simp) rfl
    simp [keptIds,inHand,hp,handAt]
  | checkPost | recheckPost =>
    simp only [lowerWorkerMain] at hs
    split at hs
    all_goals
      cases hs
      refine h.keep ?_ hheld (by simp [Sys.enterAck]) rfl
      simp [keptIds,inHand,hp,handAt,Sys.enterAck]

theorem Kept.lower {g : Iteration} {b : Manifest} {p : LowerPc} {x : Nat} (h : Kept g s)
    (hb : Boarding b s) (hp : (s.worker .lower).pc = .lower p)
    (hs : lowerWorkerMain s x p = some s') : Kept (g.note s (.worker .lower x)) s' := by
  cases p with
  | receive =>
    obtain ⟨⟨m,q⟩,hm,rfl⟩ := Option.map_eq_some_iff.mp hs
    exact h.receive hp hm rfl x
  | dispatchSend site i =>
    simp only [lowerWorkerMain] at hs
    split at hs
    · rename_i p hi
      cases hs
      exact h.confirm hp hi x
    · rename_i hi
      cases hs
      have hg : g.note s (.worker .lower x) = g := by simp [Iteration.note,hp,hi]
      have hlen : s.lower.pending.length ≤ i := List.getElem?_eq_none_iff.mp hi
      rw [hg]
      refine h.depart site rfl ?_ ?_ ?_
      · exact after_dispatch_hand { s.lower with pending := [] } rfl site hp (by cases site <;> rfl)
      · intro y hy _
        apply h.sent site i hp y
        rw [List.take_of_length_le hlen]
        exact hy
      · simp [unsent,hp,unsentAt,hlen]
  | _ =>
    rw [iteration_lower g x hp (by simp) (by simp)]
    exact h.lower_other hb hp (by simp) (by simp) hs

theorem Kept.tourist {g : Iteration} {i : Fin n} {x : Nat} (h : Kept g s)
    (hrun : s.shm.running = true) (hs : touristMain s i x = some s') : Kept (g.note s (.tourist i x)) s' := by
  have ho := tourist_only hs
  have hw := tourist_same hs
  have hq := tourist_queues hs
  have hids := ho.ids h.ids
  have hhand : inHand s' = inHand s := by simp [inHand,hw.worker,hw.lower]
  have hun : unsent s' = unsent s := by simp [unsent,hw.worker,hw.lower]
  have hplat : ∀ k ∈ s.mqPlatform.map (·.touristId), k ∈ s'.mqPlatform.map (·.touristId) := by
    by_cases hp : (s.tourists i).pc = .boardSend
    · simp only [touristMain,hp] at hs
      cases hs
      intro k hk
      simp only [Sys.walk_mqPlatform,List.map_append,List.mem_append]
      exact .inl hk
    · rw [hq.platform hp]
      exact fun k hk => hk
  have hboard : ∀ k ∈ s.mqBoarding.map (·.mtype), k = touristId i ∨ k ∈ s'.mqBoarding.map (·.mtype) := by
    by_cases hp : (s.tourists i).pc = .boardReceive
    · simp only [touristMain,hp] at hs
      obtain ⟨⟨m,q⟩,hm,rfl⟩ := Option.map_eq_some_iff.mp hs
      have hpos : 0 < (s.tourists i).data.id := by
        rw [h.ids i]
        exact Nat.succ_pos _
      obtain ⟨a,b,he,rfl,htype,-⟩ := Lib.msgrcv_split hpos hm
      rw [h.ids i] at htype
      intro k hk
      rw [he] at hk
      simp only [List.map_append,List.map_cons,List.mem_append,List.mem_cons,htype] at hk
      simp only [Sys.setTourist_mqBoarding,List.map_append,List.mem_append]
      tauto
    · rw [hq.boarding hp]
      exact fun k hk => .inr hk
  refine ⟨?_,?_,?_,hids⟩
  · intro k hk
    have hkept := h.received k hk
    have hg : g.note s (.tourist i x) = g := rfl
    simp only [keptIds,List.mem_append] at hkept
    simp only [keptIds,hg,hhand,hw.lower,List.mem_append]
    rcases hkept with ((hk' | hk') | hk') | hk'
    · exact .inl (.inl (.inl hk'))
    · exact .inl (.inl (.inr (hplat k hk')))
    · exact .inl (.inr hk')
    · exact .inr hk'
  · intro site j hpc
    rw [hw.worker] at hpc
    rw [hw.lower]
    exact h.sent site j hpc
  · intro j hj
    by_cases hji : j = i
    · subst hji
      -- It has just sent itself to the platform: no other step leads here.
      have hp := tourist_ready hrun hs hj
      simp only [touristMain,hp] at hs
      cases hs
      simp [heldIds,TouristData.platformMsg,h.ids j]
    · rw [ho.others j hji] at hj
      have hheld := h.waiting j hj
      have hne : touristId j ≠ touristId i := fun he => hji (tourist_id_inj he)
      simp only [heldIds,List.mem_append] at hheld
      simp only [heldIds,hhand,hun,List.mem_append]
      rcases hheld with ((hk | hk) | hk) | hk
      · exact .inl (.inl (.inl hk))
      · exact .inl (.inl (.inr (hplat _ hk)))
      · exact .inl (.inr hk)
      · exact .inr ((hboard _ hk).resolve_left hne)

theorem Kept.step {g : Iteration} {b : Manifest} (h : Kept g s) (hb : Boarding b s)
    (hrun : s.shm.running = true) (ok : recheckUninterrupted tr s a = true)
    (t : Traffic s s' a) : Kept (g.note s a) s' := by
  cases t with
  | lower hp hl => exact h.lower hb hp hl
  | upper hp hu =>
    have ho := upper_only hu
    refine h.keep ?_ (held_upper ho) ?_ ho.tourists
    · simp [keptIds,inHand,ho.peer,ho.lower,ho.mqPlatform]
    · intro site i hp
      rw [ho.peer] at hp
      exact ⟨hp,ho.lower⟩
  | tourist ht => exact h.tourist hrun ht
  | @cont i pc hc he =>
    subst he
    have ho : TouristOnly i s (s.walk i pc) := .walk _ rfl rfl rfl rfl rfl
    refine ⟨h.received,h.sent,?_,?_⟩
    · intro j hj
      by_cases hji : j = i
      · subst hji
        simp only [Sys.walk_tourists,Function.update_self] at hj
        subst hj
        cases hp : (s.tourists j).pc <;> rw [hp] at hc <;> cases hc
      · rw [ho.others j hji] at hj
        exact h.waiting j hj
    · exact ho.ids h.ids
  | still hst => exact h.still hst ok

theorem start_kept (u : Setup n) : Kept ⟨none,[]⟩ u.start := by
  refine ⟨by simp,?_,?_,fun _ => rfl⟩
  · intro site i hp
    simp [Setup.start,Worker.init] at hp
  · intro i hi
    simp [Setup.start,Tourist.init] at hi

/-- After an iteration that received a tourist, that tourist is buffered, confirmed or
back in the queue; and nobody waits on the platform without being held by somebody. -/
structure NobodyDropped (tr : List (Sys n × Act n)) (s : Sys n) : Prop where
  iteration : (s.worker .lower).pc = .top → ∀ k, (iteration tr).got = some k →
    k ∈ s.lower.pending.map (·.touristId) ∨ k ∈ (iteration tr).confirmed ∨
      k ∈ s.mqPlatform.map (·.touristId)
  waiting : ∀ i, (s.tourists i).pc = .boardReceive → touristId i ∈ heldIds s

/-- A tourist is never dropped as long as the wait after the receive is not
interrupted. -/
theorem nobody_dropped (h : Runs [beforeShutdown,recheckUninterrupted] u tr s) :
    NobodyDropped tr s := by
  have hboth : Boarding (manifest tr) s ∧ Kept (iteration tr) s := by
    refine run_traffic (by simp) (fun tr s => Boarding (manifest tr) s ∧ Kept (iteration tr) s)
      ⟨start_boarding u,start_kept u⟩ ?_ h
    rintro tr s a s' ⟨hb,hk⟩ hrun allowed t
    simp only [allow_cons] at allowed
    constructor
    · simpa [manifest] using hb.step allowed.2.1 t
    · simpa [iteration] using hk.step hb hrun.on allowed.2.1 t
  refine ⟨?_,hboth.2.waiting⟩
  intro hp k hk
  have hkept := hboth.2.received k hk
  simp only [keptIds,inHand,hp,handAt,List.map_nil,List.nil_append,List.mem_append] at hkept
  tauto

theorem nobody_dropped_boarding : ∃ tr s,
    Runs [beforeShutdown,recheckUninterrupted] (sample 1) tr s ∧
      (s.worker .lower).pc = .top ∧ (iteration tr).got = some 1 ∧ NobodyDropped tr s := by
  have hr : reaches [beforeShutdown,recheckUninterrupted] (sample 1)
      (reachPlatform 0 ++ safe .lower 13)
      (fun tr s => (s.worker .lower).pc == .top && (iteration tr).got == some 1) = true := by
    decide +kernel
  obtain ⟨tr,s,h,ht⟩ := exists_run hr
  simp only [Bool.and_eq_true,beq_iff_eq] at ht
  exact ⟨tr,s,h,ht.1,ht.2,nobody_dropped h⟩

/-- The lower worker has the second tourist in hand and sleeps in its wait for
`SEM_STATE`, which the first one has; a danger above interrupts it. -/
def dropRun : List (Act 2) :=
  rideAlone 0 ++ walks 0 1 ++ reachPlatform 1 ++ safe .lower 8 ++ alarmed .upper 13 ++
    walks 0 8 ++ [.sleep .lower, .deliver .lower .usr1]

theorem interrupted_recheck_drops : ∃ tr s,
    Runs [beforeShutdown,workersOnly] (sample 2) tr s ∧ ¬NobodyDropped tr s := by
  have hr : reaches [beforeShutdown,workersOnly] (sample 2) dropRun
      (fun tr s => (s.worker .lower).pc == .top && (iteration tr).got == some 2 &&
        s.lower.pending.isEmpty && (iteration tr).confirmed.isEmpty && s.mqPlatform.isEmpty) =
      true := by decide +kernel
  obtain ⟨tr,s,h,ht⟩ := exists_run hr
  simp only [Bool.and_eq_true,beq_iff_eq,List.isEmpty_iff] at ht
  obtain ⟨⟨⟨⟨hpc,hgot⟩,hpend⟩,hconf⟩,hplat⟩ := ht
  refine ⟨tr,s,h,?_⟩
  intro hd
  simpa [hpend,hconf,hplat] using hd.iteration hpc 2 hgot

end Ropeway
