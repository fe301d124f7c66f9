import Ropeway.Frames.Traffic
import Ropeway.Lib.Batches
import Ropeway.Lib.Table
import Mathlib.Tactic.Abel

/-! The chairs in transit and their passengers. A chair is in transit from the slot
`dispatch_chair` takes for it until the upper worker has processed the arrival of its
last passenger. -/

namespace Ropeway
open Lib
variable {n : Nat} {s s' : Sys n} {a : Act n} {u : Setup n} {tr : List (Sys n × Act n)}

structure Chair where
  number : Nat
  size : Nat
  deriving DecidableEq

def LowerLocals.chair (l : LowerLocals) : Chair := ⟨l.chairNumber, l.pending.length⟩

def PlatformMsg.chair (m : PlatformMsg) : Chair := ⟨m.chairId, m.touristsOnChair⟩

def ArrivalMsg.chair (m : ArrivalMsg) : Chair := ⟨m.chairId, m.touristsOnChair⟩

def Tourist.chair (t : Tourist) : Chair := ⟨t.chairId, t.touristsOnChair⟩

/-- A slot is taken for the buffered tourists; the arrival of one is processed. -/
def noteTransit (gs : List (Batch Chair Nat)) (s : Sys n) : Act n → List (Batch Chair Nat)
  | .worker .lower _ =>
    match (s.worker .lower).pc with
    | .lower (.dispatchWait _) =>
      if s.lower.pending = [] then gs
      else gs ++ [⟨s.lower.chair, s.lower.pending.map (·.touristId)⟩]
    | _ => gs
  | .worker .upper _ =>
    match (s.worker .upper).pc with
    | .upper .track => strike s.upper.msg.touristId s.upper.msg.chair gs
    | _ => gs
  | _ => gs

/-- The dispatched chairs, each with its passengers whose arrival is not processed. -/
def transit (tr : List (Sys n × Act n)) : List (Batch Chair Nat) := history noteTransit [] tr

@[simp] theorem transit_snoc (tr : List (Sys n × Act n)) (s : Sys n) (a : Act n) :
    transit (tr ++ [(s,a)]) = noteTransit (transit tr) s a := by
  simp [transit]

/-- The buffered tourists of a departing chair that have no confirmation yet. -/
def loadingAt : WorkerPc → LowerLocals → Multiset (Nat × Chair)
  | .lower (.dispatchSend _ i), l =>
    ((l.pending.drop i).map (fun p => (p.touristId,l.chair)) : List (Nat × Chair))
  | _, _ => 0

def confirmed (q : List PlatformMsg) : Multiset (Nat × Chair) :=
  (q.map (fun m => (m.mtype,m.chair)) : List (Nat × Chair))

@[simp] theorem confirmed_cons (m : PlatformMsg) (q : List PlatformMsg) :
    confirmed (m :: q) = {(m.mtype,m.chair)} + confirmed q := rfl

@[simp] theorem confirmed_append (p q : List PlatformMsg) :
    confirmed (p ++ q) = confirmed p + confirmed q := by
  simp [confirmed]

def seated (t : Tourist) : Multiset (Nat × Chair) :=
  if seatOf t.pc = .aboard then {(t.data.id,t.chair)} else 0

def arrived (q : List ArrivalMsg) : Multiset (Nat × Chair) :=
  (q.map (fun m => (m.touristId,m.chair)) : List (Nat × Chair))

@[simp] theorem arrived_cons (m : ArrivalMsg) (q : List ArrivalMsg) :
    arrived (m :: q) = {(m.touristId,m.chair)} + arrived q := rfl

@[simp] theorem arrived_append (p q : List ArrivalMsg) :
    arrived (p ++ q) = arrived p + arrived q := by
  simp [arrived]

def processedAt : WorkerPc → ArrivalMsg → Multiset (Nat × Chair)
  | .upper .track, m => {(m.touristId,m.chair)}
  | _, _ => 0

/-- Below: at the lower worker or with the confirmation on its way. -/
def boards (s : Sys n) : Multiset (Nat × Chair) :=
  loadingAt (s.worker .lower).pc s.lower + confirmed s.mqBoarding

/-- Above: with the arrival on its way or at the upper worker. -/
def arrives (s : Sys n) : Multiset (Nat × Chair) :=
  arrived s.mqArrivals + processedAt (s.worker .upper).pc s.upper.msg

def underWay (s : Sys n) : Multiset (Nat × Chair) :=
  boards s + ∑ i, seated (s.tourists i) + arrives s

/-- The passengers under way are those the chairs in transit wait for. -/
structure Carried (gs : List (Batch Chair Nat)) (s : Sys n) : Prop where
  passengers : underWay s = load gs
  ids : ∀ i, (s.tourists i).data.id = touristId i

/-- The places between which only the worker's own work moves it. -/
def busy : WorkerPc → Bool
  | .lower (.dispatchSend _ _) | .upper .track | .upper .release => true
  | _ => false

theorem busy_wake (l : LowerLocals) (pc : WorkerPc) :
    wakePc l pc = pc ∨ busy (wakePc l pc) = false ∧ busy pc = false := by
  unfold wakePc
  repeat' split
  all_goals first | exact .inl rfl | exact .inr ⟨rfl,rfl⟩

theorem busy_still (h : Still a s s') (r : Role) : (s'.worker r).pc = (s.worker r).pc ∨
    busy (s'.worker r).pc = false ∧ busy (s.worker r).pc = false := by
  have idle : ∀ {pc : WorkerPc}, atWork pc = false → busy pc = false := by
    intro pc hw
    cases pc <;> first | rfl | cases hw
  cases h.shift r with
  | same he => exact .inl he
  | calm before after => exact .inr ⟨idle after,idle before⟩
  | enter he =>
    generalize (s'.worker r).pc = pc at he
    cases he with
    | lower hp | upper hp | last hp => rw [hp]; exact .inr ⟨rfl,rfl⟩
  | wake sent woken he =>
    rw [he]
    exact busy_wake s.lower (s.worker r).pc

theorem loading_idle {pc : WorkerPc} (h : busy pc = false) (l : LowerLocals) :
    loadingAt pc l = 0 := by
  unfold loadingAt
  split
  · cases h
  · rfl

theorem processed_idle {pc : WorkerPc} (h : busy pc = false) (m : ArrivalMsg) :
    processedAt pc m = 0 := by
  unfold processedAt
  split
  · cases h
  · rfl

theorem boards_still (h : Still a s s') : boards s' = boards s := by
  unfold boards
  rw [h.mqBoarding,h.lower]
  rcases busy_still h .lower with he | ⟨h1,h2⟩
  · rw [he]
  · rw [loading_idle h1,loading_idle h2]

theorem arrives_still (h : Still a s s') : arrives s' = arrives s := by
  unfold arrives
  rw [h.mqArrivals,h.upper]
  rcases busy_still h .upper with he | ⟨h1,h2⟩
  · rw [he]
  · rw [processed_idle h1,processed_idle h2]

theorem transit_still (gs : List (Batch Chair Nat)) (h : Still a s s') :
    noteTransit gs s a = gs := by
  unfold noteTransit
  split
  · have hidle := h.idle _ _ rfl
    split
    · rename_i hp
      simp [hp,atWork] at hidle
    · rfl
  · have hidle := h.idle _ _ rfl
    split
    · rename_i hp
      simp [hp,atWork] at hidle
    · rfl
  · rfl

def dispatching : LowerPc → Bool
  | .dispatchWait _ | .dispatchSend _ _ => true
  | _ => false

/-- Outside `dispatch_chair` the lower worker confirms nobody and takes no slot. -/
structure Aside (s s' : Sys n) : Prop where
  mqBoarding : s'.mqBoarding = s.mqBoarding
  chairs : s'.sem .chairs = s.sem .chairs
  idle : busy (s'.worker .lower).pc = false

theorem lower_aside {p : LowerPc} {x : Nat} (hd : dispatching p = false)
    (h : lowerWorkerMain s x p = some s') : Aside s s' := by
  cases p with
  | dispatchWait | dispatchSend => cases hd
  | place =>
    simp only [lowerWorkerMain] at h
    repeat' split at h
    all_goals
      cases h
      exact ⟨rfl,rfl,by simp [busy]⟩
  | receive =>
    obtain ⟨⟨m,q⟩,-,rfl⟩ := Option.map_eq_some_iff.mp h
    exact ⟨rfl,rfl,by simp [busy]⟩
  | checkWait | recheckWait =>
    obtain ⟨-,rfl⟩ := sem_wait_map h
    exact ⟨rfl,by simp,by simp [busy]⟩
  | checkPost | recheckPost =>
    simp only [lowerWorkerMain] at h
    split at h
    all_goals
      cases h
      exact ⟨rfl,by simp [Sys.enterAck],by simp [busy,Sys.enterAck]⟩
  | checkRead | recheckRead | arm | requeueStop | requeue =>
    cases h
    exact ⟨rfl,rfl,by simp [busy,requeuePlatform]⟩

theorem transit_aside {p : LowerPc} {x : Nat} (gs : List (Batch Chair Nat))
    (hp : (s.worker .lower).pc = .lower p) (hd : dispatching p = false) :
    noteTransit gs s (.worker .lower x) = gs := by
  cases p with
  | dispatchWait | dispatchSend => cases hd
  | _ => simp [noteTransit,hp]

theorem boards_after (l : LowerLocals) (site : Site) :
    boards (afterDispatch { s with lower := l } site) = confirmed s.mqBoarding := by
  cases site <;> simp [afterDispatch,boards,loadingAt]

theorem boards_confirm {site : Site} {i : Nat} {p : PendingBoarding}
    (hp : (s.worker .lower).pc = .lower (.dispatchSend site i))
    (hi : s.lower.pending[i]? = some p) :
    boards ({ s with mqBoarding := s.mqBoarding ++ [confirmation s.lower p] }.goto .lower
      (.lower (.dispatchSend site (i + 1)))) = boards s := by
  obtain ⟨hlt,hget⟩ := List.getElem?_eq_some_iff.mp hi
  have hdrop : s.lower.pending.drop i = p :: s.lower.pending.drop (i + 1) := by
    rw [List.drop_eq_getElem_cons hlt,hget]
  simp only [boards,Sys.goto_worker,Function.update_self,Sys.goto_lower,Sys.goto_mqBoarding,hp,
    loadingAt,hdrop,confirmed,List.map_append,List.map_cons,List.map_nil,Multiset.coe_add,
    Multiset.coe_eq_coe]
  rw [← List.append_assoc]
  exact List.perm_append_singleton _ _

/-- Below, the tourists of a departing chair go from the buffer to the boarding queue. -/
theorem boards_lower {p : LowerPc} {x : Nat} (gs : List (Batch Chair Nat))
    (hp : (s.worker .lower).pc = .lower p) (h : lowerWorkerMain s x p = some s') :
    boards s' + load gs = boards s + load (noteTransit gs s (.worker .lower x)) := by
  cases hd : dispatching p with
  | false =>
    have ho := lower_aside hd h
    rw [transit_aside gs hp hd]
    simp only [boards,loading_idle ho.idle,ho.mqBoarding]
    rw [hp,loading_idle]
    cases p <;> first | rfl | cases hd
  | true =>
    cases p with
    | dispatchWait site =>
      simp only [lowerWorkerMain] at h
      split at h
      · rename_i hempty
        cases h
        have hnote : noteTransit gs s (.worker .lower x) = gs := by simp [noteTransit,hp,hempty]
        rw [hnote]
        have hafter : boards (afterDispatch s site) = confirmed s.mqBoarding :=
          boards_after s.lower site
        rw [hafter]
        simp [boards,hp,loadingAt]
      · rename_i hsome
        obtain ⟨-,rfl⟩ := sem_wait_map h
        have hnote : noteTransit gs s (.worker .lower x) =
            gs ++ [⟨s.lower.chair, s.lower.pending.map (·.touristId)⟩] := by
          simp [noteTransit,hp,hsome]
        rw [hnote]
        have hload : loadingAt (.lower (.dispatchSend site 0))
            { s.lower with departureTime := x } = load [⟨s.lower.chair, s.lower.pending.map (·.touristId)⟩] := by
          simp [loadingAt,Batch.items,Function.comp_def,LowerLocals.chair]
        simp only [boards,hp,Sys.goto_worker,Function.update_self,Sys.goto_lower,Sys.goto_mqBoarding,
          hload,load_append]
        simp only [loadingAt]
        abel
    | dispatchSend site i =>
      have hnote : noteTransit gs s (.worker .lower x) = gs := by simp [noteTransit,hp]
      rw [hnote]
      simp only [lowerWorkerMain] at h
      split at h
      · rename_i p hi
        cases h
        rw [boards_confirm hp hi]
      · rename_i hi
        cases h
        have hlen : s.lower.pending.length ≤ i := List.getElem?_eq_none_iff.mp hi
        rw [boards_after]
        simp [boards,hp,loadingAt,hlen]
    | _ => cases hd

theorem track_only (h : upperWorkerMain s .track = some s') : s'.mqArrivals = s.mqArrivals ∧
    processedAt (s'.worker .upper).pc s'.upper.msg = 0 := by
  simp only [upperWorkerMain] at h
  repeat' split at h
  all_goals
    cases h
    exact ⟨rfl,by simp [processedAt]⟩

/-- One arrival is taken from the queue, and processed. -/
theorem arrives_upper {p : UpperPc} {x : Nat} {gs : List (Batch Chair Nat)}
    (hp : (s.worker .upper).pc = .upper p) (hin : arrives s ≤ load gs)
    (h : upperWorkerMain s p = some s') :
    arrives s' + load gs = arrives s + load (noteTransit gs s (.worker .upper x)) := by
  cases p with
  | receive =>
    have hnote : noteTransit gs s (.worker .upper x) = gs := by simp [noteTransit,hp]
    rw [hnote]
    obtain ⟨⟨m,q⟩,hm,rfl⟩ := Option.map_eq_some_iff.mp h
    have hq := msgrcv_any hm
    simp only [arrives,hp,processedAt,hq,arrived_cons,Sys.goto_worker,Function.update_self,
      Sys.goto_mqArrivals,Sys.goto_upper,add_zero]
    rw [add_comm (arrived q)]
  | track =>
    have hmem : (s.upper.msg.touristId,s.upper.msg.chair) ∈ load gs := by
      apply Multiset.mem_of_le hin
      simp [arrives,hp,processedAt]
    have hnote : noteTransit gs s (.worker .upper x) =
        strike s.upper.msg.touristId s.upper.msg.chair gs := by simp [noteTransit,hp]
    obtain ⟨hq,hidle⟩ := track_only h
    rw [hnote,← load_strike hmem]
    have hb : arrives s' = arrived s.mqArrivals := by
      simp [arrives,hq,hidle]
    have ha : arrives s = arrived s.mqArrivals + {(s.upper.msg.touristId,s.upper.msg.chair)} := by
      simp [arrives,hp,processedAt]
    rw [ha,hb]
    abel
  | release =>
    have hnote : noteTransit gs s (.worker .upper x) = gs := by simp [noteTransit,hp]
    rw [hnote]
    cases h
    simp [arrives,hp,processedAt]

theorem seated_sum {i : Fin n} (ho : TouristOnly i s s')
    (hs : seated (s'.tourists i) = seated (s.tourists i)) :
    ∑ j, seated (s'.tourists j) = ∑ j, seated (s.tourists j) := by
  apply Finset.sum_congr rfl
  intro j _
  by_cases hj : j = i
  · subst hj
    exact hs
  · rw [ho.others j hj]

theorem boards_visitor (hw : SameWorkers s s') (hq : s'.mqBoarding = s.mqBoarding) :
    boards s' = boards s := by
  simp only [boards,hw.worker,hw.lower,hq]

theorem arrives_visitor (hw : SameWorkers s s') (hq : s'.mqArrivals = s.mqArrivals) :
    arrives s' = arrives s := by
  simp only [arrives,hw.worker,hw.upper,hq]

/-- A tourist gets on a chair with its confirmation. -/
theorem under_way_board {i : Fin n} {x : Nat} (hid : 0 < (s.tourists i).data.id)
    (hp : (s.tourists i).pc = .boardReceive) (h : touristMain s i x = some s') :
    underWay s' = underWay s := by
  have harr := arrives_visitor (tourist_same h) ((tourist_queues h).arrivals (by simp [hp]))
  simp only [touristMain,hp] at h
  obtain ⟨⟨m,q⟩,hm,rfl⟩ := Option.map_eq_some_iff.mp h
  obtain ⟨a,b,he,rfl,htype,-⟩ := msgrcv_split hid hm
  have hsum := sum_update seated s.tourists i { s.tourists i with
    pc := .platformPost
    departureTime := m.departureTime
    chairId := m.chairId
    touristsOnChair := m.touristsOnChair }
  have hold : seated (s.tourists i) = 0 := by simp [seated,hp,seatOf]
  have hnew : seated { s.tourists i with
      pc := .platformPost
      departureTime := m.departureTime
      chairId := m.chairId
      touristsOnChair := m.touristsOnChair } = {(m.mtype,m.chair)} := by
    rw [htype]
    rfl
  rw [hold,hnew,add_zero] at hsum
  unfold underWay
  rw [harr]
  simp only [boards,he,Sys.setTourist_tourists,hsum,Sys.setTourist_mqBoarding,confirmed_append,
    confirmed_cons,Sys.setTourist_worker,Sys.setTourist_lower]
  abel

/-- A tourist leaves its chair with its arrival message. -/
theorem under_way_leave {i : Fin n} {x : Nat} (hp : (s.tourists i).pc = .arriveSend)
    (h : touristMain s i x = some s') : underWay s' = underWay s := by
  have hboard := boards_visitor (tourist_same h) ((tourist_queues h).boarding (by simp [hp]))
  simp only [touristMain,hp] at h
  cases h
  have hsum := sum_update seated s.tourists i { s.tourists i with pc := .exitPost }
  have hold : seated (s.tourists i) = {((s.tourists i).data.id,(s.tourists i).chair)} := by
    simp [seated,hp,seatOf]
  have hnew : seated { s.tourists i with pc := .exitPost } = 0 := by simp [seated,seatOf]
  have harr : arrived [(s.tourists i).arrival] =
      {((s.tourists i).data.id,(s.tourists i).chair)} := rfl
  rw [hold,hnew,add_zero] at hsum
  unfold underWay
  rw [hboard,← hsum]
  simp only [arrives,Sys.walk_tourists,Sys.walk_mqArrivals,arrived_append,harr,Sys.walk_worker,
    Sys.walk_upper]
  abel

theorem under_way_tourist {i : Fin n} {x : Nat} (hid : 0 < (s.tourists i).data.id)
    (hrun : s.shm.running = true) (h : touristMain s i x = some s') : underWay s' = underWay s := by
  by_cases h1 : (s.tourists i).pc = .boardReceive
  · exact under_way_board hid h1 h
  by_cases h2 : (s.tourists i).pc = .arriveSend
  · exact under_way_leave h2 h
  have ho := tourist_only h
  have hw := tourist_same h
  have hq := tourist_queues h
  have hseat : seated (s'.tourists i) = seated (s.tourists i) := by
    by_cases h3 : (s.tourists i).pc = .boardSend
    · simp only [touristMain,h3] at h
      cases h
      simp [seated,h3,seatOf]
    · have hs := tourist_seat hrun h h3 h1 h2
      simp only [seated,Tourist.chair,hs.seat,hs.chairId,hs.touristsOnChair,ho.id]
  unfold underWay
  rw [boards_visitor hw (hq.boarding h1),arrives_visitor hw (hq.arrivals h2),seated_sum ho hseat]

theorem Carried.step {gs : List (Batch Chair Nat)} (h : Carried gs s)
    (hrun : s.shm.running = true) (t : Traffic s s' a) : Carried (noteTransit gs s a) s' := by
  cases t with
  | @lower x p hp hl =>
    have ho := lower_only hl
    have harr : arrives s' = arrives s := by simp only [arrives,ho.mqArrivals,ho.peer,ho.upper]
    refine ⟨?_,by rw [ho.tourists]; exact h.ids⟩
    apply add_right_cancel (b := load gs)
    calc underWay s' + load gs
        = boards s' + load gs + (∑ i, seated (s.tourists i) + arrives s) := by
          simp only [underWay,ho.tourists,harr]
          abel
      _ = boards s + load (noteTransit gs s (.worker .lower x)) + (∑ i, seated (s.tourists i) + arrives s) := by
          rw [boards_lower gs hp hl]
      _ = underWay s + load (noteTransit gs s (.worker .lower x)) := by
          simp only [underWay]
          abel
      _ = load (noteTransit gs s (.worker .lower x)) + load gs := by rw [h.passengers,add_comm]
  | @upper x p hp hu =>
    have ho := upper_only hu
    have hboard : boards s' = boards s := by simp only [boards,ho.peer,ho.lower,ho.mqBoarding]
    have hin : arrives s ≤ load gs := by
      rw [← h.passengers]
      exact Multiset.le_add_left _ _
    refine ⟨?_,by rw [ho.tourists]; exact h.ids⟩
    apply add_right_cancel (b := load gs)
    calc underWay s' + load gs
        = boards s + ∑ i, seated (s.tourists i) + (arrives s' + load gs) := by
          simp only [underWay,ho.tourists,hboard]
          abel
      _ = boards s + ∑ i, seated (s.tourists i) + (arrives s + load (noteTransit gs s (.worker .upper x))) := by
          rw [arrives_upper hp hin hu]
      _ = underWay s + load (noteTransit gs s (.worker .upper x)) := by
          simp only [underWay]
          abel
      _ = load (noteTransit gs s (.worker .upper x)) + load gs := by rw [h.passengers,add_comm]
  | @tourist i x ht =>
    refine ⟨?_,(tourist_only ht).ids h.ids⟩
    have hid : 0 < (s.tourists i).data.id := by
      rw [h.ids i]
      exact Nat.succ_pos _
    rw [under_way_tourist hid hrun ht]
    exact h.passengers
  | @cont i pc hc he =>
    subst he
    have ho : TouristOnly i s (s.walk i pc) := .walk _ rfl rfl rfl rfl rfl
    refine ⟨?_,ho.ids h.ids⟩
    have hseat : seated ((s.walk i pc).tourists i) = seated (s.tourists i) := by
      cases hp : (s.tourists i).pc <;> rw [hp] at hc <;> cases hc
      all_goals simp [seated,hp,seatOf]
    have hsame : underWay (s.walk i pc) = underWay s := by
      unfold underWay
      rw [seated_sum ho hseat]
      rfl
    rw [hsame]
    exact h.passengers
  | still hs =>
    refine ⟨?_,by rw [hs.tourists]; exact h.ids⟩
    rw [transit_still gs hs]
    simpa only [underWay,boards_still hs,arrives_still hs,hs.tourists] using h.passengers

theorem start_carried (u : Setup n) : Carried [] u.start := by
  refine ⟨?_,fun _ => rfl⟩
  simp [underWay,boards,arrives,Setup.start,Worker.init,loadingAt,confirmed,arrived,processedAt,
    seated,Tourist.init,seatOf]

end Ropeway
