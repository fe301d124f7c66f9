import Ropeway.Boarding
import Mathlib.Algebra.Ring.Nat

/-! Packing of the chairs: the loop of the lower worker, with anything going on around
it. -/

namespace Ropeway
variable {n : Nat} {s s' : Sys n}

inductive Move (n : Nat)
  | work (x : Nat)
  | sleep
  | deliver (sig : Signal)
  /-- The others leave the system as `t`. -/
  | world (t : Sys n)

/-- The state `t` with what the others cannot change: the locals of the lower worker and its
record, apart from the signals pending for it. -/
@[simps!] def Sys.amid (s t : Sys n) : Sys n :=
  { t with lower := s.lower }.setWorker .lower { s.worker .lower with
    pendingUsr1 := (t.worker .lower).pendingUsr1
    pendingUsr2 := (t.worker .lower).pendingUsr2 }

def move (s : Sys n) : Move n → Option (Sys n)
  | .work x => workerStep s .lower x
  | .sleep => step s (.sleep .lower)
  | .deliver sig => deliverSignal s .lower sig
  | .world t => some (s.amid t)

def boardable (m : PlatformMsg) : Bool := 1 ≤ m.slotsNeeded && m.slotsNeeded ≤ 3

theorem boardable_iff {m : PlatformMsg} : boardable m = true ↔ 1 ≤ m.slotsNeeded ∧ m.slotsNeeded ≤ 3 := by
  simp [boardable]

def boardableOnly : List (Sys n × Move n) → Sys n → Move n → Bool := fun _ _ a =>
  match a with
  | .world t => t.mqPlatform.all boardable
  | _ => true

structure Opening (n : Nat) where
  sys : Sys n
  pc : (sys.worker .lower).pc = .top
  pending : sys.lower.pending = []
  slots : sys.lower.currentChairSlots = 0
  number : sys.lower.chairNumber = 1
  platform : sys.mqPlatform.all boardable = true

/-- The runs of the loop: all sequences of received tourists, timeouts and requeues. -/
abbrev Loops (o : Opening n) (tr : List (Sys n × Move n)) (s : Sys n) : Prop :=
  Lib.Run move boardableOnly o.sys tr s

/-- A chair that has left: the call of `dispatch_chair`, the number and the tourists it had
then, the tourist in hand, and the confirmations sent for it. -/
structure Departure where
  site : Site
  number : Nat
  tourists : List PendingBoarding
  turned : PlatformMsg
  sent : List PlatformMsg
  deriving DecidableEq, Repr

structure Log where
  buffered : List PendingBoarding
  departures : List Departure
  deriving DecidableEq, Repr

def sentBy (s : Sys n) (x : Nat) : List PlatformMsg :=
  match workerStep s .lower x with
  | some s' => s'.mqBoarding.drop s.mqBoarding.length
  | none => []

def confirm (ms : List PlatformMsg) (ds : List Departure) : List Departure :=
  match ds.getLast? with
  | some d => ds.dropLast ++ [{ d with sent := d.sent ++ ms }]
  | none => ds

def Log.note (g : Log) (s : Sys n) : Move n → Log
  | .work x =>
    match (s.worker .lower).pc with
    | .lower .place =>
      if s.lower.fits then
        { g with buffered := g.buffered ++ [⟨s.lower.msg.touristId, s.lower.msg.slotsNeeded⟩] }
      else g
    | .lower (.dispatchWait site) =>
      if s.lower.pending = [] then g
      else { g with departures := g.departures ++
        [⟨site, s.lower.chairNumber, s.lower.pending, s.lower.msg, []⟩] }
    | .lower (.dispatchSend _ _) => { g with departures := confirm (sentBy s x) g.departures }
    | _ => g
  | _ => g

def loopLog (tr : List (Sys n × Move n)) : Log := Lib.history Log.note ⟨[], []⟩ tr

def slotsOf (ps : List PendingBoarding) : Nat := (ps.map (·.slotsNeeded)).sum

/-- The `k`-th chair, counted from 0, left as it should. -/
structure WellPacked (k : Nat) (d : Departure) : Prop where
  number : d.number = k % totalChairs + 1
  tourists : d.tourists ≠ []
  slots : slotsOf d.tourists ≤ chairCapacity
  confirmed : d.sent.map (·.touristId) = d.tourists.map (·.touristId)
  chair : ∀ m ∈ d.sent, m.chairId = d.number ∧ m.touristsOnChair = d.sent.length
  time : ∀ m ∈ d.sent, ∀ m' ∈ d.sent, m.departureTime = m'.departureTime
  turned : d.site = .noFit → chairCapacity < slotsOf d.tourists + d.turned.slotsNeeded

def AllPacked (ds : List Departure) : Prop := ∀ k d, ds[k]? = some d → WellPacked k d

structure Boarded (g : Log) (l : LowerLocals) : Prop where
  packed : AllPacked g.departures
  number : l.chairNumber = g.departures.length % totalChairs + 1
  buffered : g.buffered = g.departures.flatMap (·.tourists) ++ l.pending

structure Confirming (g : Log) (l : LowerLocals) (site : Site) (i : Nat) : Prop where
  before : ∃ ds, AllPacked ds ∧ l.chairNumber = ds.length % totalChairs + 1 ∧
    g.departures = ds ++ [⟨site,l.chairNumber,l.pending,l.msg,(l.pending.take i).map (confirmation l)⟩]
  buffered : g.buffered = g.departures.flatMap (·.tourists)

def Logged (g : Log) (l : LowerLocals) : WorkerPc → Prop
  | .lower (.dispatchSend site i) => Confirming g l site i
  | .exited => AllPacked g.departures ∧ g.buffered = g.departures.flatMap (·.tourists) ++ l.pending
  | _ => Boarded g l

def Seats (l : LowerLocals) : WorkerPc → Prop
  | .lower (.dispatchWait .full) | .lower (.dispatchSend .full _) =>
    l.pending ≠ [] ∧ l.currentChairSlots = slotsOf l.pending ∧ l.currentChairSlots ≤ chairCapacity
  | .lower (.dispatchWait .noFit) | .lower (.dispatchSend .noFit _) =>
    l.pending ≠ [] ∧ l.currentChairSlots = slotsOf l.pending ∧ l.currentChairSlots < chairCapacity ∧
      chairCapacity < l.currentChairSlots + l.msg.slotsNeeded
  | .lower (.dispatchWait .timeout) | .lower (.dispatchSend .timeout _) | .lower (.dispatchSend .shutdown _) =>
    l.pending ≠ [] ∧ l.currentChairSlots = slotsOf l.pending ∧ l.currentChairSlots < chairCapacity
  | .exited => l.pending = []
  | _ => l.currentChairSlots = slotsOf l.pending ∧ l.currentChairSlots < chairCapacity

structure Packing (g : Log) (s : Sys n) : Prop where
  platform : ∀ m ∈ inHand s ++ s.mqPlatform, boardable m = true
  each : ∀ p ∈ s.lower.pending, 1 ≤ p.slotsNeeded
  seats : Seats s.lower (s.worker .lower).pc
  log : Logged g s.lower (s.worker .lower).pc

def plain : WorkerPc → Bool
  | .lower (.dispatchWait .shutdown) => true
  | .lower (.dispatchWait _) | .lower (.dispatchSend _ _) | .exited => false
  | _ => true

theorem seats_plain {pc : WorkerPc} (h : plain pc = true) (l : LowerLocals) :
    Seats l pc ↔ l.currentChairSlots = slotsOf l.pending ∧ l.currentChairSlots < chairCapacity := by
  unfold plain at h
  unfold Seats
  split at h <;> simp_all

theorem logged_plain {pc : WorkerPc} (h : plain pc = true) (g : Log) (l : LowerLocals) :
    Logged g l pc ↔ Boarded g l := by
  unfold plain at h
  unfold Logged
  split at h <;> simp_all

variable {g : Log}

/-- Between two such places with the same chair. -/
theorem Packing.stays (h : Packing g s) (hp : plain (s.worker .lower).pc = true)
    (hp' : plain (s'.worker .lower).pc = true) (hpend : s'.lower.pending = s.lower.pending)
    (hslots : s'.lower.currentChairSlots = s.lower.currentChairSlots)
    (hnum : s'.lower.chairNumber = s.lower.chairNumber)
    (hplat : ∀ m ∈ inHand s' ++ s'.mqPlatform, boardable m = true) : Packing g s' := by
  have hseats := (seats_plain hp _).1 h.seats
  have hlog := (logged_plain hp _ _).1 h.log
  refine ⟨hplat,by rw [hpend]; exact h.each,(seats_plain hp' _).2 ?_,(logged_plain hp' _ _).2 ?_⟩
  · rw [hpend,hslots]
    exact hseats
  · refine ⟨hlog.packed,?_,?_⟩
    · rw [hnum]
      exact hlog.number
    · rw [hpend]
      exact hlog.buffered

theorem AllPacked.snoc {ds : List Departure} {d : Departure} (h : AllPacked ds)
    (hd : WellPacked ds.length d) : AllPacked (ds ++ [d]) := by
  intro k e hk
  rcases Nat.lt_trichotomy k ds.length with hlt | heq | hgt
  · rw [List.getElem?_append_left hlt] at hk
    exact h k e hk
  · subst heq
    simp only [List.getElem?_append_right (Nat.le_refl _),Nat.sub_self,List.getElem?_cons_zero,
      Option.some.injEq] at hk
    exact hk ▸ hd
  · have hlen : (ds ++ [d]).length ≤ k := by
      rw [List.length_append,List.length_singleton]
      omega
    rw [List.getElem?_eq_none hlen] at hk
    cases hk

theorem confirm_snoc (ms : List PlatformMsg) (ds : List Departure) (d : Departure) :
    confirm ms (ds ++ [d]) = ds ++ [{ d with sent := d.sent ++ ms }] := by
  simp [confirm]

/-- In `dispatch_chair` every step sends one confirmation, and the last one none. -/
theorem sent_by {site : Site} {i : Nat} (hp : (s.worker .lower).pc = .lower (.dispatchSend site i)) (x : Nat) :
    sentBy s x = (s.lower.pending[i]?.map (confirmation s.lower)).toList := by
  unfold sentBy
  cases hi : s.lower.pending[i]? with
  | some p => simp [workerStep,hp,lowerWorkerMain,hi]
  | none => cases site <;> simp [workerStep,hp,lowerWorkerMain,hi,afterDispatch]

theorem seats_time (l : LowerLocals) (t : Nat) (pc : WorkerPc) :
    Seats { l with departureTime := t } pc ↔ Seats l pc := by
  unfold Seats
  split <;> rfl

theorem seats_send {l : LowerLocals} {site : Site} (h : Seats l (.lower (.dispatchWait site)))
    (hne : l.pending ≠ []) (i : Nat) : Seats l (.lower (.dispatchSend site i)) := by
  cases site with
  | shutdown => exact ⟨hne,h⟩
  | timeout | noFit | full => exact h

/-- Which tourist is in hand while a chair leaves does not change. -/
theorem hand_send (site : Site) (i : Nat) (m : PlatformMsg) :
    handAt (.lower (.dispatchSend site i)) m = handAt (.lower (.dispatchWait site)) m := by
  cases site <;> rfl

/-- What all places with a chair that leaves have in common. -/
theorem seats_slots {l : LowerLocals} {site : Site} {i : Nat} (h : Seats l (.lower (.dispatchSend site i))) :
    l.pending ≠ [] ∧ slotsOf l.pending ≤ chairCapacity ∧
      (site = .noFit → chairCapacity < slotsOf l.pending + l.msg.slotsNeeded) := by
  cases site with
  | timeout | shutdown =>
    obtain ⟨hne,hs,hlt⟩ := h
    exact ⟨hne,by omega,by simp⟩
  | full =>
    obtain ⟨hne,hs,hle⟩ := h
    exact ⟨hne,by omega,by simp⟩
  | noFit =>
    obtain ⟨hne,hs,hlt,hno⟩ := h
    exact ⟨hne,by omega,fun _ => by omega⟩

/-- The chair with all its confirmations. -/
theorem packed_chair {l : LowerLocals} {site : Site} {i k : Nat}
    (h : Seats l (.lower (.dispatchSend site i))) (hnum : l.chairNumber = k % totalChairs + 1) :
    WellPacked k ⟨site,l.chairNumber,l.pending,l.msg,l.pending.map (confirmation l)⟩ := by
  obtain ⟨hne,hle,hno⟩ := seats_slots h
  refine ⟨hnum,hne,hle,?_,?_,?_,hno⟩
  · simp [confirmation]
  · intro m hm
    obtain ⟨p,-,rfl⟩ := List.mem_map.mp hm
    exact ⟨rfl,(List.length_map _).symm⟩
  · intro m hm m' hm'
    obtain ⟨p,-,rfl⟩ := List.mem_map.mp hm
    obtain ⟨p',-,rfl⟩ := List.mem_map.mp hm'
    rfl

theorem next_chair_number (k : Nat) : nextChair (k % totalChairs + 1) = (k + 1) % totalChairs + 1 := by
  unfold nextChair totalChairs
  omega

/-- The slot is taken: the chair is on the log. -/
theorem Packing.depart {site : Site} {x : Nat} (h : Packing g s)
    (hp : (s.worker .lower).pc = .lower (.dispatchWait site)) (hne : s.lower.pending ≠ [])
    (hs : lowerWorkerMain s x (.dispatchWait site) = some s') : Packing (g.note s (.work x)) s' := by
  simp only [lowerWorkerMain,if_neg hne] at hs
  obtain ⟨-,rfl⟩ := sem_wait_map hs
  have hseats := h.seats
  have hlog := h.log
  rw [hp] at hseats hlog
  have hload : Boarded g s.lower := by
    cases site <;> exact hlog
  refine ⟨?_,h.each,?_,?_⟩
  · intro m hm
    apply h.platform
    simpa [inHand,hp,hand_send] using hm
  · simp only [Sys.goto_worker,Function.update_self,Sys.goto_lower,seats_time]
    exact seats_send hseats hne 0
  · simp only [Sys.goto_worker,Function.update_self,Sys.goto_lower,Log.note,hp,if_neg hne,Logged]
    refine ⟨⟨g.departures,hload.packed,hload.number,by simp⟩,?_⟩
    simp only [hload.buffered,List.flatMap_append,List.flatMap_singleton]

/-- One confirmation more. -/
theorem Packing.confirm {site : Site} {i x : Nat} {p : PendingBoarding} (h : Packing g s)
    (hp : (s.worker .lower).pc = .lower (.dispatchSend site i)) (hi : s.lower.pending[i]? = some p)
    (hs : lowerWorkerMain s x (.dispatchSend site i) = some s') : Packing (g.note s (.work x)) s' := by
  simp only [lowerWorkerMain,hi] at hs
  cases hs
  have hseats := h.seats
  have hlog := h.log
  rw [hp] at hseats hlog
  obtain ⟨⟨ds,hpacked,hnum,hds⟩,hbuf⟩ := hlog
  refine ⟨?_,h.each,?_,?_⟩
  · intro m hm
    apply h.platform
    simpa [inHand,hp,hand_send] using hm
  · simp only [Sys.goto_worker,Function.update_self,Sys.goto_lower]
    cases site <;> exact hseats
  · simp only [Sys.goto_worker,Function.update_self,Sys.goto_lower,Log.note,hp,Logged,sent_by hp,hi]
    refine ⟨⟨ds,hpacked,hnum,?_⟩,?_⟩
    · simp [hds,confirm_snoc,List.take_add_one,hi]
    · rw [hbuf]
      simp [hds,confirm_snoc]

/-- `dispatch_chair` returns: the next chair is empty and has the next number. -/
theorem Packing.dispatched {site : Site} {i x : Nat} (h : Packing g s)
    (hp : (s.worker .lower).pc = .lower (.dispatchSend site i)) (hi : s.lower.pending[i]? = none)
    (hs : lowerWorkerMain s x (.dispatchSend site i) = some s') : Packing (g.note s (.work x)) s' := by
  simp only [lowerWorkerMain,hi] at hs
  cases hs
  have hseats := h.seats
  have hlog := h.log
  rw [hp] at hseats hlog
  obtain ⟨⟨ds,hpacked,hnum,hds⟩,hbuf⟩ := hlog
  have hall : (s.lower.pending.take i).map (confirmation s.lower) =
      s.lower.pending.map (confirmation s.lower) := by
    rw [List.take_of_length_le (List.getElem?_eq_none_iff.mp hi)]
  rw [hall] at hds
  have hnote : g.note s (.work x) = g := by
    have hsame : Ropeway.confirm [] g.departures = g.departures := by simp [hds,confirm_snoc]
    simp [Log.note,hp,sent_by hp,hi,hsame]
  have hgood : AllPacked g.departures := by
    rw [hds]
    exact hpacked.snoc (packed_chair hseats hnum)
  have hnext : nextChair s.lower.chairNumber = g.departures.length % totalChairs + 1 := by
    rw [hnum,next_chair_number,hds,List.length_append,List.length_singleton]
  rw [hnote]
  refine ⟨?_,?_,?_,?_⟩
  · rw [after_dispatch_hand { s.lower with pending := [] } rfl site hp (hand_send site i _),
      after_dispatch_platform]
    exact h.platform
  · cases site <;> simp [afterDispatch,LowerLocals.newChair]
  · cases site <;> simp [afterDispatch,LowerLocals.newChair,Seats,slotsOf,chairCapacity]
  · cases site with
    | shutdown => exact ⟨hgood,by simp [afterDispatch,hbuf]⟩
    | timeout | noFit | full => exact ⟨hgood,hnext,by simp [afterDispatch,LowerLocals.newChair,hbuf]⟩

/-- Each tourist takes a slot, so there are no more of them than slots. -/
theorem length_le_slots {ps : List PendingBoarding} (h : ∀ p ∈ ps, 1 ≤ p.slotsNeeded) :
    ps.length ≤ slotsOf ps := by
  induction ps with
  | nil => simp
  | cons p ps ih =>
    have hp := h p List.mem_cons_self
    have hps := ih (fun q hq => h q (List.mem_cons_of_mem p hq))
    simp only [slotsOf] at hps
    simp only [slotsOf,List.map_cons,List.sum_cons,List.length_cons]
    omega

/-- The bound check of `g_pending` does not fail. -/
theorem Packing.bound (h : Packing g s) (hp : (s.worker .lower).pc = .lower .place) :
    s.lower.pending.length < 4 := by
  have hseats := h.seats
  rw [hp] at hseats
  obtain ⟨hs,hlt⟩ := hseats
  have hlen := length_le_slots h.each
  unfold chairCapacity at hlt
  omega

theorem Packing.place {x : Nat} (h : Packing g s) (hp : (s.worker .lower).pc = .lower .place)
    (hs : lowerWorkerMain s x .place = some s') : Packing (g.note s (.work x)) s' := by
  have hbound := h.bound hp
  have hseats := h.seats
  have hlog := h.log
  have hhand : inHand s = [s.lower.msg] := by simp [inHand,hp,handAt]
  have hmsg := boardable_iff.1 (h.platform s.lower.msg (by simp [hhand]))
  have hplat : ∀ m ∈ s.mqPlatform, boardable m = true := fun m hm => h.platform m (List.mem_append_right _ hm)
  rw [hp] at hseats hlog
  obtain ⟨hslots,hlt⟩ := hseats
  obtain ⟨hpacked,hnum,hbuf⟩ := hlog
  unfold chairCapacity at hlt
  simp only [lowerWorkerMain] at hs
  by_cases hfits : s.lower.fits = true
  · have hfit : s.lower.currentChairSlots + s.lower.msg.slotsNeeded ≤ 4 := of_decide_eq_true hfits
    have hpend : s.lower.buffer.pending =
        s.lower.pending ++ [⟨s.lower.msg.touristId,s.lower.msg.slotsNeeded⟩] := by
      simp [LowerLocals.buffer,hbound]
    have hsum : s.lower.buffer.currentChairSlots = slotsOf s.lower.buffer.pending := by
      rw [hpend]
      simp [LowerLocals.buffer,slotsOf,hslots]
    have hcap : s.lower.buffer.currentChairSlots ≤ 4 := hfit
    have hnew : ∀ p ∈ s.lower.buffer.pending, 1 ≤ p.slotsNeeded := by
      intro p hmem
      rw [hpend] at hmem
      rcases List.mem_append.mp hmem with hmem | hmem
      · exact h.each p hmem
      · rw [List.mem_singleton.mp hmem]
        exact hmsg.1
    have hload : Boarded (g.note s (.work x)) s.lower.buffer := by
      refine ⟨?_,?_,?_⟩
      · simpa [Log.note,hp,hfits] using hpacked
      · simpa [Log.note,hp,hfits,LowerLocals.buffer] using hnum
      · simp [Log.note,hp,hfits,hpend,hbuf]
    rw [if_pos hfits] at hs
    split at hs
    · rename_i hfull
      cases hs
      exact ⟨by simpa [inHand,handAt] using hplat,hnew,⟨by simp [hpend],hsum,hcap⟩,hload⟩
    · rename_i hnotfull
      have hless : s.lower.buffer.currentChairSlots < chairCapacity := by omega
      cases hs
      exact ⟨by simpa [inHand,handAt] using hplat,hnew,⟨hsum,hless⟩,hload⟩
  · have hno : 4 < s.lower.currentChairSlots + s.lower.msg.slotsNeeded := by
      by_contra hle
      exact hfits (decide_eq_true (Nat.le_of_not_lt hle))
    have hnote : g.note s (.work x) = g := by simp [Log.note,hp,hfits]
    rw [if_neg hfits] at hs
    rw [hnote]
    split at hs
    · -- Three slots fit on an empty chair.
      rename_i hempty
      rw [hempty] at hslots
      simp only [slotsOf,List.map_nil,List.sum_nil] at hslots
      omega
    · rename_i hne
      cases hs
      refine ⟨?_,h.each,⟨hne,hslots,hlt,hno⟩,⟨hpacked,hnum,hbuf⟩⟩
      intro m hm
      apply h.platform
      simpa [inHand,hp,handAt] using hm

/-- Putting a message back with another type. -/
theorem Packing.requeue (h : Packing g s) (hp : plain (s.worker .lower).pc = true)
    (hh : inHand s = [s.lower.msg]) : Packing g (requeuePlatform s) := by
  refine h.stays hp rfl rfl rfl rfl ?_
  intro m hm
  simp only [inHand,requeuePlatform,Sys.goto_worker,Function.update_self,handAt,Sys.goto_mqPlatform,
    List.nil_append,List.mem_append,List.mem_singleton] at hm
  rcases hm with hm | rfl
  · exact h.platform m (List.mem_append_right _ hm)
  · exact h.platform s.lower.msg (by simp [hh])

/-- Nothing is loaded and nobody comes or goes. -/
theorem Packing.still (h : Packing g s) (hp : plain (s.worker .lower).pc = true)
    (hp' : plain (s'.worker .lower).pc = true) (hl : s'.lower = s.lower)
    (hq : s'.mqPlatform = s.mqPlatform) (hh : ∀ m ∈ inHand s', m ∈ inHand s) : Packing g s' := by
  refine h.stays hp hp' (by rw [hl]) (by rw [hl]) (by rw [hl]) ?_
  intro m hm
  apply h.platform
  rcases List.mem_append.mp hm with hm | hm
  · exact List.mem_append_left _ (hh m hm)
  · rw [hq] at hm
    exact List.mem_append_right _ hm

/-- The tourist in hand comes from the platform. -/
theorem Packing.receive {m : PlatformMsg} {q : List PlatformMsg} (h : Packing g s)
    (hp : (s.worker .lower).pc = .lower .receive) (hm : receivePlatform s = some (m,q)) :
    Packing g ({ s with mqPlatform := q, lower := { s.lower with msg := m } }.setWorker .lower
      { s.worker .lower with pc := .lower .recheckWait, asleep := false, alarm := false }) := by
  obtain ⟨a,b,hq,hr,-⟩ := Lib.msgrcv_lowest (by decide) hm
  refine h.stays (by rw [hp]; rfl) rfl rfl rfl rfl ?_
  intro m' hm'
  apply h.platform
  simp only [inHand,Sys.setWorker_worker,Function.update_self,handAt,Sys.setWorker_lower,
    Sys.setWorker_mqPlatform,List.singleton_append,List.mem_cons] at hm'
  rw [List.mem_append,hq]
  right
  rcases hm' with rfl | hm'
  · simp
  · rw [hr] at hm'
    simp only [List.mem_append,List.mem_cons] at hm' ⊢
    tauto

/-- Only the last call of `dispatch_chair` can find the chair empty. -/
theorem Packing.empty {site : Site} (h : Packing g s)
    (hp : (s.worker .lower).pc = .lower (.dispatchWait site)) (hne : s.lower.pending = []) :
    Packing g (afterDispatch s site) := by
  have hseats := h.seats
  have hlog := h.log
  rw [hp] at hseats hlog
  cases site with
  | shutdown =>
    refine ⟨?_,h.each,hne,hlog.packed,hlog.buffered⟩
    intro m hm
    apply h.platform
    simpa [inHand,hp,handAt,afterDispatch] using hm
  | timeout | noFit | full => exact absurd hne hseats.1

theorem Packing.lower {p : LowerPc} {x : Nat} (h : Packing g s) (hp : (s.worker .lower).pc = .lower p)
    (hs : lowerWorkerMain s x p = some s') : Packing (g.note s (.work x)) s' := by
  cases p with
  | place => exact h.place hp hs
  | dispatchWait site =>
    by_cases hne : s.lower.pending = []
    · have hnote : g.note s (.work x) = g := by simp [Log.note,hp,hne]
      simp only [lowerWorkerMain,if_pos hne] at hs
      cases hs
      rw [hnote]
      exact h.empty hp hne
    · exact h.depart hp hne hs
  | dispatchSend site i =>
    cases hi : s.lower.pending[i]? with
    | some q => exact h.confirm hp hi hs
    | none => exact h.dispatched hp hi hs
  | checkWait | recheckWait =>
    have hnote : g.note s (.work x) = g := by simp [Log.note,hp]
    obtain ⟨-,rfl⟩ := sem_wait_map hs
    rw [hnote]
    exact h.still (by rw [hp]; rfl) rfl rfl rfl (by simp [inHand,hp,handAt])
  | checkRead | recheckRead | arm =>
    have hnote : g.note s (.work x) = g := by simp [Log.note,hp]
    cases hs
    rw [hnote]
    exact h.still (by rw [hp]; rfl) rfl rfl rfl (by simp [inHand,hp,handAt])
  | checkPost | recheckPost =>
    have hnote : g.note s (.work x) = g := by simp [Log.note,hp]
    rw [hnote]
    simp only [lowerWorkerMain] at hs
    split at hs
    all_goals
      cases hs
      exact h.still (by rw [hp]; rfl) rfl rfl rfl (by simp [inHand,hp,handAt,Sys.enterAck])
  | receive =>
    have hnote : g.note s (.work x) = g := by simp [Log.note,hp]
    obtain ⟨⟨m,q⟩,hm,rfl⟩ := Option.map_eq_some_iff.mp hs
    rw [hnote]
    exact h.receive hp hm
  | requeueStop | requeue =>
    have hnote : g.note s (.work x) = g := by simp [Log.note,hp]
    cases hs
    rw [hnote]
    exact h.requeue (by rw [hp]; rfl) (by simp [inHand,hp,handAt])

theorem emergency_plain {pc : WorkerPc} (h : inEmergency pc = true) : plain pc = true := by
  cases pc <;> first | rfl | cases h

/-- The loop ends only after the last call of `dispatch_chair`. -/
theorem head_plain {x : Nat} (hp : atWork (s.worker .lower).pc = false)
    (h : workerStep s .lower x = some s') : plain (s'.worker .lower).pc = true := by
  cases worker_runs h with
  | danger hpc hs =>
    rw [hs]
    exact emergency_plain (danger_pc .lower s x)
  | trigger hpc hs => exact emergency_plain (trigger_pc hs)
  | ack hpc hs => exact emergency_plain (ack_pc hs)
  | resume hpc hs => exact emergency_plain (resume_pc hs)
  | lower hpc hs | upper hpc hs => simp [hpc,atWork] at hp
  | @head p hpc idle hs =>
    cases p with
    | top | checkResume | checkInitiator | pauseArm =>
      simp only [workerLoopHead] at hs
      repeat' split at hs
      all_goals
        cases hs
        simp [plain,Sys.enterAck]
    | _ => cases hs

theorem calm_plain {pc : WorkerPc} (h : atWork pc = false) (hne : pc ≠ .exited) : plain pc = true := by
  cases pc <;> first | rfl | exact absurd rfl hne | cases h

/-- The same chair at the same place. -/
theorem Packing.same (h : Packing g s) (hpc : (s'.worker .lower).pc = (s.worker .lower).pc)
    (hl : s'.lower = s.lower) (hq : s'.mqPlatform.all boardable = true) : Packing g s' := by
  refine ⟨?_,by rw [hl]; exact h.each,by rw [hpc,hl]; exact h.seats,by rw [hpc,hl]; exact h.log⟩
  intro m hm
  rcases List.mem_append.mp hm with hm | hm
  · rw [inHand,hpc,hl] at hm
    exact h.platform m (List.mem_append_left _ hm)
  · exact List.all_eq_true.mp hq m hm

theorem Packing.queue (h : Packing g s) : s.mqPlatform.all boardable = true := by
  rw [List.all_eq_true]
  intro m hm
  exact h.platform m (List.mem_append_right _ hm)

/-- A signal that makes the call fail in which the lower worker sleeps. -/
theorem Packing.wake (h : Packing g s) {w : Worker} (hw : w.pc = wakePc s.lower (s.worker .lower).pc) :
    Packing g (s.setWorker .lower w) := by
  by_cases hsame : wakePc s.lower (s.worker .lower).pc = (s.worker .lower).pc
  · exact h.same (by simp [hw,hsame]) rfl h.queue
  · have hplain : plain (s.worker .lower).pc = true := by
      revert hsame
      unfold wakePc
      repeat' split
      all_goals simp_all [plain]
    have hempty : handAt (wakePc s.lower (s.worker .lower).pc) s.lower.msg = [] := by
      revert hsame
      unfold wakePc
      repeat' split
      all_goals simp_all [handAt]
    have hplat : ∀ m ∈ inHand (s.setWorker .lower w) ++ (s.setWorker .lower w).mqPlatform, boardable m = true := by
      intro m hm
      apply h.platform
      have hq : m ∈ s.mqPlatform := by simpa [inHand,hw,hempty] using hm
      exact List.mem_append_right _ hq
    by_cases hwake : plain (wakePc s.lower (s.worker .lower).pc) = true
    · exact h.stays hplain (by simpa [hw] using hwake) rfl rfl rfl hplat
    · -- The receive has timed out with somebody on the chair.
      have hrec : s.lower.pending ≠ [] ∧
          wakePc s.lower (s.worker .lower).pc = .lower (.dispatchWait .timeout) := by
        revert hwake hsame
        unfold wakePc
        repeat' split
        all_goals simp_all [plain]
      have hseats := (seats_plain hplain _).1 h.seats
      have hlog := (logged_plain hplain _ _).1 h.log
      refine ⟨hplat,h.each,?_,?_⟩
      · simp only [Sys.setWorker_worker,Function.update_self,hw,hrec.2,Sys.setWorker_lower]
        exact ⟨hrec.1,hseats⟩
      · simp only [Sys.setWorker_worker,Function.update_self,hw,hrec.2,Sys.setWorker_lower]
        exact hlog

theorem Packing.calm {x : Nat} (h : Packing g s) (hw : atWork (s.worker .lower).pc = false)
    (hc : Calm .lower s s') (hs : workerStep s .lower x = some s') :
    ownPc .lower (s'.worker .lower).pc = true ∧ Packing (g.note s (.work x)) s' := by
  have hplain : plain (s.worker .lower).pc = true := by
    refine calm_plain hw ?_
    intro he
    simp [workerStep,he] at hs
  have hnote : g.note s (.work x) = g := by
    simp only [Log.note]
    split
    all_goals first | rfl | (rename_i hpc; simp [hpc,atWork] at hw)
  have hempty : handAt (s'.worker .lower).pc s'.lower.msg = [] := by
    rcases worker_pc hw hs with hcalm | he
    · exact hand_calm hcalm _
    · generalize (s'.worker .lower).pc = pc at he
      cases he <;> rfl
  rw [hnote]
  refine ⟨?_,h.stays hplain (head_plain hw hs) (by rw [hc.lower]) (by rw [hc.lower]) (by rw [hc.lower]) ?_⟩
  · rcases worker_pc hw hs with hcalm | he
    · exact own_of_calm hcalm _
    · exact he.own
  · rw [inHand,hempty,List.nil_append,hc.mqPlatform]
    exact fun m hm => h.platform m (List.mem_append_right _ hm)

theorem Packing.move {a : Move n} (hown : ownPc .lower (s.worker .lower).pc = true) (h : Packing g s)
    (ok : boardableOnly [] s a = true) (hs : move s a = some s') :
    ownPc .lower (s'.worker .lower).pc = true ∧ Packing (g.note s a) s' := by
  cases a with
  | work x =>
    cases worker_acts hs with
    | calm hw hc => exact h.calm hw hc hs
    | lower hp hl => exact ⟨(lower_only hl).own,h.lower hp hl⟩
    | upper hp => simp [hp,ownPc] at hown
  | sleep =>
    simp only [Ropeway.move,step] at hs
    split at hs
    · cases hs
      exact ⟨by simpa using hown,h.same (by simp) rfl h.queue⟩
    · cases hs
  | deliver sig =>
    obtain ⟨w,hh,⟨-,rfl⟩ | ⟨-,al,rfl⟩⟩ := deliver_eq hown hs
    · have hpc := (handler_frame hh).1
      exact ⟨by simpa [hpc] using hown,h.same (by simpa using hpc) rfl h.queue⟩
    · exact ⟨by simpa using wake_own hown,h.wake rfl⟩
  | world t =>
    cases hs
    exact ⟨by simpa using hown,h.same (by simp) rfl ok⟩

theorem loops_packing {o : Opening n} {tr : List (Sys n × Move n)} (h : Loops o tr s) :
    ownPc .lower (s.worker .lower).pc = true ∧ Packing (loopLog tr) s := by
  refine h.invariant (fun tr s => ownPc .lower (s.worker .lower).pc = true ∧ Packing (loopLog tr) s) ?_ ?_
  · refine ⟨by rw [o.pc]; rfl,?_,?_,?_,?_⟩
    · rw [inHand,o.pc]
      exact List.all_eq_true.mp o.platform
    · simp [o.pending]
    · rw [o.pc]
      exact ⟨by simp [o.slots,o.pending,slotsOf],by simp [o.slots,chairCapacity]⟩
    · rw [o.pc]
      exact ⟨by simp [AllPacked,loopLog],by simp [o.number,loopLog,totalChairs],by simp [loopLog,o.pending]⟩
  · intro tr s a s' hi allowed hs
    have hnext := hi.2.move hi.1 allowed hs
    simpa [loopLog] using hnext

/-- The chairs are packed as they should be: what holds at the start of an iteration, at the bound
check, and once the loop has ended. -/
structure Packed (g : Log) (s : Sys n) : Prop where
  slots : (s.worker .lower).pc = .top → s.lower.currentChairSlots = slotsOf s.lower.pending ∧
    s.lower.currentChairSlots < chairCapacity
  bound : (s.worker .lower).pc = .lower .place → s.lower.pending.length < 4
  chairs : (s.worker .lower).pc = .top ∨ (s.worker .lower).pc = .exited →
    ∀ k d, g.departures[k]? = some d → WellPacked k d
  confirmed : (s.worker .lower).pc = .top ∨ (s.worker .lower).pc = .exited →
    (g.departures.flatMap (·.sent)).map (·.touristId) ++ s.lower.pending.map (·.touristId) =
      g.buffered.map (·.touristId)
  last : (s.worker .lower).pc = .exited → s.lower.pending = []

/-- The confirmations of packed chairs, tourist by tourist. -/
theorem AllPacked.confirmed {ds : List Departure} (h : AllPacked ds) :
    (ds.flatMap (·.sent)).map (·.touristId) = (ds.flatMap (·.tourists)).map (·.touristId) := by
  rw [List.map_flatMap,List.map_flatMap]
  apply List.flatMap_congr
  intro d hd
  obtain ⟨k,hk⟩ := List.mem_iff_getElem?.mp hd
  exact (h k d hk).confirmed

theorem Packing.packed (h : Packing g s) : Packed g s := by
  have hseats := h.seats
  have hlog := h.log
  have hends : (s.worker .lower).pc = .top ∨ (s.worker .lower).pc = .exited →
      AllPacked g.departures ∧ g.buffered = g.departures.flatMap (·.tourists) ++ s.lower.pending := by
    rintro (hp | hp)
    · rw [hp] at hlog
      exact ⟨hlog.packed,hlog.buffered⟩
    · rw [hp] at hlog
      exact hlog
  refine ⟨?_,h.bound,fun hp => (hends hp).1,?_,?_⟩
  · intro hp
    rw [hp] at hseats
    exact hseats
  · intro hp
    obtain ⟨hall,hbuf⟩ := hends hp
    rw [hall.confirmed,hbuf,List.map_append]
  · intro hp
    rw [hp] at hseats
    exact hseats

theorem chairs_packed {o : Opening n} {tr : List (Sys n × Move n)} (h : Loops o tr s) :
    Packed (loopLog tr) s :=
  (loops_packing h).2.packed

def Setup.opening (u : Setup n) : Opening n := ⟨u.start,rfl,rfl,rfl,rfl,rfl⟩

/-- Two tourists who do not fit on one chair come to the platform: the first one leaves
alone. -/
def turnedAway : List (Move 0) :=
  .world { (sample 0).start with mqPlatform := [⟨2,1,.cyclist,2,0,0,0,0⟩,⟨2,2,.family,3,2,0,0,0⟩] } ::
    List.replicate 29 (.work 99)

theorem chairs_packed_two : ∃ tr s, Loops (sample 0).opening tr s ∧
    (loopLog tr).departures.map (fun d => (d.site,d.number,d.sent.length)) = [(.noFit,1,1)] ∧
      Packed (loopLog tr) s := by
  have hr : (Lib.exec move boardableOnly [] turnedAway (sample 0).opening.sys).any (fun p =>
      (loopLog p.1).departures.map (fun d => (d.site,d.number,d.sent.length)) == [(.noFit,1,1)]) = true := by
    decide +kernel
  obtain ⟨tr,s,h,ht⟩ := Lib.exists_run turnedAway (fun tr _ =>
    (loopLog tr).departures.map (fun d => (d.site,d.number,d.sent.length)) == [(.noFit,1,1)]) hr
  exact ⟨tr,s,h,by simpa using ht,chairs_packed h⟩

/-! ### The loop in the whole simulation -/

def Act.ofLower : Act n → Option (Move n)
  | .worker .lower x => some (.work x)
  | .sleep .lower => some .sleep
  | .deliver .lower sig => some (.deliver sig)
  | _ => none

def shiftLog (tr : List (Sys n × Act n)) : Log :=
  Lib.history (fun g s a =>
    match a.ofLower with
    | some m => g.note s m
    | none => g) ⟨[], []⟩ tr

theorem amid_eq (hl : s'.lower = s.lower) (hw : ∃ a b, s'.worker .lower =
    { s.worker .lower with pendingUsr1 := a, pendingUsr2 := b }) : s.amid s' = s' := by
  obtain ⟨a,b,hw⟩ := hw
  have hworker : Function.update s'.worker .lower { s.worker .lower with
      pendingUsr1 := (s'.worker .lower).pendingUsr1
      pendingUsr2 := (s'.worker .lower).pendingUsr2 } = s'.worker := by
    rw [hw,← hw,Function.update_eq_self]
  unfold Sys.amid Sys.setWorker
  simp only [hworker,← hl]

theorem own_move {a : Act n} {m : Move n} (ha : a.ofLower = some m) (h : step s a = some s') :
    move s m = some s' ∧ (∀ tr, boardableOnly tr s m = true) ∧ a.visitor = false := by
  cases a with
  | worker r x | sleep r | deliver r sig =>
    cases r with
    | lower =>
      cases ha
      exact ⟨h,fun _ => rfl,rfl⟩
    | upper => cases ha
  | _ => cases ha

/-- To the lower worker every step of another process is one of the world. -/
theorem others_amid {a : Act n} (hown : ∀ r, ownPc r (s.worker r).pc = true) (ha : a.ofLower = none)
    (h : step s a = some s') : s.amid s' = s' := by
  cases a with
  | worker r x =>
    cases r with
    | lower => cases ha
    | upper =>
      exact amid_eq (upper_lower (hown .upper) h) (worker_peer (r := .upper) (hown .upper) h)
  | sleep r =>
    cases r with
    | lower => cases ha
    | upper =>
      simp only [step] at h
      split at h
      · cases h
        exact amid_eq rfl ⟨_,_,rfl⟩
      · cases h
  | deliver r sig =>
    cases r with
    | lower => cases ha
    | upper =>
      obtain ⟨w,-,⟨-,rfl⟩ | ⟨-,al,rfl⟩⟩ := deliver_eq (hown .upper) h
      · exact amid_eq rfl ⟨_,_,rfl⟩
      · exact amid_eq rfl ⟨_,_,rfl⟩
  | kill r sig =>
    obtain ⟨w,hw,rfl⟩ := Option.map_eq_some_iff.mp h
    cases r with
    | upper => exact amid_eq rfl ⟨_,_,rfl⟩
    | lower =>
      cases sig with
      | usr1 | usr2 =>
        cases hw
        exact amid_eq rfl ⟨_,_,rfl⟩
      | alrm | cont => cases hw
  | _ =>
    have hsame := outside_same rfl h
    exact amid_eq hsame.lower ⟨_,_,by rw [hsame.worker]⟩

def Fits (s : Sys n) : Prop := ∀ i, 1 ≤ (s.tourists i).data.chairSlots ∧ (s.tourists i).data.chairSlots ≤ 3

theorem start_fits (u : Setup n) : Fits u.start := by
  intro i
  have hle := (u.args i).kids_le
  have hfam := (u.args i).kids_family
  simp only [Setup.start,Tourist.init,TouristArgs.data]
  unfold maxKidsPerAdult at hle
  split
  · rename_i hcyc
    have hnone : (u.args i).kidCount = 0 := by
      by_contra hne
      rw [hfam (Nat.pos_of_ne_zero hne)] at hcyc
      cases hcyc
    omega
  · omega

/-- Tourists send themselves to the platform with the slots they need; nobody else puts
anybody there. -/
theorem Fits.step {a : Act n} (h : Fits s) (hown : ∀ r, ownPc r (s.worker r).pc = true)
    (ha : a.ofLower = none) (hq : s.mqPlatform.all boardable = true) (hs : step s a = some s') :
    Fits s' ∧ s'.mqPlatform.all boardable = true := by
  by_cases hfail : ∃ i, a = .touristFail i
  · obtain ⟨i,rfl⟩ := hfail
    obtain ⟨pc,-,rfl⟩ := Option.map_eq_some_iff.mp hs
    have hseats := (TouristOnly.walk (i := i) (s := s) pc rfl rfl rfl rfl rfl).seats
    exact ⟨fun j => by rw [hseats]; exact h j,hq⟩
  · cases step_traffic hown (fun i he => hfail ⟨i,he⟩) hs with
    | lower hp hl => cases ha
    | upper hp hu =>
      have ho := upper_only hu
      exact ⟨fun j => by rw [ho.tourists]; exact h j,by rw [ho.mqPlatform]; exact hq⟩
    | @cont i pc hc he =>
      subst he
      have hseats := (TouristOnly.walk (i := i) (s := s) pc rfl rfl rfl rfl rfl).seats
      exact ⟨fun j => by rw [hseats]; exact h j,hq⟩
    | still hst => exact ⟨fun j => by rw [hst.tourists]; exact h j,by rw [hst.mqPlatform]; exact hq⟩
    | @tourist i x ht =>
      refine ⟨fun j => by rw [(tourist_only ht).seats]; exact h j,?_⟩
      by_cases hp : (s.tourists i).pc = .boardSend
      · have hi := h i
        simp only [touristMain,hp] at ht
        cases ht
        simp only [Sys.walk_mqPlatform,List.all_append,hq,Bool.true_and,List.all_cons,List.all_nil,
          Bool.and_true]
        exact boardable_iff.2 hi
      · rw [(tourist_queues ht).platform hp]
        exact hq

/-- In every run of the system the lower worker goes through one of its loops. -/
theorem run_loops {rules : List (Env n)} {u : Setup n} {tr : List (Sys n × Act n)} (h : Runs rules u tr s) :
    ∃ tr', Loops u.opening tr' s ∧ loopLog tr' = shiftLog tr := by
  suffices hall : Fits s ∧ ∃ tr', Loops u.opening tr' s ∧ loopLog tr' = shiftLog tr from hall.2
  refine run_invariant (fun tr s => Fits s ∧
    ∃ tr', Loops u.opening tr' s ∧ loopLog tr' = shiftLog tr) ?_ ?_ h
  · exact ⟨start_fits u,[],.nil,rfl⟩
  · intro tr s a s' hown hi _ hs
    obtain ⟨hfits,tr',hloop,hlog⟩ := hi
    have hq := (loops_packing hloop).2.queue
    cases ha : a.ofLower with
    | some m =>
      obtain ⟨hmove,hallowed,hout⟩ := own_move ha hs
      have htour := (visitors_same hown hout hs).tourists
      refine ⟨fun i => by rw [htour]; exact hfits i,_,hloop.snoc (hallowed tr') hmove,?_⟩
      simpa [loopLog,shiftLog,ha] using congrArg (fun g => g.note s m) hlog
    | none =>
      obtain ⟨hfits',hq'⟩ := hfits.step hown ha hq hs
      have hallowed : boardableOnly tr' s (.world s') = true := hq'
      refine ⟨hfits',_,hloop.snoc hallowed (congrArg some (others_amid hown ha hs)),?_⟩
      simpa [loopLog,shiftLog,ha,Log.note] using hlog

/-- So the chairs are packed in the whole simulation too. -/
theorem run_packed {rules : List (Env n)} {u : Setup n} {tr : List (Sys n × Act n)}
    (h : Runs rules u tr s) : Packed (shiftLog tr) s := by
  obtain ⟨tr',hloop,hlog⟩ := run_loops h
  rw [← hlog]
  exact (loops_packing hloop).2.packed

end Ropeway
