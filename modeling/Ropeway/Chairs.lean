import Ropeway.ChairTransit
import Mathlib.Data.List.Perm.Basic

/-! The slots of `SEM_CHAIRS` and the trackers by which the upper worker decides when
one is free again. -/

namespace Ropeway
open Lib
variable {n : Nat} {s s' : Sys n} {a : Act n} {u : Setup n} {tr : List (Sys n × Act n)}

def partly (g : Batch Chair Nat) : Bool := g.waiting.length < g.label.size

def trackerOf (g : Batch Chair Nat) : ChairTracker :=
  ⟨g.label.number, g.label.size, g.label.size - g.waiting.length⟩

/-- The trackers without the one whose slot is being released. -/
def openAt : WorkerPc → UpperLocals → List ChairTracker
  | .upper .release, l => l.chairs.eraseIdx l.idx
  | _, l => l.chairs

/-- The slots of chairs that are empty but not released yet. -/
def releasingAt : WorkerPc → Nat
  | .upper .release => 1
  | _ => 0

/-- Apart from its own chair, no chair with the number of the arrival in hand is partly
processed. -/
def alone (gs : List (Batch Chair Nat)) (m : ArrivalMsg) : Bool :=
  match batchOf m.touristId m.chair gs with
  | none => true
  | some (_,rest) => rest.all (fun g => !(g.label.number == m.chairId && partly g))

/-- No arrival is processed while another chair of the same number is partly
processed. -/
def noOverlap : Env n := fun tr s a =>
  match a with
  | .worker .upper _ => (s.worker .upper).pc != .upper .track || alone (transit tr) s.upper.msg
  | _ => true

structure Counted (gs : List (Batch Chair Nat)) (s : Sys n) : Prop where
  waiting : ∀ g ∈ gs, 0 < g.waiting.length ∧ g.waiting.length ≤ g.label.size
  slots : s.sem .chairs + gs.length + releasingAt (s.worker .upper).pc = maxChairsInTransit
  trackers : (openAt (s.worker .upper).pc s.upper).Perm ((gs.filter partly).map trackerOf)

/-- Up to the order, removing a tracker is removing its place. -/
theorem remove_perm (chairs : List ChairTracker) (idx : Nat) :
    (removeChairTracker chairs idx).Perm (chairs.eraseIdx idx) := by
  rcases List.eq_nil_or_concat chairs with rfl | ⟨init,last,rfl⟩
  · simp [removeChairTracker]
  · simp only [removeChairTracker,List.concat_eq_append,List.getLast?_append,List.getLast?_singleton,
      Option.some_or,List.length_append,List.length_singleton]
    split
    · rename_i hlt
      by_cases he : idx = init.length
      · subst he
        simp [List.eraseIdx_append_of_length_le]
      · have hi : idx < init.length := by omega
        rw [List.set_append_left _ _ hi,List.dropLast_concat,List.eraseIdx_append_of_lt_length hi]
        exact (List.set_perm_cons_eraseIdx hi last).trans (List.perm_append_singleton last _).symm
    · rename_i hge
      rw [List.eraseIdx_of_length_le (by simp; omega)]

/-- The only tracker with the number of `g` is the one of `g` itself. -/
theorem tracker_unique {chairs : List ChairTracker} {g : Batch Chair Nat}
    {rest : List (Batch Chair Nat)}
    (hperm : chairs.Perm (((g :: rest).filter partly).map trackerOf))
    (hno : ∀ h ∈ rest, h.label.number = g.label.number → partly h = false)
    {c : ChairTracker} (hc : c ∈ chairs) (hid : c.chairId = g.label.number) :
    partly g = true ∧ c = trackerOf g := by
  obtain ⟨h,hh,rfl⟩ := List.mem_map.mp (hperm.mem_iff.mp hc)
  obtain ⟨hmem,hpart⟩ := List.mem_filter.mp hh
  rcases List.mem_cons.mp hmem with rfl | hmem
  · exact ⟨hpart,rfl⟩
  · rw [hno h hmem hid] at hpart
    cases hpart

/-- `get_chair_tracker` finds the tracker of the chair or makes it. -/
theorem get_tracker {chairs : List ChairTracker} {g : Batch Chair Nat}
    {rest : List (Batch Chair Nat)}
    (hperm : chairs.Perm (((g :: rest).filter partly).map trackerOf))
    (hle : g.waiting.length ≤ g.label.size) (hroom : chairs.length < maxActiveChairs)
    (hno : ∀ h ∈ rest, h.label.number = g.label.number → partly h = false) :
    ∃ i cs, getChairTracker chairs g.label.number g.label.size = some (i,cs) ∧
      cs[i]? = some (trackerOf g) ∧ (cs.eraseIdx i).Perm ((rest.filter partly).map trackerOf) := by
  unfold getChairTracker
  cases hf : chairs.findIdx? (fun c => c.chairId == g.label.number) with
  | some i =>
    obtain ⟨hi,hid,-⟩ := List.findIdx?_eq_some_iff_getElem.mp hf
    obtain ⟨hpart,hc⟩ := tracker_unique hperm hno (List.getElem_mem hi) (by simpa using hid)
    refine ⟨i,chairs,rfl,by rw [List.getElem?_eq_getElem hi,hc],?_⟩
    have hcons := (List.getElem_cons_eraseIdx_perm hi).trans hperm
    rw [List.filter_cons_of_pos hpart,List.map_cons,hc] at hcons
    exact hcons.cons_inv
  | none =>
    have hnew := List.findIdx?_eq_none_iff.mp hf
    have hpart : partly g = false := by
      by_contra hp
      rw [Bool.not_eq_false] at hp
      rw [List.filter_cons_of_pos hp,List.map_cons] at hperm
      have hin := hnew _ (hperm.mem_iff.mpr (List.mem_cons_self ..))
      simp [trackerOf] at hin
    have hfull : g.label.size - g.waiting.length = 0 := by
      simp only [partly,decide_eq_false_iff_not] at hpart
      omega
    refine ⟨chairs.length,_,by rw [if_pos hroom],by simp [trackerOf,hfull],?_⟩
    rw [List.filter_cons_of_neg (by simp [hpart])] at hperm
    simpa [List.eraseIdx_append_of_length_le] using hperm

/-- A passenger gets off: what is left of its chair has one passenger less. -/
theorem strike_cases {g : Batch Chair Nat} {i : Nat} (hi : i ∈ g.waiting) :
    g.waiting.length = 1 ∧ g.strike i = [] ∨
      ∃ g', g.strike i = [g'] ∧ g'.label = g.label ∧ 0 < g'.waiting.length ∧
        g'.waiting.length + 1 = g.waiting.length := by
  have hlen := List.length_erase_of_mem hi
  have hpos := List.length_pos_of_mem hi
  unfold Batch.strike
  split
  · rename_i he
    rw [he] at hlen
    simp only [List.length_nil] at hlen
    exact .inl ⟨by omega,rfl⟩
  · rename_i he
    have hleft := List.length_pos_iff.mpr he
    exact .inr ⟨_,rfl,rfl,hleft,by simp only [hlen]; omega⟩

theorem alone_rest {gs rest : List (Batch Chair Nat)} {g : Batch Chair Nat} {m : ArrivalMsg}
    (h : alone gs m = true) (hg : batchOf m.touristId m.chair gs = some (g,rest)) :
    ∀ g' ∈ rest, g'.label.number = m.chairId → partly g' = false := by
  simp only [alone,hg,List.all_eq_true] at h
  intro g' hg' hnum
  simpa [hnum] using h g' hg'

/-- The step of the upper worker that counts an arrival on its tracker. -/
theorem track_eq {j : Nat} {cs : List ChairTracker} {c : ChairTracker}
    (hget : getChairTracker s.upper.chairs s.upper.msg.chairId s.upper.msg.touristsOnChair =
      some (j,cs)) (hj : cs[j]? = some c) :
    upperWorkerMain s .track = some ({ s with
      upper := { s.upper with
        chairs := cs.set j { c with arrived := c.arrived + 1 }
        idx := j } }.goto .upper
          (if c.expected ≤ c.arrived + 1 then .upper .release else .danger)) := by
  simp only [upperWorkerMain,hget,hj]
  split <;> rfl

theorem Counted.track {gs : List (Batch Chair Nat)} {x : Nat} (h : Counted gs s)
    (hc : Carried gs s) (hp : (s.worker .upper).pc = .upper .track)
    (hno : alone gs s.upper.msg = true) (hs : upperWorkerMain s .track = some s') :
    Counted (noteTransit gs s (.worker .upper x)) s' := by
  have hmem : (s.upper.msg.touristId,s.upper.msg.chair) ∈ load gs := by
    rw [← hc.passengers]
    simp [underWay,arrives,hp,processedAt]
  obtain ⟨g,rest,hg,hperm,hlabel,hi⟩ := exists_batch hmem
  have hnote : noteTransit gs s (.worker .upper x) = g.strike s.upper.msg.touristId ++ rest := by
    simp [noteTransit,hp,strike,hg]
  have hnum : s.upper.msg.chairId = g.label.number := by rw [hlabel]; rfl
  have hsize : s.upper.msg.touristsOnChair = g.label.size := by rw [hlabel]; rfl
  have hslots := h.slots
  have htrack := h.trackers
  have hlen := hperm.length_eq
  obtain ⟨hpos,hle⟩ := h.waiting g (hperm.mem_iff.mpr (List.mem_cons_self ..))
  have hrest : ∀ g' ∈ rest, 0 < g'.waiting.length ∧ g'.waiting.length ≤ g'.label.size := by
    intro g' hg'
    exact h.waiting g' (hperm.mem_iff.mpr (List.mem_cons_of_mem _ hg'))
  simp only [hp,releasingAt,openAt,List.length_cons,maxChairsInTransit] at hslots htrack hlen
  have hroom : s.upper.chairs.length < maxActiveChairs := by
    have hfilter := List.length_filter_le partly gs
    have hcount := htrack.length_eq
    simp only [List.length_map,maxActiveChairs] at hcount ⊢
    omega
  obtain ⟨j,cs,hget,hj,herase⟩ := get_tracker (htrack.trans ((hperm.filter _).map _)) hle hroom
    (by rw [← hnum]; exact alone_rest hno hg)
  obtain ⟨hlt,-⟩ := List.getElem?_eq_some_iff.mp hj
  rw [← hnum,← hsize] at hget
  rw [track_eq hget hj] at hs
  rw [hnote]
  rcases strike_cases hi with ⟨hone,hstrike⟩ | ⟨g',hstrike,hlab,hpos',hless⟩
  · have hlast : (trackerOf g).expected ≤ (trackerOf g).arrived + 1 := by
      simp only [trackerOf]
      omega
    rw [if_pos hlast] at hs
    cases hs
    rw [hstrike,List.nil_append]
    refine ⟨hrest,?_,?_⟩
    · simp only [Sys.goto_sem,Sys.goto_worker,Function.update_self,releasingAt,maxChairsInTransit]
      omega
    · simpa [openAt,List.eraseIdx_set_eq] using herase
  · have hmore : ¬(trackerOf g).expected ≤ (trackerOf g).arrived + 1 := by
      simp only [trackerOf]
      omega
    have hpart : partly g' = true := by
      simp only [partly,hlab,decide_eq_true_eq]
      omega
    have hcount : { trackerOf g with arrived := (trackerOf g).arrived + 1 } = trackerOf g' := by
      simp only [trackerOf,hlab,ChairTracker.mk.injEq,true_and]
      omega
    rw [if_neg hmore,hcount] at hs
    cases hs
    rw [hstrike,List.singleton_append]
    refine ⟨?_,?_,?_⟩
    · intro g'' hg''
      rcases List.mem_cons.mp hg'' with rfl | hg''
      · rw [hlab]
        omega
      · exact hrest g'' hg''
    · simp only [Sys.goto_sem,Sys.goto_worker,Function.update_self,releasingAt,maxChairsInTransit,
        List.length_cons]
      omega
    · rw [List.filter_cons_of_pos hpart]
      simpa [openAt] using (List.set_perm_cons_eraseIdx hlt _).trans (herase.cons _)

theorem open_idle {pc : WorkerPc} (h : busy pc = false) (l : UpperLocals) :
    openAt pc l = l.chairs := by
  unfold openAt
  split
  · cases h
  · rfl

theorem releasing_idle {pc : WorkerPc} (h : busy pc = false) : releasingAt pc = 0 := by
  unfold releasingAt
  split
  · cases h
  · rfl

theorem Counted.upper {gs : List (Batch Chair Nat)} {p : UpperPc} {x : Nat} (h : Counted gs s)
    (hc : Carried gs s) (hp : (s.worker .upper).pc = .upper p)
    (hno : p = .track → alone gs s.upper.msg = true) (hs : upperWorkerMain s p = some s') :
    Counted (noteTransit gs s (.worker .upper x)) s' := by
  cases p with
  | track => exact h.track hc hp (hno rfl) hs
  | receive =>
    have hnote : noteTransit gs s (.worker .upper x) = gs := by simp [noteTransit,hp]
    obtain ⟨⟨m,q⟩,hm,rfl⟩ := Option.map_eq_some_iff.mp hs
    rw [hnote]
    exact ⟨h.waiting,by simpa [hp,releasingAt] using h.slots,by simpa [hp,openAt] using h.trackers⟩
  | release =>
    have hnote : noteTransit gs s (.worker .upper x) = gs := by simp [noteTransit,hp]
    have hslots := h.slots
    have htrack := h.trackers
    simp only [hp,releasingAt,openAt] at hslots htrack
    cases hs
    rw [hnote]
    refine ⟨h.waiting,?_,?_⟩
    · simp only [Sys.goto_sem,Sys.goto_worker,Function.update_self,releasingAt,semPost_sem]
      omega
    · simpa [openAt] using (remove_perm _ _).trans htrack

/-- A dispatch takes the slot of the chair that sets out. -/
theorem Counted.lower {gs : List (Batch Chair Nat)} {p : LowerPc} {x : Nat} (h : Counted gs s)
    (hp : (s.worker .lower).pc = .lower p) (hs : lowerWorkerMain s x p = some s') :
    Counted (noteTransit gs s (.worker .lower x)) s' := by
  have ho := lower_only hs
  have keep : s'.sem .chairs = s.sem .chairs → noteTransit gs s (.worker .lower x) = gs →
      Counted (noteTransit gs s (.worker .lower x)) s' := by
    intro hsem hnote
    rw [hnote]
    refine ⟨h.waiting,?_,?_⟩
    · rw [hsem,ho.peer]
      exact h.slots
    · rw [ho.peer,ho.upper]
      exact h.trackers
  cases hd : dispatching p with
  | false => exact keep (lower_aside hd hs).chairs (transit_aside gs hp hd)
  | true =>
    cases p with
    | dispatchWait site =>
      simp only [lowerWorkerMain] at hs
      split at hs
      · rename_i hempty
        cases hs
        refine keep (by cases site <;> rfl) (by simp [noteTransit,hp,hempty])
      · rename_i hsome
        obtain ⟨hone,rfl⟩ := sem_wait_map hs
        have hnote : noteTransit gs s (.worker .lower x) =
            gs ++ [⟨s.lower.chair, s.lower.pending.map (·.touristId)⟩] := by
          simp [noteTransit,hp,hsome]
        have hslots := h.slots
        rw [hnote]
        refine ⟨?_,?_,?_⟩
        · intro g hg
          rcases List.mem_append.mp hg with hg | hg
          · exact h.waiting g hg
          · rw [List.mem_singleton.mp hg]
            simpa [LowerLocals.chair,List.length_pos_iff] using hsome
        · rw [ho.peer]
          simp only [Sys.goto_sem,Function.update_self,List.length_append,List.length_singleton]
          omega
        · have hfull : partly ⟨s.lower.chair, s.lower.pending.map (·.touristId)⟩ = false := by
            simp [partly,LowerLocals.chair]
          rw [ho.peer,ho.upper,List.filter_append,List.filter_singleton,hfull]
          simpa using h.trackers
    | dispatchSend site i =>
      refine keep ?_ (by simp [noteTransit,hp])
      simp only [lowerWorkerMain] at hs
      split at hs
      · cases hs
        rfl
      · cases hs
        cases site <;> rfl
    | _ => cases hd

theorem Counted.step {gs : List (Batch Chair Nat)} (h : Counted gs s) (hc : Carried gs s)
    (hno : ∀ x, a = .worker .upper x → (s.worker .upper).pc = .upper .track →
      alone gs s.upper.msg = true)
    (t : Traffic s s' a) : Counted (noteTransit gs s a) s' := by
  cases t with
  | lower hp hl => exact h.lower hp hl
  | @upper x p hp hu =>
    refine h.upper hc hp ?_ hu
    intro he
    exact hno x rfl (by rw [hp,he])
  | tourist ht =>
    have hw := tourist_same ht
    refine ⟨h.waiting,?_,?_⟩
    · rw [hw.chairs,hw.worker]
      exact h.slots
    · rw [hw.worker,hw.upper]
      exact h.trackers
  | cont hc he =>
    subst he
    exact ⟨h.waiting,h.slots,h.trackers⟩
  | still hs =>
    rw [transit_still gs hs]
    have hslots := h.slots
    have htrack := h.trackers
    rcases busy_still hs .upper with he | ⟨h1,h2⟩
    · refine ⟨h.waiting,?_,?_⟩
      · rw [hs.chairs,he]
        exact hslots
      · rw [he,hs.upper]
        exact htrack
    · rw [releasing_idle h2] at hslots
      rw [open_idle h2] at htrack
      refine ⟨h.waiting,?_,?_⟩
      · rw [hs.chairs,releasing_idle h1]
        exact hslots
      · rw [open_idle h1,hs.upper]
        exact htrack

theorem start_counted (u : Setup n) : Counted [] u.start := by
  have hsem : u.start.sem .chairs = maxChairsInTransit := by
    simp only [Setup.start]
    rw [sem_create_values u.created]
    rfl
  exact ⟨by simp,by simpa [Setup.start,Worker.init,releasingAt] using hsem,.refl _⟩

def betweenMessages (s : Sys n) : Prop :=
  (s.worker .upper).pc ≠ .upper .track ∧ (s.worker .upper).pc ≠ .upper .release

/-- The slots that are not free are those of the chairs in transit. While the upper
worker releases a slot, its chair has no passenger left. -/
structure SlotsAccounted (tr : List (Sys n × Act n)) (s : Sys n) : Prop where
  between : betweenMessages s → s.sem .chairs + (transit tr).length = maxChairsInTransit
  releasing : (s.worker .upper).pc = .upper .release →
    s.sem .chairs + (transit tr).length + 1 = maxChairsInTransit

theorem run_counted (h : Runs [beforeShutdown,noOverlap] u tr s) :
    Carried (transit tr) s ∧ Counted (transit tr) s := by
  refine run_traffic (by simp) (fun tr s => Carried (transit tr) s ∧ Counted (transit tr) s)
    ⟨start_carried u,start_counted u⟩ ?_ h
  rintro tr s a s' ⟨hc,hk⟩ hrun allowed t
  simp only [allow_cons] at allowed
  rw [transit_snoc]
  refine ⟨hc.step hrun.on t,hk.step hc ?_ t⟩
  rintro x rfl hp
  simpa [noOverlap,hp] using allowed.2.1

/-- As long as chairs of the same number do not overlap at the upper station,
`SEM_CHAIRS` is 36 minus the chairs in transit. -/
theorem slots_accounted (h : Runs [beforeShutdown,noOverlap] u tr s) : SlotsAccounted tr s := by
  have hslots := (run_counted h).2.slots
  constructor
  · rintro ⟨-,hne⟩
    have hzero : releasingAt (s.worker .upper).pc = 0 := by
      unfold releasingAt
      split
      · rename_i hp
        exact absurd hp hne
      · rfl
    simpa [hzero] using hslots
  · intro hp
    simpa [hp,releasingAt] using hslots

/-- Two tourists board the first chair and one of them has arrived. -/
def pairRide : List (Act 3) :=
  reachPlatform 0 ++ safe .lower 13 ++ reachPlatform 1 ++ safe .lower 13 ++ timeout ++
    safe .lower 4 ++ walks 0 6 ++ walks 1 2 ++ safe .upper 7

theorem slots_accounted_pair : ∃ tr s,
    Runs [beforeShutdown,noOverlap] (sample 3) tr s ∧ betweenMessages s ∧
      transit tr = [⟨⟨1, 2⟩, [2]⟩] ∧ SlotsAccounted tr s := by
  have hr : reaches [beforeShutdown,noOverlap] (sample 3) pairRide
      (fun tr s => (s.worker .upper).pc == .checkResume && transit tr == [⟨⟨1, 2⟩, [2]⟩]) =
      true := by decide +kernel
  obtain ⟨tr,s,h,ht⟩ := exists_run hr
  simp only [Bool.and_eq_true,beq_iff_eq] at ht
  exact ⟨tr,s,h,by simp [betweenMessages,ht.1],ht.2,slots_accounted h⟩

def rideAgain : List (Act 3) :=
  walks 2 26 ++ safe .lower 13 ++ timeout ++ safe .lower 3 ++ walks 2 5 ++ safe .upper 7

/-- While the second of the two tourists on the first chair is delayed, the third one
takes the next 72 chairs. The last of these has the number 1 again and completes the
tracker of the first chair, so that the delayed tourist opens a new one that nobody
will complete. -/
def wrapRun : List (Act 3) :=
  pairRide ++ rideAlone 2 ++ walks 2 1 ++ safe .upper 7 ++
    (List.replicate 71 rideAgain).flatten ++ walks 2 1 ++ walks 1 3 ++ safe .upper 5

set_option maxRecDepth 100000 in
theorem reused_number_loses_slot : ∃ tr s,
    Runs [beforeShutdown,workersOnly,noFailingSemop] (sample 3) tr s ∧ ¬SlotsAccounted tr s := by
  have hr : reaches [beforeShutdown,workersOnly,noFailingSemop] (sample 3) wrapRun
      (fun tr s => (s.worker .upper).pc == .top && (transit tr).isEmpty && s.sem .chairs == 35) =
      true := by decide +kernel
  obtain ⟨tr,s,h,ht⟩ := exists_run hr
  simp only [Bool.and_eq_true,beq_iff_eq,List.isEmpty_iff] at ht
  obtain ⟨⟨hpc,htransit⟩,hsem⟩ := ht
  refine ⟨tr,s,h,?_⟩
  intro hs
  have hsum := hs.between (by simp [betweenMessages,hpc])
  rw [htransit,hsem] at hsum
  cases hsum

end Ropeway
