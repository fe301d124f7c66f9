import Ropeway.Chairs
import Mathlib.Data.Finset.Card

/-! The upper worker's count of the arrivals of each chair, over any order in which the
passengers of the chairs come in. -/

namespace Ropeway
open Lib
variable {n : Nat}

/-- What the loop of `upper_worker_main` keeps of its arrivals: `g_chairs` and the number
of posts to `SEM_CHAIRS` it has made. -/
structure Tracking where
  chairs : List ChairTracker
  posts : Nat
  deriving DecidableEq, Repr

def trackArrival (t : Tracking) (m : ArrivalMsg) : Tracking :=
  match getChairTracker t.chairs m.chairId m.touristsOnChair with
  | none => t
  | some (i,chairs) =>
    match chairs[i]? with
    | none => t
    | some c =>
      let c' := { c with arrived := c.arrived + 1 }
      if c'.expected ≤ c'.arrived then ⟨removeChairTracker (chairs.set i c') i, t.posts + 1⟩
      else ⟨chairs.set i c', t.posts⟩

def trackAll (ms : List ArrivalMsg) : Tracking := ms.foldl trackArrival ⟨[],0⟩

theorem track_all_snoc (ms : List ArrivalMsg) (m : ArrivalMsg) :
    trackAll (ms ++ [m]) = trackArrival (trackAll ms) m := by
  simp [trackAll]

/-- The steps of the upper worker that count an arrival do what `trackArrival` does. -/
theorem track_steps (s : Sys n) :
    ∃ s₁, upperWorkerMain s .track = some s₁ ∧
      (((s₁.worker .upper).pc = .danger ∧
          trackArrival ⟨s.upper.chairs,s.sem .chairs⟩ s.upper.msg = ⟨s₁.upper.chairs,s₁.sem .chairs⟩) ∨
        ((s₁.worker .upper).pc = .upper .release ∧ ∃ s₂, upperWorkerMain s₁ .release = some s₂ ∧
          (s₂.worker .upper).pc = .danger ∧
          trackArrival ⟨s.upper.chairs,s.sem .chairs⟩ s.upper.msg = ⟨s₂.upper.chairs,s₂.sem .chairs⟩)) := by
  unfold trackArrival
  cases hget : getChairTracker s.upper.chairs s.upper.msg.chairId s.upper.msg.touristsOnChair with
  | none => exact ⟨s.goto .upper .danger,by simp only [upperWorkerMain,hget],.inl ⟨by simp,by simp⟩⟩
  | some p =>
    obtain ⟨i,chairs⟩ := p
    cases hi : chairs[i]? with
    | none =>
      exact ⟨s.goto .upper .danger,by simp only [upperWorkerMain,hget,hi],.inl ⟨by simp,by simp [hi]⟩⟩
    | some c =>
      refine ⟨_,track_eq hget hi,?_⟩
      by_cases hfull : c.expected ≤ c.arrived + 1
      · refine .inr ⟨by simp [hfull],_,rfl,by simp,?_⟩
        simp [hi,hfull,semPost]
      · refine .inl ⟨by simp [hfull],?_⟩
        simp [hi,hfull]

variable {t : Tracking} {m : ArrivalMsg} {c : ChairTracker}

def others (chairs : List ChairTracker) (chairId : Nat) : List ChairTracker :=
  chairs.filter (fun c => c.chairId != chairId)

/-- In an array with each id once, `c` and the others are all there is. -/
theorem erase_others {chairs : List ChairTracker} (hnd : (chairs.map ChairTracker.chairId).Nodup) {i : Nat}
    (hi : chairs[i]? = some c) : chairs.eraseIdx i = others chairs c.chairId := by
  induction chairs generalizing i with
  | nil => simp at hi
  | cons d ds ih =>
    rw [List.map_cons,List.nodup_cons] at hnd
    cases i with
    | zero =>
      simp only [List.getElem?_cons_zero,Option.some.injEq] at hi
      subst hi
      have hds : ∀ e ∈ ds, (e.chairId != d.chairId) = true := by
        intro e he
        simp only [bne_iff_ne,ne_eq]
        intro heq
        exact hnd.1 (heq ▸ List.mem_map_of_mem he)
      simp [others,List.filter_eq_self.mpr hds]
    | succ i =>
      rw [List.getElem?_cons_succ] at hi
      have hne : d.chairId ≠ c.chairId := by
        intro heq
        exact hnd.1 (heq ▸ List.mem_map_of_mem (List.mem_of_getElem? hi))
      have hrest := ih hnd.2 hi
      simp only [others] at hrest
      simp [others,hne,hrest]

/-- `get_chair_tracker` with a tracker of this chair in the array. -/
theorem get_present {chairs : List ChairTracker} (hnd : (chairs.map ChairTracker.chairId).Nodup)
    (hc : c ∈ chairs) (k : Nat) :
    ∃ i, getChairTracker chairs c.chairId k = some (i,chairs) ∧ chairs[i]? = some c ∧
      chairs.eraseIdx i = others chairs c.chairId := by
  have hsome : (chairs.findIdx? (fun d => d.chairId == c.chairId)).isSome = true := by
    rw [List.findIdx?_isSome,List.any_eq_true]
    exact ⟨c,hc,by simp⟩
  obtain ⟨i,hf⟩ := Option.isSome_iff_exists.mp hsome
  obtain ⟨hi,hid,-⟩ := List.findIdx?_eq_some_iff_getElem.mp hf
  have hget : chairs[i]? = some c := by
    rw [List.getElem?_eq_getElem hi]
    exact congrArg some (List.inj_on_of_nodup_map hnd (List.getElem_mem hi) hc (by simpa using hid))
  exact ⟨i,by simp [getChairTracker,hf],hget,erase_others hnd hget⟩

/-- `get_chair_tracker` with no tracker of this chair and room for one. -/
theorem get_new {chairs : List ChairTracker} {chairId : Nat} (hno : ∀ d ∈ chairs, d.chairId ≠ chairId)
    (hroom : chairs.length < maxActiveChairs) (k : Nat) :
    getChairTracker chairs chairId k = some (chairs.length,chairs ++ [⟨chairId,k,0⟩]) := by
  have hf : chairs.findIdx? (fun d => d.chairId == chairId) = none := by
    rw [List.findIdx?_eq_none_iff]
    intro d hd
    simp [hno d hd]
  simp [getChairTracker,hf,hroom]

/-- An arrival that finds `c` in the array, or makes it: the chair is counted, and removed
with a post when it is complete. The others stay. -/
theorem track_counts (hnd : (t.chairs.map ChairTracker.chairId).Nodup) (hid : c.chairId = m.chairId)
    (hc : c ∈ t.chairs ∨ (c = ⟨m.chairId,m.touristsOnChair,0⟩ ∧ (∀ d ∈ t.chairs, d.chairId ≠ m.chairId) ∧
      t.chairs.length < maxActiveChairs)) :
    (c.expected ≤ c.arrived + 1 ∧ (trackArrival t m).posts = t.posts + 1 ∧
        (trackArrival t m).chairs.Perm (others t.chairs m.chairId)) ∨
      (c.arrived + 1 < c.expected ∧ (trackArrival t m).posts = t.posts ∧
        (trackArrival t m).chairs.Perm
          ({ c with arrived := c.arrived + 1 } :: others t.chairs m.chairId)) := by
  obtain ⟨i,cs,hget,hi,hrest⟩ : ∃ i cs,
      getChairTracker t.chairs m.chairId m.touristsOnChair = some (i,cs) ∧ cs[i]? = some c ∧
        cs.eraseIdx i = others t.chairs m.chairId := by
    rcases hc with hc | ⟨rfl,hno,hroom⟩
    · obtain ⟨i,hget,hi,hrest⟩ := get_present hnd hc m.touristsOnChair
      rw [hid] at hget hrest
      exact ⟨i,t.chairs,hget,hi,hrest⟩
    · refine ⟨_,_,get_new hno hroom _,by simp,?_⟩
      have hall : ∀ d ∈ t.chairs, (d.chairId != m.chairId) = true := by
        intro d hd
        simp [hno d hd]
      simp [others,List.filter_eq_self.mpr hall,List.eraseIdx_append_of_length_le]
  have hlt : i < cs.length := (List.getElem?_eq_some_iff.mp hi).1
  by_cases hfull : c.expected ≤ c.arrived + 1
  · left
    have hr : trackArrival t m =
        ⟨removeChairTracker (cs.set i { c with arrived := c.arrived + 1 }) i,t.posts + 1⟩ := by
      simp [trackArrival,hget,hi,hfull]
    rw [hr]
    refine ⟨hfull,rfl,?_⟩
    have hperm := remove_perm (cs.set i { c with arrived := c.arrived + 1 }) i
    rwa [List.eraseIdx_set_eq,hrest] at hperm
  · right
    have hr : trackArrival t m = ⟨cs.set i { c with arrived := c.arrived + 1 },t.posts⟩ := by
      simp [trackArrival,hget,hi,hfull]
    rw [hr]
    refine ⟨by omega,rfl,?_⟩
    rw [← hrest]
    exact List.set_perm_cons_eraseIdx hlt _

/-- The arrivals of the passengers of some chairs, in any order in which two chairs with the
same number do not overlap. -/
structure Interleaving (ι : Type) [DecidableEq ι] where
  number : ι → Nat
  size : ι → Nat
  /-- The chair of each passenger, and the message. -/
  arrivals : List (ι × ArrivalMsg)
  carries : ∀ p ∈ arrivals, p.2.chairId = number p.1 ∧ p.2.touristsOnChair = size p.1
  complete : ∀ p ∈ arrivals, (arrivals.map Prod.fst).count p.1 = size p.1
  apart : ∀ c d, c ≠ d → number c = number d →
    (∀ i j : Nat, (arrivals.map Prod.fst)[i]? = some c → (arrivals.map Prod.fst)[j]? = some d → i < j) ∨
    (∀ i j : Nat, (arrivals.map Prod.fst)[i]? = some c → (arrivals.map Prod.fst)[j]? = some d → j < i)

namespace Interleaving

variable {ι : Type} [DecidableEq ι] {A : Interleaving ι} {p rest : List (ι × ArrivalMsg)} {c d : ι}
  {m : ArrivalMsg}

def seen (p : List (ι × ArrivalMsg)) (c : ι) : Nat := (p.map Prod.fst).count c

def partly (A : Interleaving ι) (p : List (ι × ArrivalMsg)) : Finset ι :=
  (p.map Prod.fst).toFinset.filter (fun c => seen p c < A.size c)

def fully (A : Interleaving ι) (p : List (ι × ArrivalMsg)) : Finset ι :=
  (p.map Prod.fst).toFinset.filter (fun c => seen p c = A.size c)

def counted (p : List (ι × ArrivalMsg)) : Tracking := trackAll (p.map Prod.snd)

def tracker (A : Interleaving ι) (p : List (ι × ArrivalMsg)) (c : ι) : ChairTracker :=
  ⟨A.number c, A.size c, seen p c⟩

/-- The trackers are those of the partly arrived chairs, and each fully arrived chair has
been posted. -/
structure Exact (A : Interleaving ι) (p : List (ι × ArrivalMsg)) : Prop where
  ids : ((counted p).chairs.map ChairTracker.chairId).Nodup
  trackers : ∀ t, t ∈ (counted p).chairs ↔ ∃ c ∈ A.partly p, t = A.tracker p c
  started : ∀ t ∈ (counted p).chairs, 0 < t.arrived ∧ t.arrived < t.expected
  posts : (counted p).posts = (A.fully p).card

theorem seen_snoc (p : List (ι × ArrivalMsg)) (c d : ι) (m : ArrivalMsg) :
    seen (p ++ [(c,m)]) d = seen p d + if d = c then 1 else 0 := by
  unfold seen
  by_cases h : d = c
  · simp [h]
  · simp [h,Ne.symm h]

theorem mem_partly : c ∈ A.partly p ↔ 0 < seen p c ∧ seen p c < A.size c := by
  rw [partly,Finset.mem_filter,List.mem_toFinset,← List.count_pos_iff]
  rfl

theorem mem_fully : c ∈ A.fully p ↔ 0 < seen p c ∧ seen p c = A.size c := by
  rw [fully,Finset.mem_filter,List.mem_toFinset,← List.count_pos_iff]
  rfl

theorem carried (h : A.arrivals = p ++ (c,m) :: rest) :
    m.chairId = A.number c ∧ m.touristsOnChair = A.size c :=
  A.carries (c,m) (by rw [h]; simp)

/-- The counts of a tracker are within bounds because those of its chair are. -/
theorem Exact.of (ids : ((counted p).chairs.map ChairTracker.chairId).Nodup)
    (trackers : ∀ t, t ∈ (counted p).chairs ↔ ∃ c ∈ A.partly p, t = A.tracker p c)
    (posts : (counted p).posts = (A.fully p).card) : A.Exact p := by
  refine ⟨ids,trackers,?_,posts⟩
  intro t ht
  obtain ⟨c,hc,rfl⟩ := (trackers t).1 ht
  exact mem_partly.1 hc

/-- A chair never has more arrivals than passengers. -/
theorem seen_lt (h : A.arrivals = p ++ (c,m) :: rest) : seen p c < A.size c := by
  have hall := A.complete (c,m) (by rw [h]; simp)
  rw [h] at hall
  simp only [List.map_append,List.map_cons,List.count_append,List.count_cons_self] at hall
  unfold seen
  omega

/-- When a passenger of `c` comes in, other chairs with its number have not begun to arrive or
are through. -/
theorem apart_at (h : A.arrivals = p ++ (c,m) :: rest) (hne : d ≠ c) (hnum : A.number d = A.number c) :
    d ∉ A.partly p := by
  rw [mem_partly]
  rintro ⟨hpos,hlt⟩
  have hc : (A.arrivals.map Prod.fst)[p.length]? = some c := by simp [h]
  rcases A.apart c d (Ne.symm hne) hnum.symm with hbefore | hafter
  · -- Then nothing of `d` comes before this arrival.
    obtain ⟨j,hj,hd⟩ := List.mem_iff_getElem.mp (List.count_pos_iff.mp hpos)
    have hjp : j < p.length := by simpa using hj
    have hd' : (A.arrivals.map Prod.fst)[j]? = some d := by
      rw [h,List.map_append,List.getElem?_append_left hj,List.getElem?_eq_getElem hj,hd]
    have := hbefore p.length j hc hd'
    omega
  · -- Then nothing of `d` comes after it.
    have hrest : (rest.map Prod.fst).count d = 0 := by
      rw [List.count_eq_zero]
      intro hmem
      obtain ⟨j,hj,hd⟩ := List.mem_iff_getElem.mp hmem
      have hd' : (A.arrivals.map Prod.fst)[p.length + (j + 1)]? = some d := by
        rw [h,List.map_append,List.getElem?_append_right (by simp),List.map_cons]
        simp only [List.length_map,Nat.add_sub_cancel_left,List.getElem?_cons_succ]
        rw [List.getElem?_eq_getElem hj,hd]
      have := hafter p.length (p.length + (j + 1)) hc hd'
      omega
    obtain ⟨q,hq,hqd⟩ := List.mem_map.mp (List.count_pos_iff.mp hpos)
    have hall := A.complete q (by rw [h]; simp [hq])
    rw [hqd,h,List.map_append,List.map_cons,List.count_append,
      List.count_cons_of_ne (Ne.symm hne),hrest] at hall
    unfold seen at hlt
    omega

omit [DecidableEq ι] in
theorem counted_snoc (p : List (ι × ArrivalMsg)) (c : ι) (m : ArrivalMsg) :
    counted (p ++ [(c,m)]) = trackArrival (counted p) m := by
  unfold counted
  rw [List.map_append]
  exact track_all_snoc _ m

/-- The array has no more trackers than there are partly arrived chairs. -/
theorem Exact.length_le (h : A.Exact p) : (counted p).chairs.length ≤ (A.partly p).card := by
  have hsub : ((counted p).chairs.map ChairTracker.chairId).toFinset ⊆ (A.partly p).image A.number := by
    intro k hk
    rw [List.mem_toFinset] at hk
    obtain ⟨t,ht,rfl⟩ := List.mem_map.mp hk
    obtain ⟨c,hc,rfl⟩ := (h.trackers t).1 ht
    exact Finset.mem_image_of_mem A.number hc
  calc (counted p).chairs.length
      = ((counted p).chairs.map ChairTracker.chairId).toFinset.card := by
        rw [List.toFinset_card_of_nodup h.ids,List.length_map]
    _ ≤ ((A.partly p).image A.number).card := Finset.card_le_card hsub
    _ ≤ (A.partly p).card := Finset.card_image_le

/-- The others in the array are the trackers of the other chairs. -/
theorem Exact.others (h : A.Exact p) (hat : A.arrivals = p ++ (c,m) :: rest) (t : ChairTracker) :
    t ∈ others (counted p).chairs (A.number c) ↔ ∃ d ∈ A.partly p, d ≠ c ∧ t = A.tracker p d := by
  simp only [Ropeway.others,List.mem_filter,bne_iff_ne,ne_eq,h.trackers]
  constructor
  · rintro ⟨⟨d,hd,rfl⟩,hnum⟩
    exact ⟨d,hd,fun he => hnum (by rw [he]; rfl),rfl⟩
  · rintro ⟨d,hd,hne,rfl⟩
    exact ⟨⟨d,hd,rfl⟩,fun hnum => apart_at hat hne hnum hd⟩

/-- Apart from `c` no chair is touched by an arrival of a passenger of `c`. -/
theorem partly_snoc (hne : d ≠ c) : d ∈ A.partly (p ++ [(c,m)]) ↔ d ∈ A.partly p := by
  simp [mem_partly,seen_snoc,hne]

theorem tracker_snoc (hne : d ≠ c) : A.tracker (p ++ [(c,m)]) d = A.tracker p d := by
  simp [tracker,seen_snoc,hne]

/-- The last passenger completes the chair. -/
theorem fully_snoc (hlt : seen p c < A.size c) :
    (A.fully (p ++ [(c,m)])).card = (A.fully p).card + if seen p c + 1 = A.size c then 1 else 0 := by
  have hnot : c ∉ A.fully p := by
    rw [mem_fully]
    omega
  split
  · rename_i hlast
    have hins : A.fully (p ++ [(c,m)]) = insert c (A.fully p) := by
      ext d
      by_cases hd : d = c
      · simp [hd,mem_fully,seen_snoc,← hlast]
      · simp [hd,mem_fully,seen_snoc]
    rw [hins,Finset.card_insert_of_notMem hnot]
  · rename_i hmore
    have hsame : A.fully (p ++ [(c,m)]) = A.fully p := by
      ext d
      by_cases hd : d = c
      · rw [hd]
        simp only [mem_fully,seen_snoc,if_true]
        omega
      · simp [hd,mem_fully,seen_snoc]
    rw [hsame,Nat.add_zero]

/-- At an arrival its tracker is there, or no tracker has its number and there is room. -/
theorem Exact.found (h : A.Exact p) (hat : A.arrivals = p ++ (c,m) :: rest)
    (hroom : seen p c = 0 → (A.partly p).card < maxActiveChairs) :
    A.tracker p c ∈ (counted p).chairs ∨ (A.tracker p c = ⟨m.chairId,m.touristsOnChair,0⟩ ∧
      (∀ d ∈ (counted p).chairs, d.chairId ≠ m.chairId) ∧
        (counted p).chairs.length < maxActiveChairs) := by
  obtain ⟨hnum,hsize⟩ := carried hat
  by_cases hzero : seen p c = 0
  · refine .inr ⟨by simp [tracker,hnum,hsize,hzero],?_,lt_of_le_of_lt h.length_le (hroom hzero)⟩
    intro t ht hid
    obtain ⟨d,hd,rfl⟩ := (h.trackers t).1 ht
    by_cases hdc : d = c
    · rw [hdc,mem_partly,hzero] at hd
      omega
    · exact apart_at hat hdc (hid.trans hnum) hd
  · exact .inl ((h.trackers _).2 ⟨c,mem_partly.2 ⟨by omega,seen_lt hat⟩,rfl⟩)

theorem Exact.others_snoc (h : A.Exact p) (hat : A.arrivals = p ++ (c,m) :: rest) (t : ChairTracker) :
    t ∈ Ropeway.others (counted p).chairs (A.number c) ↔
      ∃ d ∈ A.partly (p ++ [(c,m)]), d ≠ c ∧ t = A.tracker (p ++ [(c,m)]) d := by
  rw [h.others hat]
  constructor
  · rintro ⟨d,hd,hne,rfl⟩
    exact ⟨d,(partly_snoc hne).2 hd,hne,(tracker_snoc hne).symm⟩
  · rintro ⟨d,hd,hne,rfl⟩
    exact ⟨d,(partly_snoc hne).1 hd,hne,tracker_snoc hne⟩

theorem Exact.others_ids (h : A.Exact p) (k : Nat) :
    ((Ropeway.others (counted p).chairs k).map ChairTracker.chairId).Nodup :=
  h.ids.sublist (List.filter_sublist.map _)

/-- The last passenger of its chair: the tracker is gone, and the chair is posted. -/
theorem Exact.last (h : A.Exact p) (hat : A.arrivals = p ++ (c,m) :: rest)
    (hlast : seen p c + 1 = A.size c)
    (hposts : (counted (p ++ [(c,m)])).posts = (counted p).posts + 1)
    (hperm : (counted (p ++ [(c,m)])).chairs.Perm (Ropeway.others (counted p).chairs (A.number c))) :
    A.Exact (p ++ [(c,m)]) := by
  have hgone : c ∉ A.partly (p ++ [(c,m)]) := by
    rw [mem_partly,seen_snoc]
    simp [hlast]
  refine .of ((hperm.map _).nodup_iff.2 (h.others_ids _)) ?_ ?_
  · intro t
    rw [hperm.mem_iff,h.others_snoc hat]
    constructor
    · rintro ⟨d,hd,-,ht⟩
      exact ⟨d,hd,ht⟩
    · rintro ⟨d,hd,ht⟩
      exact ⟨d,hd,fun he => hgone (he ▸ hd),ht⟩
  · rw [hposts,fully_snoc (seen_lt hat),if_pos hlast,h.posts]

/-- Any other passenger: its tracker counts one more. -/
theorem Exact.more (h : A.Exact p) (hat : A.arrivals = p ++ (c,m) :: rest)
    (hmore : seen p c + 1 < A.size c)
    (hposts : (counted (p ++ [(c,m)])).posts = (counted p).posts)
    (hperm : (counted (p ++ [(c,m)])).chairs.Perm
      ({ A.tracker p c with arrived := (A.tracker p c).arrived + 1 } ::
        Ropeway.others (counted p).chairs (A.number c))) :
    A.Exact (p ++ [(c,m)]) := by
  have hseen : seen (p ++ [(c,m)]) c = seen p c + 1 := by simp [seen_snoc]
  have hin : c ∈ A.partly (p ++ [(c,m)]) := by
    rw [mem_partly,hseen]
    omega
  have hnew : ({ A.tracker p c with arrived := (A.tracker p c).arrived + 1 } : ChairTracker) =
      A.tracker (p ++ [(c,m)]) c := by
    simp [tracker,hseen]
  rw [hnew] at hperm
  refine .of ?_ ?_ ?_
  · rw [(hperm.map _).nodup_iff,List.map_cons,List.nodup_cons]
    refine ⟨?_,h.others_ids _⟩
    intro hmem
    obtain ⟨t,ht,hid⟩ := List.mem_map.mp hmem
    simp only [Ropeway.others,List.mem_filter,bne_iff_ne] at ht
    exact ht.2 hid
  · intro t
    rw [hperm.mem_iff,List.mem_cons,h.others_snoc hat]
    constructor
    · rintro (ht | ⟨d,hd,-,ht⟩)
      · exact ⟨c,hin,ht⟩
      · exact ⟨d,hd,ht⟩
    · rintro ⟨d,hd,ht⟩
      by_cases hdc : d = c
      · exact .inl (hdc ▸ ht)
      · exact .inr ⟨d,hd,hdc,ht⟩
  · rw [hposts,fully_snoc (seen_lt hat),if_neg (by omega),Nat.add_zero,h.posts]

/-- One arrival: its chair is counted, and posted if this was its last passenger. -/
theorem Exact.arrive (h : A.Exact p) (hat : A.arrivals = p ++ (c,m) :: rest)
    (hroom : seen p c = 0 → (A.partly p).card < maxActiveChairs) :
    A.Exact (p ++ [(c,m)]) ∧ (counted (p ++ [(c,m)])).posts =
      (counted p).posts + if seen (p ++ [(c,m)]) c = A.size c then 1 else 0 := by
  have hlt := seen_lt hat
  have hnum := (carried hat).1
  have hseen : seen (p ++ [(c,m)]) c = seen p c + 1 := by simp [seen_snoc]
  have hcount := track_counts h.ids (c := A.tracker p c) hnum.symm (h.found hat hroom)
  rw [← counted_snoc p c m,hnum] at hcount
  rcases hcount with ⟨hfull,hposts,hperm⟩ | ⟨hmore,hposts,hperm⟩
  · have hlast : seen p c + 1 = A.size c := by
      simp only [tracker] at hfull
      omega
    exact ⟨h.last hat hlast hposts hperm,by rw [hposts,hseen,if_pos hlast]⟩
  · have hopen : seen p c + 1 < A.size c := hmore
    exact ⟨h.more hat hopen hposts hperm,by rw [hposts,hseen,if_neg (by omega),Nat.add_zero]⟩

/-- After every prefix the trackers and the posts are as they should be, and the post for a
chair is made at its last arrival. -/
def Tracked (A : Interleaving ι) : Prop :=
  (∀ p rest, A.arrivals = p ++ rest → A.Exact p) ∧
    ∀ p c m rest, A.arrivals = p ++ (c,m) :: rest →
      (counted (p ++ [(c,m)])).posts =
        (counted p).posts + if seen (p ++ [(c,m)]) c = A.size c then 1 else 0

/-- The trackers count every chair exactly, if there is room in the array whenever the first
passenger of a chair comes in. -/
theorem trackers_exact (A : Interleaving ι)
    (hroom : ∀ p c m rest, A.arrivals = p ++ (c,m) :: rest → seen p c = 0 →
      (A.partly p).card < maxActiveChairs) : A.Tracked := by
  have hexact : ∀ p rest, A.arrivals = p ++ rest → A.Exact p := by
    intro p
    induction p using List.reverseRecOn with
    | nil =>
      intro rest _
      refine .of ?_ ?_ ?_
      · simp [counted,trackAll]
      · simp [counted,trackAll,partly]
      · simp [counted,trackAll,fully]
    | append_singleton p a ih =>
      intro rest h
      obtain ⟨c,m⟩ := a
      rw [List.append_assoc] at h
      exact ((ih _ h).arrive h (hroom p c m rest h)).1
  refine ⟨hexact,?_⟩
  intro p c m rest h
  exact ((hexact p _ h).arrive h (hroom p c m rest h)).2

def arrivalOf (size : Nat → Nat) (c : Nat) : Nat × ArrivalMsg := (c,⟨1,c + 1,.walker,0,c,size c⟩)

def numbered (size : Nat → Nat) (cs : List Nat) (h : ∀ c ∈ cs, cs.count c = size c) : Interleaving Nat where
  number := id
  size := size
  arrivals := cs.map (arrivalOf size)
  carries := by
    intro p hp
    obtain ⟨c,-,rfl⟩ := List.mem_map.mp hp
    exact ⟨rfl,rfl⟩
  complete := by
    intro p hp
    obtain ⟨c,hc,rfl⟩ := List.mem_map.mp hp
    have hmap : (cs.map (arrivalOf size)).map Prod.fst = cs := by
      rw [List.map_map]
      exact List.map_id cs
    rw [hmap]
    exact h c hc
  apart := fun _ _ hne hnum => absurd hnum hne

/-- Two chairs, the second with one passenger between the two of the first. -/
theorem trackers_exact_two :
    (numbered (fun c => if c = 1 then 2 else 1) [1,2,1] (by decide)).Tracked := by
  apply trackers_exact
  intro p c m rest h _
  have hlen : p.length ≤ 3 := by
    have hlen := congrArg List.length h
    simp only [numbered,List.length_map,List.length_cons,List.length_nil,List.length_append] at hlen
    omega
  calc (partly _ p).card ≤ (p.map Prod.fst).toFinset.card := Finset.card_filter_le _ _
    _ ≤ (p.map Prod.fst).length := List.toFinset_card_le _
    _ < maxActiveChairs := by
      rw [List.length_map]
      unfold maxActiveChairs
      omega

/-- With 64 chairs waiting for their second passengers, the one passenger of a further chair
gets no tracker, and the slot of that chair is not released. -/
theorem single_passenger_untracked :
    ¬ ∀ A : Interleaving Nat,
      (∀ p rest, A.arrivals = p ++ rest → (A.partly p).card ≤ maxActiveChairs) → A.Tracked := by
  intro hexact
  let size : Nat → Nat := fun c => if c < 64 then 2 else 1
  let cs : List Nat := List.range 64 ++ 64 :: List.range 64
  have hsize : ∀ c ∈ cs, cs.count c = size c := by
    decide +kernel
  have htracked : (numbered size cs hsize).Tracked := by
    apply hexact
    intro p rest _
    have hsub : partly (numbered size cs hsize) p ⊆ Finset.range 64 := by
      intro c hc
      obtain ⟨hpos,hlt⟩ := mem_partly.1 hc
      rw [Finset.mem_range]
      by_contra hge
      have hone : (numbered size cs hsize).size c = 1 := if_neg hge
      omega
    exact (Finset.card_le_card hsub).trans (by simp [maxActiveChairs])
  have hsplit : cs.map (arrivalOf size) =
      (List.range 65).map (arrivalOf size) ++ (List.range 64).map (arrivalOf size) := by
    decide +kernel
  have hposts := (htracked.1 _ _ hsplit).posts
  have hnone : (counted ((List.range 65).map (arrivalOf size))).posts = 0 := by
    decide +kernel
  rw [hnone] at hposts
  have hseen : seen ((List.range 65).map (arrivalOf size)) 64 = 1 := by
    decide +kernel
  have hfully : 64 ∈ fully (numbered size cs hsize) ((List.range 65).map (arrivalOf size)) := by
    rw [mem_fully,hseen]
    exact ⟨Nat.one_pos,rfl⟩
  rw [Finset.card_eq_zero.mp hposts.symm] at hfully
  simp at hfully

end Interleaving

end Ropeway
