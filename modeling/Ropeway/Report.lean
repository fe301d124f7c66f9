import Ropeway.Sales

/-! The figures of the final report. Each critical section under `SEM_STATS` is one
step, so the figures agree in every state in which the semaphore is free. -/

namespace Ropeway
open Function (update)
variable {n : Nat} {s s' : Sys n} {u : Setup n} {tr : List (Sys n × Act n)} {a : Act n}

/-- Whether a tourist has recorded its entry, and the rides it has added. -/
structure Tally where
  recorded : Bool
  rides : Nat

def noteTally (g : Fin n → Tally) (s : Sys n) : Act n → Fin n → Tally
  | .tourist i _ =>
    match (s.tourists i).pc with
    | .recordEntry => update g i { g i with recorded := true }
    | .updateStats => update g i { g i with rides := (g i).rides + 1 }
    | _ => g
  | _ => g

def tallies (tr : List (Sys n × Act n)) : Fin n → Tally :=
  Lib.history noteTally (fun _ => ⟨false, 0⟩) tr

/-- The rides an entry of the report stands for: every ride of the parent is one of each
kid as well. -/
def TouristEntry.groupRides (e : TouristEntry) : Nat :=
  if e.active then e.totalRides * (1 + e.kidCount) else 0

def entryRides (es : List TouristEntry) : Nat := (es.map TouristEntry.groupRides).sum

/-- The figures of the report agree with each other and with the tourists. -/
structure ReportAgrees (tr : List (Sys n × Act n)) (s : Sys n) : Prop where
  tourists : s.shm.totalTourists = ∑ k, s.shm.touristsByTicket k
  rides : s.shm.totalRides = ∑ k, s.shm.ridesByTicket k
  entries : s.shm.totalRides = entryRides s.shm.touristEntries
  single : s.shm.ridesByTicket .single ≤ s.shm.touristsByTicket .single
  recorded : ∀ i : Fin n, (tallies tr i).recorded = true →
    ∃ e, s.shm.touristEntries[touristId i - 1]? = some e ∧ e.active = true ∧
      e.touristId = touristId i ∧ touristId i - 1 < s.shm.touristEntryCount
  active : ∀ k e, s.shm.touristEntries[k]? = some e → e.active = true →
    ∃ i : Fin n, k = touristId i - 1 ∧ (tallies tr i).recorded = true
  count : s.shm.touristEntryCount ≤ s.shm.maxTrackedTourists

theorem entry_rides_set {es : List TouristEntry} {k : Nat} {e f : TouristEntry}
    (h : es[k]? = some e) : entryRides (es.set k f) + e.groupRides = entryRides es + f.groupRides := by
  induction es generalizing k with
  | nil => simp at h
  | cons x es ih =>
    cases k with
    | zero =>
      simp only [List.getElem?_cons_zero,Option.some.injEq] at h
      subst h
      simp only [entryRides,List.set_cons_zero,List.map_cons,List.sum_cons]
      omega
    | succ k =>
      have hi := ih (by simpa using h)
      simp only [entryRides,List.set_cons_succ,List.map_cons,List.sum_cons] at hi ⊢
      omega

structure SameRides (m m' : SharedState) : Prop where
  total : m'.totalRides = m.totalRides
  byTicket : m'.ridesByTicket = m.ridesByTicket
  max : m'.maxTrackedTourists = m.maxTrackedTourists
  count : m'.touristEntryCount = m.touristEntryCount
  entries : m'.touristEntries = m.touristEntries

theorem SameRides.of_figures {m m' : SharedState} (h : m'.figures = m.figures) : SameRides m m' :=
  ⟨congrArg (·.totalRides) h,congrArg (·.ridesByTicket) h,congrArg (·.maxTrackedTourists) h,
    congrArg (·.touristEntryCount) h,congrArg (·.touristEntries) h⟩

def unrecorded : TouristPc → Bool
  | .buySend | .buyReceive | .recordWait | .recordEntry => true
  | _ => false

/-- The places at which a ride has been added and not been followed by another round. -/
def rideAdded : TouristPc → Bool
  | .updatePost | .rideDone | .gone => true
  | _ => false

/-- What the place of a tourist says about its tally: a single ticket is good for one
round of the loop. -/
structure Lap (k : TicketType) (pc : TouristPc) (t : Tally) : Prop where
  before : unrecorded pc = true → t = ⟨false, 0⟩
  after : unrecorded pc = false → pc ≠ .gone → t.recorded = true
  rides : 0 < t.rides → t.recorded = true
  single : k = .single → t.rides ≤ (rideAdded pc).toNat

structure EntryOf (u : Setup n) (i : Fin n) (t : Tally) (e : TouristEntry) : Prop where
  active : e.active = t.recorded
  id : t.recorded = true → e.touristId = touristId i ∧ e.kidCount = (u.args i).kidCount

structure Tallied (u : Setup n) (p : Nat → Purchase) (g : Fin n → Tally) (s : Sys n) : Prop where
  lap : ∀ i, Lap (u.args i).ticketType (s.tourists i).pc (g i)
  got : ∀ i, buying (s.tourists i).pc = false → (s.tourists i).pc ≠ .gone →
    (p (touristId i)).got.isSome = true
  sold : ∀ i, (g i).recorded = true → (p (touristId i)).got.isSome = true
  entry : ∀ i : Fin n, ∃ e, s.shm.touristEntries[i.val]? = some e ∧ EntryOf u i (g i) e
  rest : ∀ k e, n ≤ k → s.shm.touristEntries[k]? = some e → e.active = false
  room : n ≤ s.shm.maxTrackedTourists
  length : s.shm.touristEntries.length = s.shm.maxTrackedTourists
  count : s.shm.touristEntryCount ≤ s.shm.maxTrackedTourists
  counted : ∀ i, (g i).recorded = true → touristId i ≤ s.shm.touristEntryCount
  entries : s.shm.totalRides = entryRides s.shm.touristEntries
  total : s.shm.totalRides = ∑ i, (g i).rides * u.party i
  byTicket : ∀ k, s.shm.ridesByTicket k =
    ∑ i, if (u.args i).ticketType = k then (g i).rides * u.party i else 0

variable {p : Nat → Purchase} {g : Fin n → Tally} {i : Fin n}

/-- A move that neither records an entry nor adds a ride nor begins another round. -/
def quiet (pc pc' : TouristPc) : Bool :=
  pc' == .gone || unrecorded pc' == unrecorded pc && (!rideAdded pc || rideAdded pc')

theorem Lap.quiet {k : TicketType} {pc pc' : TouristPc} {t : Tally} (h : Lap k pc t)
    (hq : quiet pc pc' = true) (hpc : pc ≠ .gone) : Lap k pc' t := by
  simp only [Ropeway.quiet,Bool.or_eq_true,Bool.and_eq_true,beq_iff_eq,Bool.not_eq_true'] at hq
  refine ⟨?_,?_,h.rides,?_⟩
  · intro hu
    rcases hq with rfl | ⟨hr,-⟩
    · cases hu
    · exact h.before (hr ▸ hu)
  · intro hu hg
    rcases hq with rfl | ⟨hr,-⟩
    · exact absurd rfl hg
    · exact h.after (hr ▸ hu) hpc
  · intro hk
    have hle := h.single hk
    rcases hq with rfl | ⟨-,hr | hr⟩
    · exact hle.trans (Bool.toNat_le _)
    · rw [hr] at hle
      exact hle.trans (Nat.zero_le _)
    · rw [hr]
      exact hle.trans (Bool.toNat_le _)

/-- Every step of a tourist but three is quiet. -/
theorem tourist_quiet {x : Nat} (h : touristMain s i x = some s')
    (h1 : (s.tourists i).pc ≠ .recordEntry) (h2 : (s.tourists i).pc ≠ .updateStats)
    (h3 : (s.tourists i).pc = .rideDone → (s.tourists i).data.ticketType = .single) :
    quiet (s.tourists i).pc (s'.tourists i).pc = true := by
  cases hp : (s.tourists i).pc <;> simp only [touristMain,hp] at h
  case recordEntry => exact absurd hp h1
  case updateStats => exact absurd hp h2
  case gone => cases h
  case rideDone =>
    cases h
    simp [h3 hp,quiet]
  case buySend =>
    obtain ⟨t,hw,rfl⟩ := Option.map_eq_some_iff.mp h
    simp only [Sys.walk_tourists,Function.update_self]
    rfl
  case buyReceive =>
    obtain ⟨⟨m,q⟩,-,rfl⟩ := Option.map_eq_some_iff.mp h
    dsimp only
    split
    all_goals
      simp only [Sys.walk_tourists,Sys.setTourist_tourists,Function.update_self]
      rfl
  case boardReceive =>
    obtain ⟨⟨m,q⟩,-,rfl⟩ := Option.map_eq_some_iff.mp h
    simp only [Sys.setTourist_tourists,Function.update_self]
    rfl
  case recordWait | closingWait | gateWait | stationWait | countWait | leaveWait | platformWait |
      departWait | boardWait | clearWait | clearSleep | exitWait | updateWait =>
    obtain ⟨t,hw,rfl⟩ := Option.map_eq_some_iff.mp h
    simp only [Sys.walk_tourists,Function.update_self]
    rfl
  case loopTop | descend =>
    repeat' split at h
    all_goals
      cases h
      simp only [Sys.walk_tourists,Sys.setTourist_tourists,Function.update_self]
      rfl
  all_goals
    cases h
    simp only [Sys.walk_tourists,Sys.setTourist_tourists,Function.update_self]
    repeat' split
    all_goals rfl

theorem failure_quiet {d : TouristData} {pc pc' : TouristPc} (h : touristFailure d pc = some pc')
    (hs : touristInSemop pc = false) :
    quiet pc pc' = true ∧ pc ≠ .gone ∧ (buying pc = true → pc' = .gone) := by
  cases pc <;> simp only [touristFailure,reduceCtorEq,Option.some.injEq] at h
  case buySend | buyReceive | boardSend | boardReceive | arriveSend | loopTop | ride | descend =>
    subst h
    exact ⟨rfl,by simp,by simp [buying]⟩
  all_goals cases hs

theorem cont_quiet {pc pc' : TouristPc} (h : touristInterrupted pc = some pc') :
    quiet pc pc' = true ∧ pc ≠ .gone ∧ (buying pc = true → pc' = .gone) := by
  cases pc <;> cases h <;> exact ⟨rfl,by simp,by simp [buying]⟩

/-- A ticket stays bought. -/
theorem got_kept {k : Nat} (h : (p k).got.isSome = true) (s : Sys n) (a : Act n) :
    (notePurchase p s a k).got.isSome = true := by
  have hup : ∀ j q, ((p j).got.isSome = true → q.got.isSome = true) →
      (update p j q k).got.isSome = true := by
    intro j q hq
    by_cases hj : k = j
    · subst hj
      rw [Function.update_self]
      exact hq h
    · rw [Function.update_of_ne hj]
      exact h
  unfold notePurchase
  repeat' split
  all_goals first | exact h | exact hup _ _ fun hk => hk | exact hup _ _ fun _ => rfl

/-- The figures stay as they are and the tallies fit the places the tourists go to. -/
theorem Tallied.keep (h : Tallied u p g s) (hf : SameRides s.shm s'.shm) (s₀ : Sys n) (a : Act n)
    (ht : ∀ j, (s'.tourists j).pc = (s.tourists j).pc ∨
      (∀ t, Lap (u.args j).ticketType (s.tourists j).pc t →
        Lap (u.args j).ticketType (s'.tourists j).pc t) ∧
        (buying (s'.tourists j).pc = false → (s'.tourists j).pc ≠ .gone →
          (notePurchase p s₀ a (touristId j)).got.isSome = true)) :
    Tallied u (notePurchase p s₀ a) g s' := by
  refine ⟨?_,?_,?_,by rw [hf.entries]; exact h.entry,by rw [hf.entries]; exact h.rest,
    by rw [hf.max]; exact h.room,by rw [hf.entries,hf.max]; exact h.length,by rw [hf.count,hf.max]; exact h.count,
    by rw [hf.count]; exact h.counted,by rw [hf.total,hf.entries]; exact h.entries,
    by rw [hf.total]; exact h.total,by rw [hf.byTicket]; exact h.byTicket⟩
  · intro j
    rcases ht j with he | ⟨hlap,-⟩
    · rw [he]
      exact h.lap j
    · exact hlap _ (h.lap j)
  · intro j hb hg
    rcases ht j with he | ⟨-,hgot⟩
    · rw [he] at hb hg
      exact got_kept (h.got j hb hg) s₀ a
    · exact hgot hb hg
  · intro j hr
    exact got_kept (h.sold j hr) s₀ a

/-- Tourist `i` writes its own entry, adding `k` rides of its group. -/
theorem Tallied.write (h : Tallied u p g s) {t : Tally} {e f : TouristEntry} {k : Nat}
    (he : s.shm.touristEntries[i.val]? = some e) (hf : EntryOf u i t f)
    (hrides : t.rides = (g i).rides + k) (hgroup : f.groupRides = e.groupRides + k * u.party i)
    (hothers : ∀ j, j ≠ i → s'.tourists j = s.tourists j)
    (hlap : Lap (u.args i).ticketType (s'.tourists i).pc t)
    (hgot : (p (touristId i)).got.isSome = true)
    (hentries : s'.shm.touristEntries = s.shm.touristEntries.set i.val f)
    (hmax : s'.shm.maxTrackedTourists = s.shm.maxTrackedTourists)
    (hcount : s'.shm.touristEntryCount = max s.shm.touristEntryCount (touristId i))
    (htotal : s'.shm.totalRides = s.shm.totalRides + k * u.party i)
    (hby : ∀ q, s'.shm.ridesByTicket q =
      s.shm.ridesByTicket q + if (u.args i).ticketType = q then k * u.party i else 0) :
    Tallied u p (update g i t) s' := by
  have hroom : i.val < s.shm.maxTrackedTourists := i.isLt.trans_le h.room
  have hsum : ∀ w : Fin n → Nat → Nat, w i t.rides = w i (g i).rides + w i k →
      ∑ j, w j (update g i t j).rides = ∑ j, w j (g j).rides + w i k := by
    intro w hw
    have hup := Lib.sum_update_at (fun j (t : Tally) => w j t.rides) g i t
    rw [hw] at hup
    omega
  refine ⟨?_,?_,?_,?_,?_,by rw [hmax]; exact h.room,?_,?_,?_,?_,?_,?_⟩
  · intro j
    by_cases hj : j = i
    · subst hj
      rw [Function.update_self]
      exact hlap
    · rw [Function.update_of_ne hj,hothers j hj]
      exact h.lap j
  · intro j hb hg
    by_cases hj : j = i
    · subst hj
      exact hgot
    · rw [hothers j hj] at hb hg
      exact h.got j hb hg
  · intro j hr
    by_cases hj : j = i
    · subst hj
      exact hgot
    · rw [Function.update_of_ne hj] at hr
      exact h.sold j hr
  · intro j
    by_cases hj : j = i
    · subst hj
      refine ⟨f,?_,by rw [Function.update_self]; exact hf⟩
      rw [hentries,List.getElem?_set_self (h.length ▸ hroom)]
    · have hval : i.val ≠ j.val := fun hv => hj (Fin.ext hv.symm)
      rw [hentries,List.getElem?_set_ne hval,Function.update_of_ne hj]
      exact h.entry j
  · intro q e' hq hq'
    have hval : i.val ≠ q := by have := i.isLt; omega
    rw [hentries,List.getElem?_set_ne hval] at hq'
    exact h.rest q e' hq hq'
  · rw [hentries,List.length_set,hmax]
    exact h.length
  · rw [hcount,hmax]
    exact max_le h.count hroom
  · intro j hr
    rw [hcount]
    by_cases hj : j = i
    · subst hj
      exact le_max_right _ _
    · rw [Function.update_of_ne hj] at hr
      exact (h.counted j hr).trans (le_max_left _ _)
  · have hset := entry_rides_set (f := f) he
    rw [htotal,hentries,h.entries]
    omega
  · rw [htotal,hsum (fun j c => c * u.party j) (by rw [hrides,Nat.add_mul]),h.total]
  · intro q
    rw [hby,hsum (fun j c => if (u.args j).ticketType = q then c * u.party j else 0) ?_,h.byTicket]
    rw [hrides]
    split
    · exact Nat.add_mul _ _ _
    · rfl

theorem Tallied.record (h : Tallied u p g s) (hid : (s.tourists i).data.id = touristId i)
    (hkids : (s.tourists i).data.kidCount = (u.args i).kidCount)
    (hp : (s.tourists i).pc = .recordEntry) (x : Nat) :
    Tallied u p (noteTally g s (.tourist i x))
      ({ s with shm := s.shm.recordEntry (s.tourists i).data }.walk i .recordPost) := by
  obtain ⟨e,he,heo⟩ := h.entry i
  have hblank := (h.lap i).before (by rw [hp]; rfl)
  have hg : noteTally g s (.tourist i x) = update g i ⟨true, 0⟩ := by
    simp only [noteTally,hp,hblank]
  have hroom : i.val < s.shm.maxTrackedTourists := i.isLt.trans_le h.room
  have hnew : s.shm.recordEntry (s.tourists i).data = { s.shm with
      touristEntries := s.shm.touristEntries.set i.val
        ⟨true, touristId i, some (s.tourists i).data.ticketType, s.shm.simMinutes, 0,
          (s.tourists i).data.isVip, (s.tourists i).data.type, (u.args i).kidCount⟩
      touristEntryCount := max s.shm.touristEntryCount (touristId i) } := by
    have hin : 0 < touristId i ∧ touristId i - 1 < s.shm.maxTrackedTourists :=
      ⟨Nat.succ_pos _,hroom⟩
    unfold SharedState.recordEntry
    rw [hid,if_pos hin,hkids]
    rfl
  have hold : e.groupRides = 0 := by simp [TouristEntry.groupRides,heo.active,hblank]
  rw [hg,hnew]
  refine h.write (k := 0) he ⟨rfl,fun _ => ⟨rfl,rfl⟩⟩ (by rw [hblank]) ?_ ?_ ?_
    (h.got i (by rw [hp]; rfl) (by simp [hp])) rfl rfl rfl (by simp) (by simp)
  · simp [TouristEntry.groupRides,heo.active,hblank]
  · intro j hj
    simp [hj]
  · simp only [Sys.walk_tourists,Function.update_self]
    exact ⟨by simp [unrecorded],fun _ _ => rfl,fun _ => rfl,fun _ => Nat.zero_le _⟩

theorem Tallied.add (h : Tallied u p g s) (hid : (s.tourists i).data.id = touristId i)
    (hkids : (s.tourists i).data.kidCount = (u.args i).kidCount)
    (htype : (s.tourists i).data.ticketType = (u.args i).ticketType)
    (hp : (s.tourists i).pc = .updateStats) (x : Nat) :
    Tallied u p (noteTally g s (.tourist i x))
      ({ s with shm := s.shm.updateStats (s.tourists i).data }.walk i .updatePost) := by
  obtain ⟨e,he,heo⟩ := h.entry i
  have hrec := (h.lap i).after (by rw [hp]; rfl) (by simp [hp])
  have hg : noteTally g s (.tourist i x) = update g i { g i with rides := (g i).rides + 1 } := by
    simp only [noteTally,hp]
  have hroom : i.val < s.shm.maxTrackedTourists := i.isLt.trans_le h.room
  have hnew : s.shm.updateStats (s.tourists i).data = { s.shm with
      totalRides := s.shm.totalRides + u.party i
      ridesByTicket := update s.shm.ridesByTicket (u.args i).ticketType
        (s.shm.ridesByTicket (u.args i).ticketType + u.party i)
      touristEntries := s.shm.touristEntries.set i.val { e with totalRides := e.totalRides + 1 } } := by
    have hin : 0 < touristId i ∧ touristId i - 1 < s.shm.maxTrackedTourists :=
      ⟨Nat.succ_pos _,hroom⟩
    have hidx : touristId i - 1 = i.val := rfl
    unfold SharedState.updateStats
    rw [hid,if_pos hin,hkids,htype,hidx,List.modify_eq_set_getElem?,he]
    rfl
  rw [hg,hnew]
  refine h.write (k := 1) (f := { e with totalRides := e.totalRides + 1 }) he
    ⟨heo.active,heo.id⟩ rfl ?_ ?_ ?_ (h.sold i hrec) rfl rfl ?_ ?_ ?_
  · have hact := heo.active.trans hrec
    simp only [TouristEntry.groupRides,hact,if_true,(heo.id hrec).2,Setup.party]
    exact Nat.add_mul _ _ _
  · intro j hj
    simp [hj]
  · simp only [Sys.walk_tourists,Function.update_self]
    refine ⟨by simp [unrecorded],fun _ _ => hrec,fun _ => hrec,?_⟩
    intro hk
    have hle := (h.lap i).single hk
    rw [hp] at hle
    exact Nat.succ_le_succ hle
  · exact (max_eq_left (h.counted i hrec)).symm
  · simp
  · intro q
    by_cases hq : (u.args i).ticketType = q
    · subst hq
      simp
    · have hne : q ≠ (u.args i).ticketType := fun he => hq he.symm
      simp [hq,hne]

/-- Nobody but the tourists moves a tally. -/
theorem tally_others (ha : ∀ i x, a ≠ .tourist i x) : noteTally g s a = g := by
  cases a <;> first | rfl | exact absurd rfl (ha _ _)

/-- One tourist goes on, and it has its ticket unless it is still buying. -/
theorem Tallied.move (h : Tallied u p g s) (hf : SameRides s.shm s'.shm) (a : Act n)
    (hothers : ∀ j, j ≠ i → s'.tourists j = s.tourists j) (hpc : (s.tourists i).pc ≠ .gone)
    (hlap : ∀ t, Lap (u.args i).ticketType (s.tourists i).pc t →
      Lap (u.args i).ticketType (s'.tourists i).pc t)
    (hb : buying (s.tourists i).pc = true → buying (s'.tourists i).pc = false →
      (s'.tourists i).pc ≠ .gone → (notePurchase p s a (touristId i)).got.isSome = true) :
    Tallied u (notePurchase p s a) g s' := by
  apply h.keep hf s a
  intro j
  by_cases hj : j = i
  · subst hj
    refine .inr ⟨hlap,?_⟩
    intro hb' hg
    cases hbuy : buying (s.tourists j).pc with
    | true => exact hb hbuy hb' hg
    | false => exact got_kept (h.got j hbuy hpc) s a
  · rw [hothers j hj]
    exact .inl rfl

/-- A tourist leaves `tourist_buy_ticket` for its first round with a ticket. -/
theorem bought_got {x : Nat} (hid : (s.tourists i).data.id = touristId i)
    (hs : touristMain s i x = some s') (hb : buying (s.tourists i).pc = true)
    (hb' : buying (s'.tourists i).pc = false) (hg : (s'.tourists i).pc ≠ .gone) :
    (notePurchase p s (.tourist i x) (touristId i)).got.isSome = true := by
  cases hp : (s.tourists i).pc
  case buySend =>
    simp only [touristMain,hp] at hs
    obtain ⟨t,hw,rfl⟩ := Option.map_eq_some_iff.mp hs
    simp [buying] at hb'
  case buyReceive =>
    simp only [touristMain,hp] at hs
    obtain ⟨⟨m,q⟩,hm,rfl⟩ := Option.map_eq_some_iff.mp hs
    cases hk : m.ticketType with
    | none => simp [hk] at hg
    | some k => simp [notePurchase,hp,hm,hk,hid]
  all_goals
    rw [hp] at hb
    cases hb

/-- The loop goes round again with any ticket but a single one. -/
theorem Lap.again {k : TicketType} {t : Tally} (h : Lap k .rideDone t) (hk : k ≠ .single) :
    Lap k .loopTop t := by
  refine ⟨?_,fun _ _ => h.after rfl (by simp),h.rides,fun hs => absurd hs hk⟩
  intro hu
  cases hu

theorem Tallied.tourist {x : Nat} (h : Tallied u p g s) (hsell : Selling u p s)
    (hs : touristMain s i x = some s') :
    Tallied u (notePurchase p s (.tourist i x)) (noteTally g s (.tourist i x)) s' := by
  have hid := hsell.id i
  have hkids : (s.tourists i).data.kidCount = (u.args i).kidCount :=
    congrArg TouristData.kidCount (hsell.badge i)
  have htype : (s.tourists i).data.ticketType = (u.args i).ticketType :=
    congrArg TouristData.ticketType (hsell.badge i)
  by_cases h1 : (s.tourists i).pc = .recordEntry
  · have hp : notePurchase p s (.tourist i x) = p := by simp only [notePurchase,h1]
    simp only [touristMain,h1] at hs
    cases hs
    rw [hp]
    exact h.record hid hkids h1 x
  by_cases h2 : (s.tourists i).pc = .updateStats
  · have hp : notePurchase p s (.tourist i x) = p := by simp only [notePurchase,h2]
    simp only [touristMain,h2] at hs
    cases hs
    rw [hp]
    exact h.add hid hkids htype h2 x
  have hg : noteTally g s (.tourist i x) = g := by
    unfold noteTally
    dsimp only
    split
    · exact absurd ‹_› h1
    · exact absurd ‹_› h2
    · rfl
  have hpc : (s.tourists i).pc ≠ .gone := by
    intro hgone
    simp only [touristMain,hgone] at hs
    cases hs
  rw [hg]
  refine h.move (.of_figures (tourist_figures hs h1 h2)) _ (tourist_only hs).others hpc ?_
    (bought_got hid hs)
  intro t hlap
  by_cases h3 : (s.tourists i).pc = .rideDone ∧ (s.tourists i).data.ticketType ≠ .single
  · rw [h3.1] at hlap
    simp only [touristMain,h3.1,if_neg h3.2] at hs
    cases hs
    simp only [Sys.walk_tourists,Function.update_self]
    exact hlap.again (htype ▸ h3.2)
  · refine hlap.quiet (tourist_quiet hs h1 h2 ?_) hpc
    intro hp
    exact not_not.mp fun hk => h3 ⟨hp,hk⟩

/-- A tourist whose call fails goes on quietly. -/
theorem Tallied.walk (h : Tallied u p g s) {pc : TouristPc} (a : Act n)
    (hq : quiet (s.tourists i).pc pc = true) (hpc : (s.tourists i).pc ≠ .gone)
    (hb : buying (s.tourists i).pc = true → pc = .gone) :
    Tallied u (notePurchase p s a) g (s.walk i pc) := by
  have hf : SameRides s.shm (s.walk i pc).shm := ⟨rfl,rfl,rfl,rfl,rfl⟩
  refine h.move (i := i) hf a ?_ hpc ?_ ?_
  · intro j hj
    simp [hj]
  · intro t ht
    simp only [Sys.walk_tourists,Function.update_self]
    exact ht.quiet hq hpc
  · intro hbuy _ hg
    simp only [Sys.walk_tourists,Function.update_self] at hg
    exact absurd (hb hbuy) hg

theorem Tallied.sell (h : Tallied u p g s) (hs : cashierMain s = some s') :
    Tallied u (notePurchase p s .cashier) g s' := by
  refine h.keep ?_ s .cashier fun j => .inl ?_
  · by_cases hp : s.cashier.pc = .stats
    · simp only [cashierMain,hp] at hs
      cases hs
      exact ⟨rfl,rfl,rfl,rfl,rfl⟩
    · rw [cashier_figures hs hp]
      exact ⟨rfl,rfl,rfl,rfl,rfl⟩
  · rw [(cashier_only hs).tourists]

theorem Tallied.step (hown : ∀ r, ownPc r (s.worker r).pc = true) (h : Tallied u p g s)
    (hsell : Selling u p s) (hrule : setExists tr s a = true) (hs : step s a = some s') :
    Tallied u (notePurchase p s a) (noteTally g s a) s' := by
  cases hv : a.visitor with
  | false =>
    have hsame := visitors_same hown hv hs
    have hf : SameRides s.shm s'.shm := by
      by_cases ht : ∃ ms, a = .tick ms
      · obtain ⟨ms,rfl⟩ := ht
        simp only [Ropeway.step] at hs
        split at hs
        · cases hs
          exact ⟨rfl,rfl,rfl,rfl,rfl⟩
        · cases hs
      · exact .of_figures (others_figures hown hv (fun ms he => ht ⟨ms,he⟩) hs)
    rw [tally_others (fun i x he => by rw [he] at hv; cases hv)]
    refine h.keep hf s a fun j => .inl ?_
    rw [hsame.tourists]
  | true =>
    cases a with
    | cashier => exact h.sell hs
    | cashierFail pc =>
      obtain ⟨-,rfl⟩ := cashier_fail hs
      have hf : SameRides s.shm (s.serve pc).shm := ⟨rfl,rfl,rfl,rfl,rfl⟩
      exact h.keep hf s (.cashierFail pc) fun j => .inl rfl
    | tourist i x => exact h.tourist hsell hs
    | touristCont i =>
      simp only [Ropeway.step] at hs
      split at hs
      · obtain ⟨pc,hpc,rfl⟩ := Option.map_eq_some_iff.mp hs
        obtain ⟨hq,hg,hb⟩ := cont_quiet hpc
        exact h.walk _ hq hg hb
      · cases hs
    | touristFail i =>
      obtain ⟨pc,hpc,rfl⟩ := Option.map_eq_some_iff.mp hs
      obtain ⟨hq,hg,hb⟩ := failure_quiet hpc (by simpa [setExists] using hrule)
      exact h.walk _ hq hg hb
    | _ => cases hv

theorem start_tallied (u : Setup n) (hn : (n : Int) ≤ u.cfg.totalTourists) :
    Tallied u (fun _ => .blank) (fun _ => ⟨false, 0⟩) u.start := by
  have hroom : n ≤ u.cfg.totalTourists.toNat := by omega
  refine ⟨?_,?_,?_,?_,?_,hroom,by simp [Setup.start,SharedState.init],Nat.zero_le _,?_,?_,?_,?_⟩
  · intro i
    refine ⟨fun _ => rfl,?_,?_,fun _ => Nat.zero_le _⟩
    · intro hu
      cases hu
    · intro hr
      cases hr
  · intro i hb
    cases hb
  · intro i hr
    cases hr
  · intro i
    refine ⟨.blank,?_,rfl,?_⟩
    · simp only [Setup.start,SharedState.init]
      rw [List.getElem?_replicate,if_pos (i.isLt.trans_le hroom)]
    · intro hr
      cases hr
  · intro k e _ he
    simp only [Setup.start,SharedState.init,List.getElem?_replicate] at he
    split at he
    · cases he
      rfl
    · cases he
  · intro i hr
    cases hr
  · simp [Setup.start,SharedState.init,entryRides,TouristEntry.groupRides,TouristEntry.blank]
  · simp [Setup.start,SharedState.init]
  · simp [Setup.start,SharedState.init]

theorem run_tallied {rules : List (Env n)} (hrule : setExists ∈ rules)
    (hn : (n : Int) ≤ u.cfg.totalTourists) (h : Runs rules u tr s) :
    Tallied u (purchases tr) (tallies tr) s := by
  have hall : Selling u (purchases tr) s ∧ Tallied u (purchases tr) (tallies tr) s := by
    refine run_invariant (fun tr s => Selling u (purchases tr) s ∧
      Tallied u (purchases tr) (tallies tr) s) ⟨start_selling u,start_tallied u hn⟩ ?_ h
    intro tr s a s' hown hi hal hs
    obtain ⟨hsell,htally⟩ := hi
    have hp : purchases (tr ++ [(s,a)]) = notePurchase (purchases tr) s a := by simp [purchases]
    have ht : tallies (tr ++ [(s,a)]) = noteTally (tallies tr) s a := by simp [tallies]
    rw [hp,ht]
    exact ⟨hsell.step hown hs,htally.step hown hsell (allow_mem hrule hal) hs⟩
  exact hall.2

/-- A sum over the tourists, split by ticket. -/
theorem sum_by_ticket (f : Fin n → Nat) (k : Fin n → TicketType) :
    ∑ i, f i = ∑ t, ∑ i, if k i = t then f i else 0 := by
  rw [Finset.sum_comm]
  apply Finset.sum_congr rfl
  intro i _
  rw [Finset.sum_ite_eq]
  simp

theorem Tallied.single (h : Tallied u p g s) (hsell : Selling u p s) (i : Fin n)
    (hk : (u.args i).ticketType = .single) : (g i).rides ≤ (p (touristId i)).counted := by
  rcases Nat.eq_zero_or_pos (g i).rides with hzero | hpos
  · rw [hzero]
    exact Nat.zero_le _
  · obtain ⟨t,ht⟩ := Option.isSome_iff_exists.mp (h.sold i ((h.lap i).rides hpos))
    rw [(hsell.bought i t ht).2.2]
    exact ((h.lap i).single hk).trans (Bool.toNat_le _)

/-- However sales, entries and rides interleave, the figures of the report agree. -/
theorem report_agrees (hn : (n : Int) ≤ u.cfg.totalTourists) (h : Runs [setExists] u tr s) :
    ReportAgrees tr s := by
  have hsell := run_selling h
  have hi := run_tallied List.mem_cons_self hn h
  refine ⟨?_,?_,hi.entries,?_,?_,?_,hi.count⟩
  · rw [hsell.total,sum_by_ticket _ fun i => (u.args i).ticketType]
    exact (Finset.sum_congr rfl fun k _ => hsell.byTicket k).symm
  · rw [hi.total,sum_by_ticket _ fun i => (u.args i).ticketType]
    exact (Finset.sum_congr rfl fun k _ => hi.byTicket k).symm
  · rw [hi.byTicket,hsell.byTicket]
    apply Finset.sum_le_sum
    intro i _
    split
    · exact Nat.mul_le_mul_right _ (hi.single hsell i ‹_›)
    · exact le_rfl
  · intro i hr
    obtain ⟨e,he,heo⟩ := hi.entry i
    exact ⟨e,he,heo.active.trans hr,(heo.id hr).1,hi.counted i hr⟩
  · intro k e he hact
    by_cases hk : k < n
    · obtain ⟨e',he',heo⟩ := hi.entry ⟨k,hk⟩
      have hsame : e = e' := Option.some.inj (he.symm.trans he')
      exact ⟨⟨k,hk⟩,rfl,heo.active.symm.trans (hsame ▸ hact)⟩
    · rw [hi.rest k e (by omega) he] at hact
      cases hact

theorem report_agrees_ride : (2 : Int) ≤ (sample 2).cfg.totalTourists ∧
    ∃ tr s, Runs [setExists] (sample 2) tr s ∧ s.shm.totalRides = 1 ∧ ReportAgrees tr s := by
  have hr : reaches [setExists] (sample 2) (rideAlone 0 ++ walks 0 8)
      (fun _ s => s.shm.totalRides == 1) = true := by decide +kernel
  obtain ⟨tr,s,h,ht⟩ := exists_run hr
  exact ⟨by decide,tr,s,h,by simpa using ht,report_agrees (by decide) h⟩

end Ropeway
