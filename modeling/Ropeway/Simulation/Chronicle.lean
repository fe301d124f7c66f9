import Ropeway.ReportText
import Ropeway.Simulation.FinalReport

/-! The file of the report against the course of the simulation. -/

namespace Ropeway
open Function (update)

variable {n : Nat} {s s' : Sys n} {w w' : World n} {e : Event n} {u : Setup n} {tr : WorldTrace n}
  {p : Nat → Purchase} {g : Fin n → Tally} {lost : Fin n → Bool} {i : Fin n} {a : Act n} {m : SharedState}

def Setup.row (u : Setup n) (i : Fin n) (rides : Nat) : ReportRow :=
  ⟨touristId i, (u.args i).type, (u.args i).ticketType, rides, (u.args i).isVip, (u.args i).kidCount⟩

/-- The report of a run, told from its steps. -/
def chronicle (u : Setup n) (tr : List (Sys n × Act n)) : Report where
  start := u.cfg.startMinutes.toNat
  finish := u.cfg.endMinutes.toNat
  tourists := ∑ i, (purchases tr (touristId i)).counted * u.party i
  rides := ∑ i, (tallies tr i).rides * u.party i
  rows := (List.finRange n).filterMap fun i =>
    if (tallies tr i).recorded then some (u.row i (tallies tr i).rides) else none
  aggregates := ticketTypes.map fun k =>
    (k, ∑ i, if (u.args i).ticketType = k then (purchases tr (touristId i)).counted * u.party i else 0,
      ∑ i, if (u.args i).ticketType = k then (tallies tr i).rides * u.party i else 0)

def Setup.entry (u : Setup n) (i : Fin n) (time : Int) (rides : Nat) : TouristEntry :=
  ⟨true, touristId i, some (u.args i).ticketType, time, rides, (u.args i).isVip, (u.args i).type,
    (u.args i).kidCount⟩

def Inscribed (u : Setup n) (g : Fin n → Tally) (m : SharedState) : Prop :=
  ∀ i, (g i).recorded = true → ∃ t, m.touristEntries[i.val]? = some (u.entry i t (g i).rides)

theorem record_entry (hid : (s.tourists i).data.badge = ((u.args i).data (touristId i)).badge)
    (hroom : i.val < m.maxTrackedTourists) :
    (m.recordEntry (s.tourists i).data).touristEntries = m.touristEntries.set i.val (u.entry i m.simMinutes 0) := by
  have hdata : (s.tourists i).data.id = touristId i := congrArg TouristData.id hid
  have htype : (s.tourists i).data.type = (u.args i).type := congrArg TouristData.type hid
  have hticket : (s.tourists i).data.ticketType = (u.args i).ticketType := congrArg TouristData.ticketType hid
  have hvip : (s.tourists i).data.isVip = (u.args i).isVip := congrArg TouristData.isVip hid
  have hkids : (s.tourists i).data.kidCount = (u.args i).kidCount := congrArg TouristData.kidCount hid
  have hin : 0 < touristId i ∧ touristId i - 1 < m.maxTrackedTourists := ⟨Nat.succ_pos _,hroom⟩
  unfold SharedState.recordEntry Setup.entry
  rw [hdata,if_pos hin,htype,hticket,hvip,hkids]
  rfl

theorem update_entry (hid : (s.tourists i).data.id = touristId i) (hroom : i.val < m.maxTrackedTourists) :
    (m.updateStats (s.tourists i).data).touristEntries =
      m.touristEntries.modify i.val fun e => { e with totalRides := e.totalRides + 1 } := by
  have hin : 0 < touristId i ∧ touristId i - 1 < m.maxTrackedTourists := ⟨Nat.succ_pos _,hroom⟩
  unfold SharedState.updateStats
  rw [hid,if_pos hin]
  rfl

theorem Inscribed.keep (h : Inscribed u g s.shm) (he : s'.shm.touristEntries = s.shm.touristEntries)
    (hg : noteTally g s a = g) : Inscribed u (noteTally g s a) s'.shm := by
  intro i hi
  rw [hg] at hi ⊢
  rw [he]
  exact h i hi

theorem Inscribed.record (h : Inscribed u g s.shm) (hsell : Selling u p s)
    (hlap : Lap (u.args i).ticketType (s.tourists i).pc (g i)) (hp : (s.tourists i).pc = .recordEntry)
    (hroom : i.val < s.shm.maxTrackedTourists) (hlen : s.shm.touristEntries.length = s.shm.maxTrackedTourists)
    (x : Nat) : Inscribed u (noteTally g s (.tourist i x)) (s.shm.recordEntry (s.tourists i).data) := by
  have hblank : g i = ⟨false,0⟩ := hlap.before (by rw [hp]; rfl)
  have hg : noteTally g s (.tourist i x) = update g i ⟨true,0⟩ := by simp only [noteTally,hp,hblank]
  intro j hj
  rw [record_entry (hsell.badge i) hroom,hg]
  by_cases he : j = i
  · subst he
    rw [Function.update_self,List.getElem?_set_self (by omega)]
    exact ⟨_,rfl⟩
  · have hval : i.val ≠ j.val := fun hv => he (Fin.ext hv.symm)
    rw [hg,Function.update_of_ne he] at hj
    rw [Function.update_of_ne he,List.getElem?_set_ne hval]
    exact h j hj

theorem Inscribed.ride (h : Inscribed u g s.shm) (hid : (s.tourists i).data.id = touristId i)
    (hlap : Lap (u.args i).ticketType (s.tourists i).pc (g i)) (hp : (s.tourists i).pc = .updateStats)
    (hroom : i.val < s.shm.maxTrackedTourists) (x : Nat) :
    Inscribed u (noteTally g s (.tourist i x)) (s.shm.updateStats (s.tourists i).data) := by
  have hrec : (g i).recorded = true := hlap.after (by rw [hp]; rfl) (by simp [hp])
  have hg : noteTally g s (.tourist i x) = update g i { g i with rides := (g i).rides + 1 } := by
    simp only [noteTally,hp]
  intro j hj
  rw [update_entry hid hroom,hg,List.getElem?_modify]
  by_cases he : j = i
  · subst he
    obtain ⟨t,ht⟩ := h j hrec
    rw [Function.update_self,ht]
    exact ⟨t,by simp [Setup.entry]⟩
  · have hval : i.val ≠ j.val := fun hv => he (Fin.ext hv.symm)
    rw [hg,Function.update_of_ne he] at hj
    obtain ⟨t,ht⟩ := h j hj
    rw [Function.update_of_ne he,ht]
    exact ⟨t,by simp [hval]⟩

/-- Nobody writes an entry but a tourist in one of its two critical sections. -/
theorem Inscribed.step {gone : Prop} (hown : ∀ r, ownPc r (s.worker r).pc = true) (h : Inscribed u g s.shm)
    (hl : Lossy u p g gone s lost) (hsell : Selling u p s) (hs : step s a = some s') :
    Inscribed u (noteTally g s a) s'.shm := by
  have hroom : ∀ i : Fin n, i.val < s.shm.maxTrackedTourists := fun i => i.isLt.trans_le hl.tallied.room
  -- A tourist in one of these sections is not lost.
  have hlap : ∀ i, withoutEntry (s.tourists i).pc = false → Lap (u.args i).ticketType (s.tourists i).pc (g i) := by
    intro i hpc
    have hnot : lost i = false := by
      by_contra hli
      have hstray := (hl.stray i (by simpa using hli)).1
      rw [hpc] at hstray
      cases hstray
    have hfit := hl.tallied.lap i
    rwa [retire_kept hnot] at hfit
  cases hv : a.visitor with
  | false =>
    refine h.keep ?_ (tally_others fun i x he => by rw [he] at hv; cases hv)
    by_cases ht : ∃ ms, a = .tick ms
    · obtain ⟨ms,rfl⟩ := ht
      simp only [Ropeway.step] at hs
      split at hs
      · cases hs
        rfl
      · cases hs
    · exact congrArg (·.touristEntries) (others_figures hown hv (fun ms he => ht ⟨ms,he⟩) hs)
  | true =>
    cases a with
    | worker | sleep | deliver | kill | tick | close | shutdown => cases hv
    | cashier =>
      refine h.keep ?_ rfl
      by_cases hp : s.cashier.pc = .stats
      · simp only [Ropeway.step,cashierMain,hp] at hs
        cases hs
        rfl
      · rw [cashier_figures hs hp]
    | cashierFail pc =>
      obtain ⟨-,rfl⟩ := cashier_fail hs
      exact h.keep rfl rfl
    | tourist i x =>
      by_cases h1 : (s.tourists i).pc = .recordEntry
      · have hi := h.record hsell (hlap i (by rw [h1]; rfl)) h1 (hroom i) hl.tallied.length x
        simp only [Ropeway.step,touristMain,h1] at hs
        cases hs
        exact hi
      by_cases h2 : (s.tourists i).pc = .updateStats
      · have hi := h.ride (hsell.id i) (hlap i (by rw [h2]; rfl)) h2 (hroom i) x
        simp only [Ropeway.step,touristMain,h2] at hs
        cases hs
        exact hi
      exact h.keep (congrArg (·.touristEntries) (tourist_figures hs h1 h2)) (tally_kept h1 h2)
    | touristCont i =>
      simp only [Ropeway.step] at hs
      split at hs
      · obtain ⟨pc,-,rfl⟩ := Option.map_eq_some_iff.mp hs
        exact h.keep rfl rfl
      · cases hs
    | touristFail i =>
      obtain ⟨pc,-,rfl⟩ := Option.map_eq_some_iff.mp hs
      exact h.keep rfl rfl

theorem Inscribed.still (h : Inscribed u (tallies (sysTrace tr)) w.sys.shm) (ha : w.sysAct e = none)
    (hs : w'.sys.shm = w.sys.shm) : Inscribed u (tallies (sysTrace (tr ++ [(w,e)]))) w'.sys.shm := by
  rw [sys_trace_none ha,hs]
  exact h

theorem run_inscribed {env : WorldEnv n} (hn : (n : Int) ≤ u.cfg.totalTourists) (h : WorldRuns env u tr w) :
    Inscribed u (tallies (sysTrace tr)) w.sys.shm := by
  have hall : Roster w ∧ Figures u tr w ∧ Inscribed u (tallies (sysTrace tr)) w.sys.shm := by
    refine world_invariant (fun tr w => Roster w ∧ Figures u tr w ∧
      Inscribed u (tallies (sysTrace tr)) w.sys.shm) ?_ ?_ h
    · refine ⟨start_roster u,⟨start_selling u,fun _ => false,?_,start_tallied u hn⟩,?_⟩
      · intro i hi
        cases hi
      · intro i hi
        cases hi
    · intro tr w e w' hown hi _ hs
      obtain ⟨hroster,hfig,hins⟩ := hi
      refine ⟨hroster.step hown hs,hfig.step hown hroster hs,?_⟩
      cases world_effect hown hs with
      | acts ha hstep _ =>
        obtain ⟨lost,hl⟩ := hfig.lossy
        have htal := hins.step hown hl hfig.selling hstep
        simpa [sys_trace_acts ha,tallies] using htal
      | stays ha hsame => exact hins.still ha (by rw [hsame])
      | worker ha hsame => exact hins.still ha (by rw [hsame]; rfl)
      | cashier ha hsame => exact hins.still ha (by rw [hsame]; rfl)
  exact hall.2.2

/-- The rows of the file are the tourists that have recorded their entry. -/
theorem rows_recorded {gone : Prop} (h : Inscribed u g m) (hl : Lossy u p g gone s lost) (hm : s.shm = m) :
    m.reported.filterMap TouristEntry.row =
      (List.finRange n).filterMap fun i => if (g i).recorded then some (u.row i (g i).rides) else none := by
  subst hm
  have htal := hl.tallied
  unfold SharedState.reported
  rw [List.filterMap_filter]
  apply Lib.filter_map_table
  · intro i
    obtain ⟨e,he,heo⟩ := htal.entry i
    have he' : s.shm.touristEntries[i.val]? = some e := he
    cases hr : (g i).recorded with
    | true =>
      have hcount : touristId i ≤ s.shm.touristEntryCount := htal.counted i hr
      have hmax : s.shm.touristEntryCount ≤ s.shm.maxTrackedTourists := htal.count
      have hin : i.val < min s.shm.touristEntryCount s.shm.maxTrackedTourists := by
        unfold touristId at hcount
        omega
      obtain ⟨t,ht⟩ := h i hr
      rw [List.getElem?_take_of_lt hin,ht]
      rfl
    | false =>
      have hact : e.active = false := heo.active.trans hr
      rw [List.getElem?_take]
      split
      · rw [he']
        simp [hact]
      · rfl
  · intro k e hk he
    rw [List.getElem?_take] at he
    split at he
    · have hact := htal.rest k e hk he
      simp [hact]
    · cases he

theorem entries_known {gone : Prop} (h : Inscribed u g s.shm) (hl : Lossy u p g gone s lost) :
    ∀ e ∈ s.shm.reported, e.ticketType ≠ none ∧ e.kidCount ≤ 2147483647 := by
  intro e he
  obtain ⟨hmem,hact⟩ := List.mem_filter.mp he
  obtain ⟨k,hk⟩ := List.mem_iff_getElem?.mp (List.mem_of_mem_take hmem)
  by_cases hin : k < n
  · obtain ⟨e',he',heo⟩ := hl.tallied.entry ⟨k,hin⟩
    have hsame : e = e' := Option.some.inj (hk.symm.trans he')
    have hrec : (g ⟨k,hin⟩).recorded = true := heo.active.symm.trans (hsame ▸ hact)
    obtain ⟨t,ht⟩ := h ⟨k,hin⟩ hrec
    have hentry := Option.some.inj (hk.symm.trans ht)
    rw [hentry]
    exact ⟨by simp [Setup.entry],(u.args ⟨k,hin⟩).kids_le.trans (by decide)⟩
  · have hnot := hl.tallied.rest k e (by omega) hk
    rw [hnot] at hact
    cases hact

theorem sum_ticket_types (f : TicketType → Nat) : (ticketTypes.map f).sum = ∑ k, f k := by
  simp [ticketTypes,Finset.sum,Finset.univ,Fintype.elems]

/-- What the tourists have done adds up. -/
theorem chronicle_adds_up {tr : List (Sys n × Act n)} {gone : Prop}
    (hl : Lossy u (purchases tr) (tallies tr) gone s lost) (hsell : Selling u (purchases tr) s) :
    (chronicle u tr).AddsUp := by
  have hrows : ∀ (k : TicketType) (w : ReportRow → Nat),
      (((chronicle u tr).rows.filter (·.ticket = k)).map w).sum = ∑ i, if (u.args i).ticketType = k then
        (if (tallies tr i).recorded then w (u.row i (tallies tr i).rides) else 0) else 0 := by
    intro k w
    rw [chronicle,List.filter_filterMap,Lib.sum_filter_map]
    apply Finset.sum_congr rfl
    intro i _
    cases (tallies tr i).recorded with
    | true => by_cases hk : (u.args i).ticketType = k <;> simp [hk,Setup.row,Option.filter]
    | false => simp
  have hrides : ∀ i, (tallies tr i).recorded = false → (tallies tr i).rides = 0 := by
    intro i hi
    by_contra hpos
    have hrec := (hl.tallied.lap i).rides (Nat.pos_of_ne_zero hpos)
    rw [hi] at hrec
    cases hrec
  have hcounted : ∀ i, (tallies tr i).recorded = true → (purchases tr (touristId i)).counted = 1 := by
    intro i hi
    obtain ⟨t,ht⟩ := Option.isSome_iff_exists.mp (hl.tallied.sold i hi)
    exact (hsell.bought i t ht).2.2
  refine ⟨?_,?_,?_,?_,?_,?_⟩
  · simp only [chronicle,List.map_map]
    exact (sum_by_ticket _ fun i => (u.args i).ticketType).trans (sum_ticket_types _).symm
  · simp only [chronicle,List.map_map]
    exact (sum_by_ticket _ fun i => (u.args i).ticketType).trans (sum_ticket_types _).symm
  · intro k t x hm
    obtain ⟨k',-,he⟩ := List.mem_map.mp hm
    cases he
    rw [Report.ridden,hrows]
    apply Finset.sum_congr rfl
    intro i _
    cases hr : (tallies tr i).recorded with
    | true => rfl
    | false => simp [hrides i hr]
  · intro k t x hm
    obtain ⟨k',-,he⟩ := List.mem_map.mp hm
    cases he
    rw [Report.people,hrows]
    apply Finset.sum_le_sum
    intro i _
    split
    · split
      · rename_i hr
        rw [hcounted i hr,Nat.one_mul]
        exact Nat.le_refl _
      · exact Nat.zero_le _
    · exact Nat.le_refl _
  · intro q hq hk
    obtain ⟨i,-,hi⟩ := List.mem_filterMap.mp hq
    split at hi
    · cases hi
      exact ((hl.tallied.lap i).single hk).trans (Bool.toNat_le _)
    · cases hi
  · rw [List.pairwise_map]
    refine (List.pairwise_lt_finRange n).filterMap _ ?_
    intro i j hij a ha b hb
    simp only [Option.ite_none_right_eq_some,Option.some.injEq] at ha hb
    obtain ⟨-,rfl⟩ := ha
    obtain ⟨-,rfl⟩ := hb
    exact Nat.succ_lt_succ hij

/-- The segment says what the tourists have done. -/
theorem segment_told {tr : List (Sys n × Act n)} {gone : Prop} {start : Nat} (hstart : u.cfg.startMinutes = start)
    (hins : Inscribed u (tallies tr) s.shm) (hl : Lossy u (purchases tr) (tallies tr) gone s lost)
    (hsell : Selling u (purchases tr) s) : s.shm.report start = chronicle u tr := by
  have hend : s.shm.simEndMinutes = u.cfg.endMinutes := congrArg Prod.fst hsell.tariff
  have hrides : s.shm.totalRides = ∑ i, (tallies tr i).rides * u.party i := hl.tallied.total
  have hby : ∀ k, s.shm.ridesByTicket k =
      ∑ i, if (u.args i).ticketType = k then (tallies tr i).rides * u.party i else 0 := hl.tallied.byTicket
  unfold SharedState.report chronicle
  rw [rows_recorded hins hl rfl,hsell.total,hrides,hend,hstart]
  simp only [hsell.byTicket,hby]

theorem minutes_of_day {hour minute : Int} (hh : 0 ≤ hour ∧ hour ≤ 23) (hm : 0 ≤ minute ∧ minute ≤ 59) :
    ∃ k : Nat, hour * 60 + minute = k ∧ k < 1440 := ⟨(hour * 60 + minute).toNat,by omega,by omega⟩

/-- In every state of every run the file of the report can be written, and what a reader gets
back from its text is what the tourists have done in that run: a row for each that recorded its
entry, with its own figures, and totals that are the sums of the columns. -/
theorem report_tells (hn : (n : Int) ≤ u.cfg.totalTourists) (h : WorldRuns anyEvent u tr w) :
    ∃ text, writeReportToFile true u.cfg.startMinutes w.sys.shm = some (0,text) ∧
      readReport text = some (chronicle u (sysTrace tr)) ∧ (chronicle u (sysTrace tr)).AddsUp := by
  obtain ⟨hsell,lost,hl⟩ := run_figures hn h
  have hins := run_inscribed hn h
  have hcfg := accepted u.valid
  obtain ⟨start,hstart,hs⟩ := minutes_of_day hcfg.startHour hcfg.startMinute
  obtain ⟨finish,hfinish,hf⟩ := minutes_of_day hcfg.endHour hcfg.endMinute
  have hend : w.sys.shm.simEndMinutes = finish := (congrArg Prod.fst hsell.tariff).trans hfinish
  obtain ⟨text,hw,hr⟩ := report_reads_back hs hf hend (entries_known hins hl)
  refine ⟨text,?_,?_,chronicle_adds_up hl hsell⟩
  · have hcfgStart : u.cfg.startMinutes = start := hstart
    rw [hcfgStart]
    exact hw
  · rw [hr,segment_told hstart hins hl hsell]

theorem report_tells_lost : (2 : Int) ≤ (sample 2).cfg.totalTourists ∧ ∃ tr w text,
    WorldRuns anyEvent (sample 2) tr w ∧
      writeReportToFile true (sample 2).cfg.startMinutes w.sys.shm = some (0,text) ∧
      readReport text = some (chronicle (sample 2) (sysTrace tr)) ∧
      (chronicle (sample 2) (sysTrace tr)).tourists = 2 ∧ (chronicle (sample 2) (sysTrace tr)).rides = 1 ∧
      (chronicle (sample 2) (sysTrace tr)).rows = [(sample 2).row 0 1] := by
  have hr : worldReaches anyEvent (sample 2) lostEntry (fun tr _ =>
      (chronicle (sample 2) (sysTrace tr)).tourists == 2 && (chronicle (sample 2) (sysTrace tr)).rides == 1 &&
        (chronicle (sample 2) (sysTrace tr)).rows == [(sample 2).row 0 1]) = true := by
    decide +kernel
  obtain ⟨tr,w,h,ht⟩ := exists_world_run hr
  simp only [Bool.and_eq_true,beq_iff_eq] at ht
  obtain ⟨text,hw,hread,-⟩ := report_tells (by decide) h
  exact ⟨by decide,tr,w,text,h,hw,hread,ht.1.1,ht.1.2,ht.2⟩

end Ropeway
