import Ropeway.Simulation.Roster
import Ropeway.Report

/-! The figures of the report when the simulation is cut short: the IPC objects may go away
under the tourists and the cashier at any moment. -/

namespace Ropeway
open Function (update)
open Ipc (Obj)

variable {n : Nat} {s s' : Sys n} {w w' : World n} {e : Event n} {u : Setup n} {tr : WorldTrace n}
  {p : Nat → Purchase} {g : Fin n → Tally} {i : Fin n} {a : Act n}

/-- Tourists that have gone on without an entry because `SEM_STATS` was gone, seen as if they
had left the simulation: they cannot ride any more. -/
def retire (lost : Fin n → Bool) (s : Sys n) : Sys n :=
  { s with tourists := fun i => if lost i then { s.tourists i with pc := .gone } else s.tourists i }

variable {lost : Fin n → Bool}

theorem retire_kept (h : lost i = false) (s : Sys n) : (retire lost s).tourists i = s.tourists i := by
  simp [retire,h]

theorem retire_same (ht : s'.tourists = s.tourists) (i : Fin n) :
    (retire lost s').tourists i = (retire lost s).tourists i := by
  simp [retire,ht]

theorem retire_others {j : Fin n} (ht : s'.tourists j = s.tourists j) :
    (retire lost s').tourists j = (retire lost s).tourists j := by
  simp [retire,ht]

theorem retire_walk (h : lost i = false) (s : Sys n) (pc : TouristPc) :
    retire lost (s.walk i pc) = (retire lost s).walk i pc := by
  simp only [retire,Sys.walk,Sys.setTourist]
  congr 1
  funext j
  by_cases hj : j = i
  · subst hj
    simp [h]
  · simp [hj]

/-- A tourist that is lost may move on. -/
theorem retire_lost (h : lost i = true) (s : Sys n) (pc : TouristPc) : retire lost (s.walk i pc) = retire lost s := by
  simp only [retire,Sys.walk,Sys.setTourist]
  congr 1
  funext j
  by_cases hj : j = i
  · subst hj
    simp [h]
  · simp [hj]

/-- One more tourist is lost. -/
theorem retire_update (s : Sys n) (i : Fin n) (pc : TouristPc) :
    retire (update lost i true) (s.walk i pc) = (retire lost s).walk i .gone := by
  simp only [retire,Sys.walk,Sys.setTourist]
  congr 1
  funext j
  by_cases hj : j = i
  · subst hj
    cases lost j <;> simp
  · simp [hj]

theorem Selling.retire (h : Selling u p s) (lost : Fin n → Bool) : Selling u p (retire lost s) := by
  refine ⟨?_,h.letters,h.serving,h.nodup,?_,h.once,h.answered,?_,h.keys,h.tariff,h.total,h.byTicket⟩
  · intro i
    rw [← h.badge i]
    cases hl : lost i <;> simp [Ropeway.retire,hl]
  · intro i hp
    cases hl : lost i <;> simp only [Ropeway.retire,hl] at hp
    · exact h.fresh i hp
    · cases hp
  · intro i t' ht
    obtain ⟨hb,hprice,hone⟩ := h.bought i t' ht
    cases hl : lost i <;> simp only [Ropeway.retire,hl,Bool.false_eq_true,if_true,if_false]
    · exact ⟨hb,hprice,hone⟩
    · exact ⟨rfl,hprice,hone⟩

/-- `touristFail` anywhere but in the wait for the entry. -/
theorem any_failure_quiet {d : TouristData} {pc pc' : TouristPc} (h : touristFailure d pc = some pc')
    (hr : pc ≠ .recordWait) : quiet pc pc' = true ∧ pc ≠ .gone ∧ (buying pc = true → pc' = .gone) := by
  cases pc <;> simp only [touristFailure,reduceCtorEq,Option.some.injEq] at h
  case recordWait => exact absurd rfl hr
  case stationWait | countWait =>
    subst h
    cases d.isVip <;> exact ⟨rfl,by simp,by simp [buying]⟩
  all_goals
    subst h
    exact ⟨rfl,by simp,by simp [buying]⟩

theorem tally_kept {x : Nat} (h1 : (s.tourists i).pc ≠ .recordEntry) (h2 : (s.tourists i).pc ≠ .updateStats) :
    noteTally g s (.tourist i x) = g := by
  unfold noteTally
  dsimp only
  split
  · exact absurd ‹_› h1
  · exact absurd ‹_› h2
  · rfl

theorem Tallied.retired_tourist {x : Nat} (h : Tallied u p g (retire lost s)) (hl : lost i = false)
    (hsell : Selling u p s) (hs : touristMain s i x = some s') :
    Tallied u (notePurchase p s (.tourist i x)) (noteTally g s (.tourist i x)) (retire lost s') := by
  have hself := retire_kept hl s
  have hkids : (s.tourists i).data.kidCount = (u.args i).kidCount :=
    congrArg TouristData.kidCount (hsell.badge i)
  have htype : (s.tourists i).data.ticketType = (u.args i).ticketType :=
    congrArg TouristData.ticketType (hsell.badge i)
  have htally : noteTally g (retire lost s) (.tourist i x) = noteTally g s (.tourist i x) := by
    simp only [noteTally,hself]
  by_cases h1 : (s.tourists i).pc = .recordEntry
  · have hp : notePurchase p s (.tourist i x) = p := by simp only [notePurchase,h1]
    have hadd := h.record (i := i) (by rw [hself]; exact hsell.id i) (by rw [hself]; exact hkids)
      (by rw [hself]; exact h1) x
    simp only [touristMain,h1] at hs
    cases hs
    rw [htally,hself] at hadd
    rw [hp,retire_walk hl]
    exact hadd
  by_cases h2 : (s.tourists i).pc = .updateStats
  · have hp : notePurchase p s (.tourist i x) = p := by simp only [notePurchase,h2]
    have hadd := h.add (i := i) (by rw [hself]; exact hsell.id i) (by rw [hself]; exact hkids)
      (by rw [hself]; exact htype) (by rw [hself]; exact h2) x
    simp only [touristMain,h2] at hs
    cases hs
    rw [htally,hself] at hadd
    rw [hp,retire_walk hl]
    exact hadd
  have hg : noteTally g s (.tourist i x) = g := tally_kept h1 h2
  have hpc : (s.tourists i).pc ≠ .gone := by
    intro hgone
    simp only [touristMain,hgone] at hs
    cases hs
  have hself' := retire_kept hl s'
  have hfig : SameRides s.shm s'.shm := .of_figures (tourist_figures hs h1 h2)
  have hrides : SameRides (retire lost s).shm (retire lost s').shm := hfig
  rw [hg]
  refine h.keep hrides s _ ?_
  intro j
  by_cases hj : j = i
  · subst hj
    rw [hself,hself']
    refine .inr ⟨?_,?_⟩
    · intro t hlap
      by_cases h3 : (s.tourists j).pc = .rideDone ∧ (s.tourists j).data.ticketType ≠ .single
      · rw [h3.1] at hlap
        simp only [touristMain,h3.1,if_neg h3.2] at hs
        cases hs
        simp only [Sys.walk_tourists,Function.update_self]
        exact hlap.again (htype ▸ h3.2)
      · refine hlap.quiet (tourist_quiet hs h1 h2 ?_) hpc
        intro hp
        exact not_not.mp fun hk => h3 ⟨hp,hk⟩
    · intro hb hgone
      cases hbuy : buying (s.tourists j).pc with
      | true => exact bought_got (hsell.id j) hs hbuy hb hgone
      | false => exact got_kept (h.got j (by rw [hself]; exact hbuy) (by rw [hself]; exact hpc)) s _
  · exact .inl (by rw [retire_others ((tourist_only hs).others j hj)])

def withoutEntry : TouristPc → Bool
  | .loopTop | .closingWait | .gone => true
  | _ => false

/-- Nobody but the tourists moves, and their figures stay. -/
theorem Tallied.retired_same (h : Tallied u p g (retire lost s)) (hf : SameRides s.shm s'.shm)
    (ht : s'.tourists = s.tourists) (s₀ : Sys n) (a : Act n) :
    Tallied u (notePurchase p s₀ a) g (retire lost s') := by
  have hrides : SameRides (retire lost s).shm (retire lost s').shm := hf
  exact h.keep hrides s₀ a fun j => .inl (by rw [retire_same ht])

/-- A tourist that has not lost its entry goes on quietly after a failing call. -/
theorem Tallied.retired_walk (h : Tallied u p g (retire lost s)) (hl : lost i = false) {pc : TouristPc}
    (hq : quiet (s.tourists i).pc pc = true) (hpc : (s.tourists i).pc ≠ .gone)
    (hb : buying (s.tourists i).pc = true → pc = .gone) : Tallied u p g (retire lost (s.walk i pc)) := by
  have hself := retire_kept hl s
  rw [retire_walk hl]
  exact h.walk (.touristFail i) (by rw [hself]; exact hq) (by rw [hself]; exact hpc) (by rw [hself]; exact hb)

/-- The figures fit the tourists but for those that are lost. -/
structure Lossy (u : Setup n) (p : Nat → Purchase) (g : Fin n → Tally) (gone : Prop) (s : Sys n)
    (lost : Fin n → Bool) : Prop where
  stray : ∀ i, lost i = true → withoutEntry (s.tourists i).pc = true ∧ gone
  tallied : Tallied u p g (retire lost s)

theorem Lossy.same {gone : Prop} (h : Lossy u p g gone s lost) (hf : SameRides s.shm s'.shm)
    (ht : s'.tourists = s.tourists) (s₀ : Sys n) (a : Act n) : Lossy u (notePurchase p s₀ a) g gone s' lost :=
  ⟨by rw [ht]; exact h.stray,h.tallied.retired_same hf ht s₀ a⟩

/-- What a lost tourist does changes nothing. -/
theorem Lossy.wander {gone : Prop} {pc : TouristPc} (h : Lossy u p g gone s lost) (hl : lost i = true)
    (hpc : withoutEntry pc = true) : Lossy u p g gone (s.walk i pc) lost := by
  refine ⟨?_,by rw [retire_lost hl]; exact h.tallied⟩
  intro j hj
  refine ⟨?_,(h.stray j hj).2⟩
  by_cases he : j = i
  · subst he
    simpa using hpc
  · simpa [he] using (h.stray j hj).1

theorem Lossy.others {gone : Prop} (h : Lossy u p g gone s lost) (hl : lost i = false)
    (ho : ∀ j, j ≠ i → s'.tourists j = s.tourists j) (j : Fin n) (hj : lost j = true) :
    withoutEntry (s'.tourists j).pc = true ∧ gone := by
  have hne : j ≠ i := by
    rintro rfl
    rw [hl] at hj
    cases hj
  rw [ho j hne]
  exact h.stray j hj

theorem Lossy.fail {gone : Prop} {pc : TouristPc} (h : Lossy u p g gone s lost)
    (hf : touristFailure (s.tourists i).data (s.tourists i).pc = some pc)
    (hset : touristInSemop (s.tourists i).pc = true → gone) :
    ∃ lost', Lossy u p g gone (s.walk i pc) lost' := by
  cases hl : lost i with
  | true =>
    refine ⟨lost,h.wander hl ?_⟩
    have hs := (h.stray i hl).1
    cases hp : (s.tourists i).pc <;> rw [hp] at hf hs <;> cases hs <;> cases hf <;> rfl
  | false =>
    by_cases hr : (s.tourists i).pc = .recordWait
    · -- The entry is lost here.
      rw [hr] at hf hset
      cases hf
      refine ⟨update lost i true,?_,?_⟩
      · intro j hj
        by_cases he : j = i
        · subst he
          simpa [withoutEntry] using hset rfl
        · rw [Function.update_of_ne he] at hj
          simpa [he] using h.stray j hj
      · rw [retire_update]
        have hself := retire_kept hl s
        exact h.tallied.walk (.touristFail i) (by rw [hself,hr]; rfl) (by rw [hself,hr]; simp) (fun _ => rfl)
    · obtain ⟨hq,hpc,hb⟩ := any_failure_quiet hf hr
      refine ⟨lost,?_,h.tallied.retired_walk hl hq hpc hb⟩
      exact h.others hl fun j hj => by simp [hj]

/-- A lost tourist finds `SEM_STATE` gone as well. -/
theorem Lossy.step {gone : Prop} (hown : ∀ r, ownPc r (s.worker r).pc = true) (h : Lossy u p g gone s lost)
    (hsell : Selling u p s) (hwait : ∀ i x, a = .tourist i x → touristInSemop (s.tourists i).pc = true → ¬gone)
    (hfail : ∀ i, a = .touristFail i → touristInSemop (s.tourists i).pc = true → gone)
    (hs : step s a = some s') : ∃ lost', Lossy u (notePurchase p s a) (noteTally g s a) gone s' lost' := by
  cases hv : a.visitor with
  | false =>
    have hsame := visitors_same hown hv hs
    rw [tally_others (fun i x he => by rw [he] at hv; cases hv)]
    refine ⟨lost,h.same ?_ hsame.tourists s a⟩
    by_cases ht : ∃ ms, a = .tick ms
    · obtain ⟨ms,rfl⟩ := ht
      simp only [Ropeway.step] at hs
      split at hs
      · cases hs
        exact ⟨rfl,rfl,rfl,rfl,rfl⟩
      · cases hs
    · exact .of_figures (others_figures hown hv (fun ms he => ht ⟨ms,he⟩) hs)
  | true =>
    cases a with
    | cashier =>
      refine ⟨lost,h.same ?_ (cashier_only hs).tourists s .cashier⟩
      by_cases hp : s.cashier.pc = .stats
      · simp only [Ropeway.step,cashierMain,hp] at hs
        cases hs
        exact ⟨rfl,rfl,rfl,rfl,rfl⟩
      · rw [cashier_figures hs hp]
        exact ⟨rfl,rfl,rfl,rfl,rfl⟩
    | cashierFail pc =>
      obtain ⟨-,rfl⟩ := cashier_fail hs
      have hf : SameRides s.shm (s.serve pc).shm := ⟨rfl,rfl,rfl,rfl,rfl⟩
      exact ⟨lost,h.same hf rfl s (.cashierFail pc)⟩
    | tourist i x =>
      cases hl : lost i with
      | false => exact ⟨lost,h.others hl (tourist_only hs).others,h.tallied.retired_tourist hl hsell hs⟩
      | true =>
        obtain ⟨hstray,hgone⟩ := h.stray i hl
        cases hp : (s.tourists i).pc <;> simp only [hp,withoutEntry,Bool.false_eq_true] at hstray
        case gone => simp [Ropeway.step,touristMain,hp] at hs
        case closingWait => exact absurd hgone (hwait i x rfl (by rw [hp]; rfl))
        case loopTop =>
          have hpur : notePurchase p s (.tourist i x) = p := by simp only [notePurchase,hp]
          have hnote : noteTally g s (.tourist i x) = g := by simp only [noteTally,hp]
          rw [hpur,hnote]
          simp only [Ropeway.step,touristMain,hp] at hs
          repeat' split at hs
          all_goals
            cases hs
            exact ⟨lost,h.wander hl rfl⟩
    | touristCont i =>
      simp only [Ropeway.step] at hs
      split at hs
      · obtain ⟨pc,hpc,rfl⟩ := Option.map_eq_some_iff.mp hs
        cases hl : lost i with
        | false =>
          obtain ⟨hq,hg,hb⟩ := cont_quiet hpc
          refine ⟨lost,?_,h.tallied.retired_walk hl hq hg hb⟩
          exact h.others hl fun j hj => by simp [hj]
        | true =>
          have hstray := (h.stray i hl).1
          cases hp : (s.tourists i).pc <;> rw [hp] at hpc hstray <;> cases hstray <;> cases hpc
      · cases hs
    | touristFail i =>
      obtain ⟨pc,hpc,rfl⟩ := Option.map_eq_some_iff.mp hs
      exact h.fail hpc (hfail i rfl)
    | _ => cases hv

theorem Lossy.mono {gone gone' : Prop} (h : Lossy u p g gone s lost) (hg : gone → gone') : Lossy u p g gone' s lost :=
  ⟨fun i hi => ⟨(h.stray i hi).1,hg (h.stray i hi).2⟩,h.tallied⟩

structure Figures (u : Setup n) (tr : WorldTrace n) (w : World n) : Prop where
  selling : Selling u (purchases (sysTrace tr)) w.sys
  lossy : ∃ lost, Lossy u (purchases (sysTrace tr)) (tallies (sysTrace tr)) (.sem ∈ w.removed) w.sys lost

/-- An event that is no step of the simulation proper. -/
theorem Figures.still (h : Figures u tr w) (ha : w.sysAct e = none) (hsell : Selling u (purchases (sysTrace tr)) w'.sys)
    (hshm : w'.sys.shm = w.sys.shm) (ht : w'.sys.tourists = w.sys.tourists)
    (hr : ∃ l, w'.removed = l ++ w.removed) : Figures u (tr ++ [(w,e)]) w' := by
  obtain ⟨lost,hl⟩ := h.lossy
  obtain ⟨l,hr⟩ := hr
  refine ⟨by rw [sys_trace_none ha]; exact hsell,lost,?_⟩
  rw [sys_trace_none ha,hr]
  have hf : SameRides w.sys.shm w'.sys.shm := by rw [hshm]; exact ⟨rfl,rfl,rfl,rfl,rfl⟩
  exact (hl.same hf ht w.sys .close).mono (List.mem_append_right l)

theorem Figures.step (hown : ∀ r, ownPc r (w.sys.worker r).pc = true) (hroster : Roster w) (h : Figures u tr w)
    (hs : w.step e = some w') : Figures u (tr ++ [(w,e)]) w' := by
  have hr := removed_grows hs
  cases world_effect hown hs with
  | @acts a ha hstep _ =>
    obtain ⟨lost,hl⟩ := h.lossy
    have hwait : ∀ i x, a = .tourist i x → touristInSemop (w.sys.tourists i).pc = true → ¬.sem ∈ w.removed := by
      rintro i x rfl hin
      rcases sys_act_cases ha with rfl | ⟨ms,hms⟩ | hc | hc
      · exact (act_allowed hs).1.2 .sem (by simp [touristCall,hin])
      all_goals simp_all
    have hfail : ∀ i, a = .touristFail i → touristInSemop (w.sys.tourists i).pc = true → .sem ∈ w.removed := by
      rintro i rfl hin
      rcases sys_act_cases ha with rfl | ⟨ms,hms⟩ | hc | hc
      · exact (act_allowed hs).1.2 hin
      all_goals simp_all
    obtain ⟨lost',hl'⟩ := hl.step hown h.selling hwait hfail hstep
    obtain ⟨l,hr⟩ := hr
    have hpur : purchases (sysTrace (tr ++ [(w,e)])) = notePurchase (purchases (sysTrace tr)) w.sys a := by
      simp [sys_trace_acts ha,purchases]
    have htal : tallies (sysTrace (tr ++ [(w,e)])) = noteTally (tallies (sysTrace tr)) w.sys a := by
      simp [sys_trace_acts ha,tallies]
    refine ⟨by rw [hpur]; exact h.selling.step hown hstep,lost',?_⟩
    rw [hpur,htal,hr]
    exact hl'.mono (List.mem_append_right l)
  | stays ha hsame => exact h.still ha (by rw [hsame]; exact h.selling) (by rw [hsame]) (by rw [hsame]) hr
  | worker ha hsame =>
    refine h.still ha ?_ (by rw [hsame]; rfl) (by rw [hsame]; rfl) hr
    rw [hsame]
    exact h.selling.same rfl rfl rfl (Nat.le_refl _) (.refl _)
  | cashier ha hsame _ hnew =>
    refine h.still ha ?_ (by rw [hsame]; rfl) (by rw [hsame]; rfl) hr
    rw [hsame]
    rcases hroster.cashier hnew with htop | hx
    · exact h.selling.drop (by rw [htop]; decide)
    · exact h.selling.same rfl (by rw [← hx]; rfl) rfl (Nat.le_refl _) (.refl _)

theorem run_figures {env : WorldEnv n} (hn : (n : Int) ≤ u.cfg.totalTourists) (h : WorldRuns env u tr w) :
    Figures u tr w := by
  have hboth : Roster w ∧ Figures u tr w := by
    refine world_invariant (fun tr w => Roster w ∧ Figures u tr w) ?_ ?_ h
    · refine ⟨start_roster u,start_selling u,fun _ => false,?_,start_tallied u hn⟩
      intro i hi
      cases hi
    · intro tr w e w' hown hi _ hs
      exact ⟨hi.1.step hown hs,hi.2.step hown hi.1 hs⟩
  exact hboth.2

/-- The figures of the report agree at every moment of every run of the whole program, also when
the IPC objects are removed in the middle of a sale or of a ride. -/
theorem final_report_agrees (hn : (n : Int) ≤ u.cfg.totalTourists) (h : WorldRuns anyEvent u tr w) :
    ReportAgrees (sysTrace tr) w.sys := by
  obtain ⟨hsell,lost,-,hi⟩ := run_figures hn h
  have hsell' := hsell.retire lost
  refine ⟨?_,?_,hi.entries,?_,?_,?_,hi.count⟩
  · rw [hsell.total,sum_by_ticket _ fun i => (u.args i).ticketType]
    exact (Finset.sum_congr rfl fun k _ => hsell.byTicket k).symm
  · have hby : ∀ k, w.sys.shm.ridesByTicket k =
        ∑ i, if (u.args i).ticketType = k then (tallies (sysTrace tr) i).rides * u.party i else 0 := hi.byTicket
    have htotal : w.sys.shm.totalRides = ∑ i, (tallies (sysTrace tr) i).rides * u.party i := hi.total
    rw [htotal,sum_by_ticket _ fun i => (u.args i).ticketType]
    exact (Finset.sum_congr rfl fun k _ => hby k).symm
  · have hby : w.sys.shm.ridesByTicket .single = ∑ i,
        if (u.args i).ticketType = .single then (tallies (sysTrace tr) i).rides * u.party i else 0 := hi.byTicket _
    rw [hby,hsell.byTicket]
    apply Finset.sum_le_sum
    intro i _
    split
    · exact Nat.mul_le_mul_right _ (hi.single hsell' i ‹_›)
    · exact le_rfl
  · intro i hr
    obtain ⟨e,he,heo⟩ := hi.entry i
    exact ⟨e,he,heo.active.trans hr,(heo.id hr).1,hi.counted i hr⟩
  · intro k e he hact
    by_cases hk : k < n
    · obtain ⟨e',he',heo⟩ := hi.entry ⟨k,hk⟩
      have hsame : e = e' := Option.some.inj (he.symm.trans he')
      exact ⟨⟨k,hk⟩,rfl,heo.active.symm.trans (hsame ▸ hact)⟩
    · rw [hi.rest k e (by omega) he] at hact
      cases hact

/-- The second tourist has its ticket when the handler of `main` removes everything, and goes on
without an entry. -/
def lostEntry : List (Event 2) :=
  launch ++ spawnerSteps 11 ++ acts (rideAlone 0 ++ walks 0 8 ++ walks 1 1 ++ List.replicate 7 .cashier ++ walks 1 1) ++
    [.mainSignal .term] ++ mains 7 ++ acts [.touristFail 1]

theorem final_report_agrees_lost : (2 : Int) ≤ (sample 2).cfg.totalTourists ∧ ∃ tr w,
    WorldRuns anyEvent (sample 2) tr w ∧ w.sys.shm.totalTourists = 2 ∧ w.sys.shm.totalRides = 1 ∧
      (w.sys.tourists 1).pc = .loopTop ∧ (tallies (sysTrace tr) 1).recorded = false ∧ ReportAgrees (sysTrace tr) w.sys := by
  have hr : worldReaches anyEvent (sample 2) lostEntry (fun tr w => w.sys.shm.totalTourists == 2 &&
      w.sys.shm.totalRides == 1 && (w.sys.tourists 1).pc == .loopTop && !(tallies (sysTrace tr) 1).recorded) = true := by
    decide +kernel
  obtain ⟨tr,w,h,ht⟩ := exists_world_run hr
  simp only [Bool.and_eq_true,beq_iff_eq,Bool.not_eq_true'] at ht
  exact ⟨by decide,tr,w,h,ht.1.1.1,ht.1.1.2,ht.1.2,ht.2,final_report_agrees (by decide) h⟩

end Ropeway
