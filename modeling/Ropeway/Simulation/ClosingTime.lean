import Ropeway.Simulation.FinalReport

/-! After closing time: who may still ride and who may still come. -/

namespace Ropeway
open Function (update)

variable {n : Nat} {s s' : Sys n} {w w' : World n} {e : Event n} {u : Setup n} {tr : WorldTrace n}
  {g : Fin n → Tally} {i : Fin n} {a : Act n}

def Sys.closed (s : Sys n) : Bool := s.shm.closing || !s.shm.running

/-- Tourist `i` has passed the tests of its ride loop, or will pass them, and has not added its
ride to the figures yet. -/
def Sys.mayRide (s : Sys n) (i : Fin n) : Bool :=
  match (s.tourists i).pc with
  | .buySend | .buyReceive | .recordWait | .recordEntry | .recordPost | .loopTop => false
  | .closingWait | .closingRead => !s.shm.closing
  | .closingPost => !(s.tourists i).closing
  | .leaveWait | .leaveSub | .leavePost | .leaveStation => false
  | .updatePost | .rideDone | .gone => false
  | .failGate | .failGateStation | .failStation | .failPlatform => false
  | _ => true

/-- The generator has passed its tests for one more tourist, or will pass them. -/
def Generator.mayFork (g : Generator) (closing : Bool) : Bool :=
  match g.spawner with
  | .closing => !closing
  | .fork => true
  | _ => false

theorem tourist_closing {x : Nat} (h : touristMain s i x = some s') : s'.shm.closing = s.shm.closing := by
  cases hp : (s.tourists i).pc <;> simp only [touristMain,hp] at h
  case gone => cases h
  case buySend =>
    obtain ⟨-,rfl⟩ := send_cashier_map h
    rfl
  case buyReceive =>
    obtain ⟨⟨m,q⟩,-,rfl⟩ := Option.map_eq_some_iff.mp h
    dsimp only
    split <;> rfl
  case boardReceive =>
    obtain ⟨⟨m,q⟩,-,rfl⟩ := Option.map_eq_some_iff.mp h
    rfl
  case recordWait | closingWait | gateWait | stationWait | countWait | leaveWait | platformWait |
      departWait | boardWait | clearWait | clearSleep | exitWait | updateWait =>
    obtain ⟨-,rfl⟩ := sem_wait_map h
    rfl
  case loopTop | descend =>
    repeat' split at h
    all_goals
      cases h
      rfl
  case recordEntry =>
    cases h
    simp only [Sys.walk_shm,SharedState.recordEntry]
    split <;> rfl
  all_goals
    cases h
    rfl

theorem step_closing (hown : ∀ r, ownPc r (s.worker r).pc = true) (hc : s.shm.closing = true)
    (h : step s a = some s') : s'.shm.closing = true := by
  cases a with
  | worker r x =>
    cases worker_acts h with
    | calm _ hs =>
      obtain ⟨p,q,he⟩ := hs.shm
      rw [he]
      exact hc
    | lower _ hs => rwa [(lower_only hs).shm]
    | upper _ hs => rwa [(upper_only hs).shm]
  | sleep | deliver | kill =>
    obtain ⟨r,w,rfl,-⟩ := signal_record hown rfl (by simp) h
    exact hc
  | cashier =>
    by_cases hp : s.cashier.pc = .stats
    · simp only [Ropeway.step,cashierMain,hp] at h
      cases h
      exact hc
    · rwa [cashier_figures h hp]
  | cashierFail pc =>
    obtain ⟨-,rfl⟩ := cashier_fail h
    exact hc
  | tourist i x => rwa [tourist_closing h]
  | touristCont i =>
    simp only [Ropeway.step] at h
    split at h
    · obtain ⟨pc,-,rfl⟩ := Option.map_eq_some_iff.mp h
      exact hc
    · cases h
  | touristFail i =>
    obtain ⟨pc,-,rfl⟩ := Option.map_eq_some_iff.mp h
    exact hc
  | tick ms =>
    simp only [Ropeway.step] at h
    split at h
    · cases h
      exact hc
    · cases h
  | close | shutdown =>
    cases h
    first | rfl | exact hc

theorem may_ride_same (ht : s'.tourists i = s.tourists i) (hc : s.shm.closing = true → s'.shm.closing = true)
    (h : s'.mayRide i = true) : s.mayRide i = true := by
  have hclosing : (!s'.shm.closing) = true → (!s.shm.closing) = true := by
    cases hs : s.shm.closing with
    | true => simp [hc hs]
    | false => simp
  unfold Sys.mayRide at *
  rw [ht] at h
  split at h <;> first | exact hclosing h | exact h

/-- A tourist starts a round of its loop only while the ropeway runs, and gets past the test of
the station only while it is open. -/
theorem tourist_may_ride {x : Nat} (hc : s.closed = true) (h : touristMain s i x = some s')
    (hr : s'.mayRide i = true) : s.mayRide i = true := by
  have hclosing := tourist_closing h
  cases hp : (s.tourists i).pc <;> simp only [touristMain,hp] at h
  case gone => cases h
  case buySend =>
    obtain ⟨-,rfl⟩ := send_cashier_map h
    simp [Sys.mayRide] at hr
  case buyReceive =>
    obtain ⟨⟨m,q⟩,-,rfl⟩ := Option.map_eq_some_iff.mp h
    dsimp only at hr
    split at hr <;> simp [Sys.mayRide] at hr
  case recordWait | leaveWait =>
    obtain ⟨-,rfl⟩ := sem_wait_map h
    simp [Sys.mayRide] at hr
  case loopTop =>
    -- Only a station that has closed is still running.
    simp only [Sys.closed] at hc
    split at h
    · cases h
      simp [Sys.mayRide] at hr
    · rename_i hon
      split at h <;> cases h
      · simp_all [Sys.mayRide]
      · simp [Sys.mayRide] at hr
  case closingWait =>
    obtain ⟨-,rfl⟩ := sem_wait_map h
    simpa [Sys.mayRide,hp,hclosing] using hr
  case closingRead =>
    cases h
    simpa [Sys.mayRide,hp] using hr
  case closingPost =>
    cases h
    cases ht : (s.tourists i).closing with
    | false => simp [Sys.mayRide,hp,ht]
    | true => simp [Sys.mayRide,ht] at hr
  case rideDone =>
    cases h
    split at hr <;> simp [Sys.mayRide] at hr
  case recordEntry | recordPost | leaveSub | leavePost | leaveStation | updatePost | failGate |
      failGateStation | failStation | failPlatform =>
    cases h
    simp [Sys.mayRide] at hr
  all_goals simp [Sys.mayRide,hp]

theorem failure_may_ride {pc : TouristPc} (h : touristFailure (s.tourists i).data (s.tourists i).pc = some pc)
    (hr : (s.walk i pc).mayRide i = true) : s.mayRide i = true := by
  cases hp : (s.tourists i).pc <;> simp only [hp,touristFailure,reduceCtorEq,Option.some.injEq] at h
  case buySend | buyReceive | recordWait | closingWait | loopTop | leaveWait =>
    subst h
    simp [Sys.mayRide] at hr
  all_goals simp [Sys.mayRide,hp]

theorem cont_may_ride {pc : TouristPc} (h : touristInterrupted (s.tourists i).pc = some pc) :
    s.mayRide i = true := by
  cases hp : (s.tourists i).pc <;> simp only [hp,touristInterrupted,reduceCtorEq] at h
  all_goals simp [Sys.mayRide,hp]

/-- A ride is counted at one place. -/
theorem rides_noted (g : Fin n → Tally) (s : Sys n) (a : Act n) (i : Fin n) :
    (noteTally g s a i).rides = (g i).rides ∨
      (∃ x, a = .tourist i x) ∧ (s.tourists i).pc = .updateStats ∧ (noteTally g s a i).rides = (g i).rides + 1 := by
  cases a with
  | tourist j x =>
    by_cases h1 : (s.tourists j).pc = .recordEntry
    · refine .inl ?_
      simp only [noteTally,h1]
      by_cases hj : i = j
      · subst hj
        simp
      · rw [Function.update_of_ne hj]
    by_cases h2 : (s.tourists j).pc = .updateStats
    · simp only [noteTally,h2]
      by_cases hj : i = j
      · subst hj
        exact .inr ⟨⟨x,rfl⟩,h2,by simp⟩
      · exact .inl (by rw [Function.update_of_ne hj])
    · exact .inl (by rw [tally_kept h1 h2])
  | _ => exact .inl rfl

def Sys.bound (s : Sys n) (g : Fin n → Tally) (i : Fin n) : Nat := (g i).rides + (s.mayRide i).toNat

theorem bound_le (hn : (noteTally g s a i).rides = (g i).rides)
    (hm : s'.mayRide i = true → s.mayRide i = true) : s'.bound (noteTally g s a) i ≤ s.bound g i := by
  unfold Sys.bound
  rw [hn]
  cases hr : s'.mayRide i with
  | false => simp
  | true => simp [hm hr]

theorem closed_step (hown : ∀ r, ownPc r (s.worker r).pc = true) (hc : s.closed = true)
    (h : step s a = some s') (i : Fin n) : s'.bound (noteTally g s a) i ≤ s.bound g i := by
  have hclosing := fun hc => step_closing hown hc h
  rcases rides_noted g s a i with hn | ⟨⟨x,rfl⟩,hp,hn⟩
  · apply bound_le hn
    by_cases ht : s'.tourists i = s.tourists i
    · exact may_ride_same ht hclosing
    · cases a with
      | tourist j x =>
        by_cases hj : i = j
        · subst hj
          exact tourist_may_ride hc h
        · exact absurd ((tourist_only h).others i hj) ht
      | touristCont j =>
        simp only [Ropeway.step] at h
        split at h
        · obtain ⟨pc,hpc,rfl⟩ := Option.map_eq_some_iff.mp h
          by_cases hj : i = j
          · subst hj
            exact fun _ => cont_may_ride hpc
          · exact absurd (by simp [hj]) ht
        · cases h
      | touristFail j =>
        obtain ⟨pc,hpc,rfl⟩ := Option.map_eq_some_iff.mp h
        by_cases hj : i = j
        · subst hj
          exact failure_may_ride hpc
        · exact absurd (by simp [hj]) ht
      | cashier => exact absurd (congrFun (cashier_only h).tourists i) ht
      | cashierFail pc =>
        obtain ⟨-,rfl⟩ := cashier_fail h
        exact absurd rfl ht
      | worker | sleep | deliver | kill | tick | close | shutdown =>
        exact absurd (congrFun (visitors_same hown rfl h).tourists i) ht
  · -- The ride that is added now is the one that was still to come.
    simp only [Ropeway.step,touristMain,hp] at h
    cases h
    simp [Sys.bound,hn,Sys.mayRide,hp]

theorem closing_stays (hown : ∀ r, ownPc r (w.sys.worker r).pc = true) (hc : w.sys.shm.closing = true)
    (hs : w.step e = some w') : w'.sys.shm.closing = true := by
  cases world_effect hown hs with
  | acts _ hstep _ => exact step_closing hown hc hstep
  | stays _ hsame => rwa [hsame]
  | worker _ hsame =>
    rw [hsame]
    exact hc
  | cashier _ hsame =>
    rw [hsame]
    exact hc

theorem closed_stays (hown : ∀ r, ownPc r (w.sys.worker r).pc = true) (hc : w.sys.closed = true)
    (hs : w.step e = some w') : w'.sys.closed = true := by
  simp only [Sys.closed,Bool.or_eq_true,Bool.not_eq_true'] at hc ⊢
  rcases hc with hc | hoff
  · exact .inl (closing_stays hown hc hs)
  · exact .inr (running_off hown hoff hs)

/-- What happens beside the steps of the simulation proper moves no tourist and counts no ride. -/
theorem bound_step (hown : ∀ r, ownPc r (w.sys.worker r).pc = true) (hc : w.sys.closed = true)
    (hs : w.step e = some w') (i : Fin n) :
    w'.sys.bound (tallies (sysTrace (tr ++ [(w,e)]))) i ≤ w.sys.bound (tallies (sysTrace tr)) i := by
  have hsame : ∀ s' : Sys n, s'.tourists = w.sys.tourists → s'.shm.closing = w.sys.shm.closing →
      s'.bound (tallies (sysTrace tr)) i ≤ w.sys.bound (tallies (sysTrace tr)) i := by
    intro s' ht hclosing
    refine Nat.le_of_eq ?_
    unfold Sys.bound Sys.mayRide
    rw [ht,hclosing]
  cases world_effect hown hs with
  | acts ha hstep _ =>
    have hle := closed_step (g := tallies (sysTrace tr)) hown hc hstep i
    simpa [sys_trace_acts ha,tallies] using hle
  | stays ha he => rw [sys_trace_none ha,he]
  | worker ha he =>
    rw [sys_trace_none ha,he]
    exact hsame _ rfl rfl
  | cashier ha he =>
    rw [sys_trace_none ha,he]
    exact hsame _ rfl rfl

theorem may_fork_mono {b b' : Bool} (g : Generator) (h : b = true → b' = true) :
    (g.mayFork b').toNat ≤ (g.mayFork b).toNat := by
  unfold Generator.mayFork
  split
  · cases b with
    | true => simp [h]
    | false => cases b' <;> simp
  · exact Nat.le_refl _
  · exact Nat.le_refl _

theorem spawner_finds {x : Finding} (h : w.genStep e = some (.spawner x)) :
    x.running = w.sys.shm.running ∧ x.closing = w.sys.shm.closing := by
  cases e with
  | spawner ok pid =>
    cases h
    exact ⟨rfl,rfl⟩
  | term p => cases p <;> cases h
  | _ => cases h

/-- The main thread of the generator goes on while nobody is to be let in. -/
theorem spawn_may_fork {g g' : Generator} {x : Finding} (hc : x.running = true → x.closing = true)
    (h : g.spawn n x = some g') :
    (forks g (.spawner x)).length + (g'.mayFork x.closing).toNat ≤ (g.mayFork x.closing).toNat := by
  cases hp : g.spawner <;> simp only [Generator.spawn,hp,reduceCtorEq] at h
  case top =>
    split at h <;> cases h
    · rename_i hon
      simp only [Bool.and_eq_true] at hon
      simp [forks,Generator.mayFork,hp,hc hon.1.2]
    · simp [forks,Generator.mayFork,hp]
  case closing =>
    split at h <;> rename_i hx <;> cases h <;> simp [forks,Generator.mayFork,hp,hx]
  case fork =>
    split at h <;> rename_i hx <;> cases h <;> simp [forks,Generator.mayFork,hp,hx]
  case create | join =>
    split at h <;> cases h
    all_goals simp [forks,Generator.mayFork,hp]
  case stopTest =>
    cases h
    cases g.reaperRunning <;> simp [forks,Generator.mayFork,hp]
  case wait =>
    split at h
    · cases h
      simp [forks,Generator.mayFork,hp]
    · obtain ⟨c,-,rfl⟩ := Option.map_eq_some_iff.mp h
      simp [forks,Generator.mayFork,hp]
  all_goals
    cases h
    simp [forks,Generator.mayFork,hp]

def World.forkBound (w : World n) (tr : WorldTrace n) : Nat :=
  (forked (genTrace tr)).length + (w.gen.mayFork w.sys.shm.closing).toNat

theorem fork_bound_step (hown : ∀ r, ownPc r (w.sys.worker r).pc = true) (hc : w.sys.closed = true)
    (hs : w.step e = some w') : w'.forkBound (tr ++ [(w,e)]) ≤ w.forkBound tr := by
  have hmono := may_fork_mono w'.gen fun hc => closing_stays hown hc hs
  -- Where the main thread of the generator does not move.
  have hstill : forked (genTrace (tr ++ [(w,e)])) = forked (genTrace tr) → w'.gen.spawner = w.gen.spawner →
      w'.forkBound (tr ++ [(w,e)]) ≤ w.forkBound tr := by
    intro hf hg
    have hsame : w'.gen.mayFork w.sys.shm.closing = w.gen.mayFork w.sys.shm.closing := by
      unfold Generator.mayFork
      rw [hg]
    unfold World.forkBound
    rw [hf,← hsame]
    exact Nat.add_le_add_left hmono _
  rcases gen_steps hs with ⟨hnone,hsame⟩ | ⟨a,ha,hstep,-⟩
  · exact hstill (by rw [gen_trace_none hnone]) (by rw [hsame])
  · have hf : forked (genTrace (tr ++ [(w,e)])) = forked (genTrace tr) ++ forks w.gen a := by
      rw [gen_trace_some ha,forked_snoc]
    cases a with
    | spawner x =>
      obtain ⟨hrunning,hclosing⟩ := spawner_finds ha
      have hle := spawn_may_fork (fun hon => by simpa [Sys.closed,← hrunning,← hclosing,hon] using hc) hstep
      rw [hclosing] at hle
      unfold World.forkBound
      rw [hf,List.length_append]
      omega
    | reaper own pid =>
      exact hstill (by rw [hf]; exact List.append_nil _) (reap_moves hstep).spawner
    | exit pid =>
      obtain ⟨c,-,hg⟩ := Option.map_eq_some_iff.mp hstep
      exact hstill (by rw [hf]; exact List.append_nil _) (by rw [← hg])
    | sigterm =>
      exact hstill (by rw [hf]; exact List.append_nil _) (by rw [← Option.some.inj hstep])

/-- Once the station has closed, or the ropeway has stopped, whatever happens then each tourist
adds at most the ride it is in the middle of, and the generator starts at most one more tourist. -/
theorem closed_station (h : WorldRuns anyEvent u tr w) (hc : w.sys.closed = true) {post : WorldTrace n}
    (h' : Lib.Run World.step anyEvent w post w') :
    (∀ i, (tallies (sysTrace (tr ++ post)) i).rides ≤ (tallies (sysTrace tr) i).rides + (w.sys.mayRide i).toNat) ∧
      (forked (genTrace (tr ++ post))).length ≤
        (forked (genTrace tr)).length + (w.gen.mayFork w.sys.shm.closing).toNat := by
  have hrun : (∀ r, ownPc r (w'.sys.worker r).pc = true) ∧ w'.sys.closed = true ∧
      (∀ i, w'.sys.bound (tallies (sysTrace (tr ++ post))) i ≤ w.sys.bound (tallies (sysTrace tr)) i) ∧
        w'.forkBound (tr ++ post) ≤ w.forkBound tr := by
    refine h'.invariant (fun l v => (∀ r, ownPc r (v.sys.worker r).pc = true) ∧ v.sys.closed = true ∧
      (∀ i, v.sys.bound (tallies (sysTrace (tr ++ l))) i ≤ w.sys.bound (tallies (sysTrace tr)) i) ∧
        v.forkBound (tr ++ l) ≤ w.forkBound tr) ?_ ?_
    · rw [List.append_nil]
      exact ⟨run_own h,hc,fun _ => Nat.le_refl _,Nat.le_refl _⟩
    · intro l v e v' hi _ hs
      obtain ⟨hown,hcl,hb,hf⟩ := hi
      rw [← List.append_assoc]
      exact ⟨effect_own hown (world_effect hown hs),closed_stays hown hcl hs,
        fun i => (bound_step hown hcl hs i).trans (hb i),(fork_bound_step hown hcl hs).trans hf⟩
  obtain ⟨-,-,hb,hf⟩ := hrun
  refine ⟨fun i => ?_,?_⟩
  · exact (Nat.le_add_right _ _).trans (hb i)
  · exact (Nat.le_add_right _ _).trans hf

/-- The only tourist is on its chair when the simulated time is over. -/
def closingRide : List (Event 1) :=
  launch ++ spawnerSteps 6 ++ acts (rideAlone 0) ++ [.time 100000000] ++ mains 3

theorem closed_station_ride : ∃ tr w post w', WorldRuns anyEvent (sample 1) tr w ∧ w.sys.shm.closing = true ∧
    Lib.Run World.step anyEvent w post w' ∧ (tallies (sysTrace tr) 0).rides = 0 ∧
      (tallies (sysTrace (tr ++ post)) 0).rides = 1 ∧
      (forked (genTrace (tr ++ post))).length ≤
        (forked (genTrace tr)).length + (w.gen.mayFork w.sys.shm.closing).toNat := by
  have hr : worldReaches anyEvent (sample 1) closingRide (fun tr w => w.sys.shm.closing &&
      (tallies (sysTrace tr) 0).rides == 0 &&
        (Lib.exec World.step anyEvent [] (acts (walks 0 8)) w).any
          (fun p => (tallies (sysTrace (tr ++ p.1)) 0).rides == 1)) = true := by decide +kernel
  obtain ⟨tr,w,h,ht⟩ := exists_world_run hr
  simp only [Bool.and_eq_true,beq_iff_eq] at ht
  obtain ⟨post,w',h',ht'⟩ := Lib.exists_run (acts (walks 0 8))
    (fun l _ => (tallies (sysTrace (tr ++ l)) 0).rides == 1) ht.2
  exact ⟨tr,w,post,w',h,ht.1.1,h',ht.1.2,by simpa using ht',(closed_station h (by simp [Sys.closed,ht.1.1]) h').2⟩

end Ropeway
