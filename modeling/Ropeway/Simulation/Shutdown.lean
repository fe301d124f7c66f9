import Ropeway.Simulation.Descent
import Ropeway.Simulation.Timers

/-! The shutdown comes to an end: until the main process has exited somebody can take a step,
and only so many steps are left. -/

namespace Ropeway
open Function (update)
open Ipc (Obj)

variable {n : Nat} {s s' : Sys n} {w w' : World n} {e : Event n} {u : Setup n} {tr : WorldTrace n}

/-- Somebody can take a step that needs no signal. -/
def World.Moves (w : World n) : Prop := ∃ e, w.own e = true ∧ (w.step e).isSome = true

theorem act_moves {a : Act n} (ho : w.own (.act a) = true) (ha : w.allows a)
    (hs : (step w.sys a).isSome = true) : w.Moves := by
  refine ⟨.act a,ho,?_⟩
  simp only [World.step]
  rw [if_pos ha]
  simpa using hs

/-- A call of a worker is on an object that the shutdown removes, and can fail. -/
theorem worker_call {r : Role} {o : Obj} (h : workerCall s (s.worker r).pc = some o) :
    o ∈ shutdownOrder ∧ (workerFailure s r .eidrm).isSome = true := by
  cases hp : (s.worker r).pc with
  | trigger p | ack p | resume p | upper p =>
    cases p <;> simp only [hp,workerCall,reduceCtorEq] at h
    all_goals
      cases h
      exact ⟨by decide,by simp [workerFailure,hp]⟩
  | lower p =>
    cases p <;> simp only [hp,workerCall,reduceCtorEq] at h
    case dispatchWait site | dispatchSend site i =>
      split at h <;> cases h
      exact ⟨by decide,by simp [workerFailure,hp,lowerFailure]⟩
    all_goals
      cases h
      exact ⟨by decide,by simp [workerFailure,hp,lowerFailure]⟩
  | _ => simp [hp,workerCall] at h

/-- Without such a call a worker goes on at once, unless it has returned or is in `pause()`. -/
theorem worker_free {r : Role} (h : workerCall s (s.worker r).pc = none) (hx : (s.worker r).pc ≠ .exited)
    (hp : (s.worker r).pc ≠ .pause) : (workerStep s r 0).isSome = true := by
  cases hpc : (s.worker r).pc with
  | exited => exact absurd hpc hx
  | pause => exact absurd hpc hp
  | danger => simp [workerStep,hpc]
  | trigger p | ack p | resume p =>
    cases p <;> simp only [hpc,workerCall,reduceCtorEq] at h
    all_goals
      simp only [workerStep,hpc]
      rfl
  | upper p =>
    cases p <;> simp only [hpc,workerCall,reduceCtorEq] at h
    case track =>
      simp only [workerStep,hpc,upperWorkerMain]
      repeat' split
      all_goals rfl
    case release => simp [workerStep,hpc,upperWorkerMain]
  | lower p =>
    cases p <;> simp only [hpc,workerCall,reduceCtorEq] at h <;> simp only [workerStep,hpc,lowerWorkerMain]
    case checkRead | arm | recheckRead => rfl
    case checkPost | recheckPost | place =>
      repeat' split
      all_goals rfl
    case dispatchWait site =>
      split at h
      · rename_i hnone
        simp [hnone]
      · cases h
    case dispatchSend site i =>
      split at h
      · cases h
      · rename_i hi
        simp [List.getElem?_eq_none (Nat.le_of_not_lt hi)]
  | top | checkResume | checkInitiator | pauseArm =>
    simp only [workerStep,hpc,workerLoopHead]
    repeat' split
    all_goals rfl

/-- Everything `shutdown_workers` removes is gone. -/
def World.Bare (w : World n) : Prop := ∀ o ∈ shutdownOrder, o ∈ w.removed

theorem worker_moves {r : Role} (hb : w.Bare) (ha : Armed w.sys)
    (hup : w.up (.worker r)) (hx : (w.sys.worker r).pc ≠ .exited) : w.Moves := by
  cases hc : workerCall w.sys (w.sys.worker r).pc with
  | some o =>
    obtain ⟨ho,hf⟩ := worker_call hc
    refine ⟨.fail r .eidrm,rfl,?_⟩
    simp only [World.step]
    rw [if_pos ⟨hup,by simpa [hc,World.answers] using hb o ho⟩]
    simpa using hf
  | none =>
    have hans : w.answers (workerCall w.sys (w.sys.worker r).pc) := by simp [hc,World.answers]
    by_cases hp : (w.sys.worker r).pc = .pause
    · cases has : (w.sys.worker r).asleep with
      | true =>
        refine act_moves (a := .deliver r .alrm) (by simp [World.own,hp,has]) hup ?_
        simp [step,deliverSignal,handler,ha r hp]
      | false =>
        refine act_moves (a := .sleep r) (by simp [World.own,hp]) ⟨hup,hans⟩ ?_
        simp [step,hp,has,workerStep,workerLoopHead]
    · by_cases hq : (w.sys.worker r).pc = .top ∧ .worker r ∈ w.term
      · refine ⟨.quit r,rfl,?_⟩
        simp only [World.step]
        rw [if_pos ⟨hup,hq⟩]
        rfl
      · exact act_moves (a := .worker r 0) rfl ⟨hup,hans,fun ht hm => hq ⟨ht,hm⟩⟩ (worker_free hc hx hp)

theorem cashier_moves (hb : w.Bare) (hoff : w.sys.shm.running = false) (hup : w.up .cashier)
    (hx : w.sys.cashier.pc ≠ .exited) : w.Moves := by
  have hq : .cashier ∈ w.removed := hb _ (by decide)
  have hs : .sem ∈ w.removed := hb _ (by decide)
  cases hp : w.sys.cashier.pc with
  | exited => exact absurd hp hx
  | top =>
    by_cases ht : .cashier ∈ w.term
    · refine act_moves (a := .cashierFail .exited) (by simp [World.own,hp]) ⟨hup,fun _ => ht,?_,?_⟩ ?_
      · simp [hp]
      · simp [hp]
      · simp [step,hp,cashierFailures]
    · refine act_moves (a := .cashier) rfl ⟨hup,?_,fun _ => ht⟩ ?_
      · simp [hp,cashierCall,World.answers]
      · simp [step,cashierMain,hp,hoff]
  | receive | send | refuse =>
    refine act_moves (a := .cashierFail .exited) ?_ ⟨hup,?_,?_,fun _ _ => hq⟩ ?_
    · simp [World.own,hp,cashierCall,World.answers,hq]
    · simp [hp]
    · simp [hp]
    · simp [step,hp,cashierFailures]
  | statsWait =>
    refine act_moves (a := .cashierFail .top) ?_ ⟨hup,?_,fun _ => hs,?_⟩ ?_
    · simp [World.own,hp,cashierCall,World.answers,hs]
    · simp [hp]
    · simp
    · simp [step,hp,cashierFailures]
  | recheck | stats | statsPost =>
    refine act_moves (a := .cashier) rfl ⟨hup,?_,?_⟩ ?_
    · simp [hp,cashierCall,World.answers]
    · simp [hp]
    · simp only [step,cashierMain,hp]
      repeat' split
      all_goals rfl

theorem tourist_call {pc : TouristPc} {o : Obj} (h : touristCall pc = some o) (d : TouristData) :
    o ∈ shutdownOrder ∧ (touristFailure d pc).isSome = true := by
  cases pc <;> simp [touristCall,touristInSemop] at h
  all_goals
    subst h
    exact ⟨by decide,rfl⟩

theorem tourist_free {i : Fin n} (h : touristCall (s.tourists i).pc = none) (hx : (s.tourists i).pc ≠ .gone) :
    (touristMain s i 0).isSome = true := by
  cases hp : (s.tourists i).pc <;> rw [hp] at h <;> simp [touristCall,touristInSemop] at h
  case gone => exact absurd hp hx
  all_goals
    simp only [touristMain,hp]
    repeat' split
    all_goals rfl

theorem tourist_process_moves {i : Fin n} (hb : w.Bare) (hl : touristId i ∈ w.gen.children.living) : w.Moves := by
  by_cases hx : (w.sys.tourists i).pc = .gone
  · refine ⟨.leave i,rfl,?_⟩
    simp only [World.step]
    rw [if_pos hx]
    simp [Lib.Children.exit,hl]
  · cases hc : touristCall (w.sys.tourists i).pc with
    | some o =>
      obtain ⟨ho,hf⟩ := tourist_call hc (w.sys.tourists i).data
      refine act_moves (a := .touristFail i) ?_ ⟨hl,fun _ => hb _ (by decide)⟩ ?_
      · simpa [World.own,hc,World.answers] using hb o ho
      · simpa [step] using hf
    | none =>
      exact act_moves (a := .tourist i 0) rfl ⟨hl,by simp [hc,World.answers]⟩ (tourist_free hc hx)

/-- The children of the generator are the tourists. -/
theorem generator_child {gtr : GeneratorTrace} {g : Generator} (h : GeneratorRuns n gtr g) {k : Nat}
    (hk : k ∈ g.children.living) : ∃ i : Fin n, touristId i = k := by
  have hf := run_family h
  have hmem : k ∈ forked gtr :=
    hf.perm.mem_iff.mpr (List.mem_append_right _ (List.mem_append_left _ hk))
  have hids := hf.ids k hmem
  have hbound := hf.bound
  unfold Generator.fresh at hids
  have hlt : k - 1 < n := by
    split at hids <;> omega
  exact ⟨⟨k - 1,hlt⟩,by simp [touristId]; omega⟩

theorem spawner_moves (ok : Bool) (pid : Nat) (hup : w.up .generator)
    (hs : (w.gen.spawn n ⟨w.sys.shm.running,w.sys.shm.closing,ok,pid⟩).isSome = true) : w.Moves := by
  refine ⟨.spawner ok pid,rfl,?_⟩
  simp only [World.step]
  rw [if_pos hup]
  simpa using hs

theorem reaper_moves (own : Bool) (pid : Nat) (hup : w.up .generator)
    (hs : (w.gen.reap own pid).isSome = true) : w.Moves := by
  refine ⟨.reaper own pid,rfl,?_⟩
  simp only [World.step]
  rw [if_pos hup]
  simpa using hs

/-- A reaper thread that has been told to stop gets to its end. -/
theorem reaper_ends (hup : w.up .generator) (ha : w.gen.reaper ≠ .absent) (hd : w.gen.reaper ≠ .done)
    (hw : w.gen.reaper = .sigwait → w.gen.wakeup = true) : w.Moves := by
  cases hp : w.gen.reaper with
  | absent => exact absurd hp ha
  | done => exact absurd hp hd
  | test | check | sub => exact reaper_moves true 0 hup (by simp [Generator.reap,hp])
  | sigwait => exact reaper_moves true 0 hup (by simp [Generator.reap,hp,hw hp])
  | waitpid =>
    by_cases hz : w.gen.children.zombies = []
    · exact reaper_moves true 0 hup (by simp [Generator.reap,hp,hz])
    · obtain ⟨k,c,hc⟩ := Lib.Children.exists_reap hz
      exact reaper_moves true k hup (by simp [Generator.reap,hp,hz,hc])

theorem generator_moves {gtr : GeneratorTrace} (hg : GeneratorRuns n gtr w.gen) (hb : w.Bare)
    (hup : w.up .generator) (hx : w.gen.spawner ≠ .returned) : w.Moves := by
  have hst := (run_generator hg).1
  cases hp : w.gen.spawner with
  | returned => exact absurd hp hx
  | join =>
    simp only [Generator.Stage,hp] at hst
    by_cases hd : w.gen.reaper = .done
    · exact spawner_moves true 0 hup (by simp [Generator.spawn,hp,hd])
    · exact reaper_ends hup hst.2.1 hd hst.2.2.1
  | wait =>
    by_cases hnone : w.gen.children.all = []
    · exact spawner_moves true 0 hup (by simp [Generator.spawn,hp,hnone])
    · by_cases hz : w.gen.children.zombies = []
      · have hl : w.gen.children.living ≠ [] := by
          intro hl
          exact hnone (by simp [Lib.Children.all,hl,hz])
        obtain ⟨k,hk⟩ := List.exists_mem_of_ne_nil _ hl
        obtain ⟨i,rfl⟩ := generator_child hg hk
        exact tourist_process_moves hb hk
      · obtain ⟨k,c,hc⟩ := Lib.Children.exists_reap hz
        exact spawner_moves true k hup (by simp [Generator.spawn,hp,hnone,hc])
  | _ =>
    refine spawner_moves true 0 hup ?_
    simp only [Generator.spawn,hp]
    repeat' split
    all_goals rfl

theorem time_moves (hup : w.up .timeServer) (hx : w.timeServer ≠ .exited) : w.Moves := by
  refine ⟨.time w.sys.shm.currentSimTimeMs,rfl,?_⟩
  simp only [World.step]
  rw [if_pos hup]
  cases hp : w.timeServer with
  | exited => exact absurd hp hx
  | firstUpdate | update => simp [World.timeStep,hp,step]
  | pause => simp [World.timeStep,hp]
  | top =>
    simp only [World.timeStep,hp]
    split <;> rfl

/-- A living child is on its way. -/
theorem child_moves {gtr : GeneratorTrace} (hg : GeneratorRuns n gtr w.gen) (hb : w.Bare) (ha : Armed w.sys)
    (hoff : w.sys.shm.running = false) {p : Child} (hl : p ∈ w.children.living) : w.Moves := by
  by_cases hx : w.ended p
  · refine ⟨.exit p,rfl,?_⟩
    simp only [World.step]
    rw [if_pos hx]
    simp [Lib.Children.exit,hl]
  · by_cases hup : w.up p
    · cases p with
      | timeServer => exact time_moves hup hx
      | cashier => exact cashier_moves hb hoff hup hx
      | worker r => exact worker_moves hb ha hup hx
      | generator => exact generator_moves hg hb hup hx
    · have hnew : p ∉ w.booted := fun hm => hup ⟨hl,.inr hm⟩
      have hstaff : p ∈ staff := by
        cases p with
        | generator => exact absurd ⟨hl,.inl rfl⟩ hup
        | worker r => cases r <;> decide
        | _ => decide
      refine ⟨.boot p true,rfl,?_⟩
      simp only [World.step]
      rw [if_pos ⟨hl,hstaff,hnew,hx⟩]
      rfl

/-- While `main` is shutting down somebody moves. -/
theorem shutdown_moves (h : WorldRuns timersHeld u tr w) (hm : w.main.stopping = true)
    (hx : w.main ≠ .exited) : w.Moves := by
  have hc := run_course h
  have hoff := hc.stopped hm
  have hg := run_gen h
  cases hh : w.handler with
  | cons o rest => exact ⟨.main true .cashier,rfl,by simp [World.step,World.mainNext,hh]⟩
  | nil =>
    cases hp : w.main <;> simp only [hp,MainPlace.stopping,reduceCtorEq] at hm
    case exited => exact absurd hp hx
    case kill rest | rmid rest =>
      refine ⟨.main true .cashier,rfl,?_⟩
      cases rest <;> simp [World.step,World.mainNext,hh,World.mainStep,hp]
    case report | destroy =>
      exact ⟨.main true .cashier,rfl,by simp [World.step,World.mainNext,hh,World.mainStep,hp]⟩
    case wait =>
      by_cases hnone : w.children.all = []
      · exact ⟨.main true .cashier,rfl,by simp [World.step,World.mainNext,hh,World.mainStep,hp,hnone]⟩
      · by_cases hz : w.children.zombies = []
        · have hl : w.children.living ≠ [] := by
            intro hl
            exact hnone (by simp [Lib.Children.all,hl,hz])
          obtain ⟨p,hpl⟩ := List.exists_mem_of_ne_nil _ hl
          simp only [World.Course,hp] at hc
          exact child_moves hg hc.2 (run_armed h) hoff hpl
        · obtain ⟨p,c,hpc⟩ := Lib.Children.exists_reap hz
          exact ⟨.main true p,rfl,by simp [World.step,World.mainNext,hh,World.mainStep,hp,hnone,hpc]⟩

/-- The timers run out only where they may. -/
theorem own_held (h : w.own e = true) : timersHeld tr w e = true := by
  unfold timersHeld
  split
  · simp only [World.own,Bool.and_eq_true] at h
    simp [h.2]
  · rfl

theorem own_credit (h : w.own e = true) : e.credit = 0 := by
  unfold Event.credit
  split
  · cases h
  · rfl

theorem run_rank (h : WorldRuns timersHeld u tr w) (hm : w.main.stopping = true) (hs : w.step e = some w') :
    w'.rank + (w.own e).toNat ≤ w.rank + e.credit := by
  have hg := run_gen h
  have hst := (run_generator hg).1
  refine world_rank (run_own h) ((run_course h).stopped hm) hm ?_ hs
  intro hp
  simp only [Generator.Stage,hp] at hst
  exact hst.1

/-- The rest of a run that is shutting down. -/
theorem rest_shuts_down (h : WorldRuns timersHeld u tr w) (hm : w.main.stopping = true) {post : WorldTrace n}
    (h' : Lib.Run World.step timersHeld w post w') :
    WorldRuns timersHeld u (tr ++ post) w' ∧ w'.main.stopping = true := by
  refine ⟨h.append h',?_⟩
  refine h'.invariant (fun _ w => w.main.stopping = true) hm ?_
  intro _ w e w' hi _ hs
  exact stopping_stays hi hs

/-- The programs can go on to the end by themselves. -/
theorem shutdown_ends {env : WorldEnv n} (henv : ∀ l v e, v.own e = true → env l v e = true)
    (h : WorldRuns timersHeld u tr w) (hm : w.main.stopping = true) :
    ∃ post w', Lib.Run World.step env w post w' ∧ w'.main = .exited := by
  have hstart : WorldRuns timersHeld u (tr ++ []) w := by simpa using h
  refine Lib.Run.completes (fun l v => WorldRuns timersHeld u (tr ++ l) v ∧ v.main.stopping = true)
    World.rank (fun v => v.main = .exited) ?_ ⟨hstart,hm⟩ .nil
  rintro l v ⟨hv,hmv⟩ hx
  obtain ⟨e,he,hsome⟩ := shutdown_moves hv hmv hx
  obtain ⟨v',hs⟩ := Option.isSome_iff_exists.mp hsome
  have hlt := run_rank hv hmv hs
  rw [he,own_credit he] at hlt
  refine ⟨e,v',henv l v e he,hs,⟨?_,stopping_stays hmv hs⟩,hlt⟩
  rw [← List.append_assoc]
  exact hv.snoc (own_held he) hs

/-- From the moment `main` has set `running = 0` the whole program gets to its end in every
schedule that keeps to `timersHeld` (no worker's `ualarm` runs out before it sleeps in `pause`):
`rank` steps are left and seven more for each further SIGTERM or SIGINT of `main` (`credit`: the
calls of its handler), and when nobody can move any more `main` has exited. -/
theorem shutdown_completes (h : WorldRuns timersHeld u tr w) (hm : w.main.stopping = true) :
    (∀ post w', Lib.Run World.step timersHeld w post w' →
      post.countP (fun q => q.1.own q.2) ≤ w.rank + (post.map fun q => q.2.credit).sum ∧
        ((∀ e, w'.own e = true → w'.step e = none) → w'.main = .exited)) ∧
      ∃ post w', Lib.Run World.step timersHeld w post w' ∧ w'.main = .exited := by
  refine ⟨?_,?_⟩
  · intro post w' h'
    refine ⟨?_,?_⟩
    · have hcount := h'.count_le (fun v => ∃ tr, WorldRuns timersHeld u tr v ∧ v.main.stopping = true)
        World.rank World.own Event.credit ?_ ⟨tr,h,hm⟩
      · omega
      · rintro l v e v' ⟨tr,hv,hmv⟩ held hs
        exact ⟨⟨_,hv.snoc held hs,stopping_stays hmv hs⟩,run_rank hv hmv hs⟩
    · intro hstuck
      by_contra hx
      obtain ⟨hrun,hstop⟩ := rest_shuts_down h hm h'
      obtain ⟨e,he,hsome⟩ := shutdown_moves hrun hstop hx
      simp [hstuck e he] at hsome
  · exact shutdown_ends (fun _ _ _ he => own_held he) h hm

/-- The first tourist has had its ride when `main` gets SIGTERM; it removes the objects in its
handler and goes on to `shutdown_workers`. -/
def stopRide : List (Event 1) := firstRide ++ [.mainSignal .term] ++ mains 9

theorem shutdown_completes_ride : ∃ tr w, WorldRuns timersHeld (sample 1) tr w ∧ w.main.stopping = true ∧
    w.gen.children.living = [1] ∧ w.children.living.length = 5 ∧
      ∃ post w', Lib.Run World.step timersHeld w post w' ∧ w'.main = .exited := by
  have hr : worldReaches timersHeld (sample 1) stopRide (fun _ w =>
      w.main.stopping && w.gen.children.living == [1] && w.children.living.length == 5) = true := by
    decide +kernel
  obtain ⟨tr,w,h,ht⟩ := exists_world_run hr
  simp only [Bool.and_eq_true,beq_iff_eq] at ht
  exact ⟨tr,w,h,ht.1.1,ht.1.2,ht.2,(shutdown_completes h ht.1.1).2⟩

/-- When `main` has exited every object is removed, every child it forked has returned and been
waited for, and so has every tourist the generator forked. -/
theorem exited_clean (h : WorldRuns anyEvent u tr w) (hx : w.main = .exited) :
    (∀ o, o ∈ w.removed) ∧ w.children.all = [] ∧ (∀ p ∈ w.spawned, w.ended p) ∧
      (reaped (genTrace tr)).Perm (forked (genTrace tr)) ∧
        ∀ i, touristId i ∈ forked (genTrace tr) → (w.sys.tourists i).pc = .gone := by
  have hc := run_course h
  simp only [World.Course,hx] at hc
  obtain ⟨-,hgen,-⟩ := nobody_left h hc.2.2
  refine ⟨hc.2.1,hc.2.2,?_,?_,?_⟩
  · intro p hp
    rcases (run_roster h).spawned p hp with hl | hend
    · simp [(List.append_eq_nil_iff.mp hc.2.2).1] at hl
    · exact hend
  · have hperm := (run_family (run_gen h)).perm
    rw [hgen,List.append_nil] at hperm
    exact hperm.symm
  · intro i hi
    rcases (run_begun h i).started hi with hl | hgone
    · simp [(List.append_eq_nil_iff.mp hgen).1] at hl
    · exact hgone

def homeward : List (Event 1) :=
  mains 13 ++ acts [.touristFail 0, .cashier, .worker .lower 0, .worker .lower 0, .worker .upper 0] ++
    [.leave 0, .time 100000000, .time 100000000] ++ spawnerSteps 4 ++ [.reaper false 0] ++ spawnerSteps 4 ++
      (staff ++ [Child.generator]).map .exit ++ (staff ++ [Child.generator]).map (.main true) ++ mains 3

theorem exited_clean_ride : ∃ tr w, WorldRuns anyEvent (sample 1) tr w ∧ w.main = .exited ∧
    forked (genTrace tr) = [1] ∧ (reaped (genTrace tr)).Perm [1] ∧ (w.sys.tourists 0).pc = .gone := by
  have hr : worldReaches anyEvent (sample 1) (stopRide ++ homeward) (fun tr w =>
      w.main == .exited && forked (genTrace tr) == [1]) = true := by decide +kernel
  obtain ⟨tr,w,h,ht⟩ := exists_world_run hr
  simp only [Bool.and_eq_true,beq_iff_eq] at ht
  obtain ⟨-,-,-,hperm,hgone⟩ := exited_clean h ht.1
  refine ⟨tr,w,h,ht.1,ht.2,ht.2 ▸ hperm,hgone 0 ?_⟩
  rw [ht.2]
  decide

end Ropeway
