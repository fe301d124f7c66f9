import Ropeway.Simulation.Course
import Ropeway.Reaper

/-! The children of the main process: who has been forked, who has returned, and what those
have done that were never started. -/

namespace Ropeway
open Function (update)

variable {n : Nat} {w w' : World n} {e : Event n} {u : Setup n} {tr : WorldTrace n}

/-- The cashier does not come back. -/
theorem cashier_gone (hown : ∀ r, ownPc r (w.sys.worker r).pc = true) (hx : w.sys.cashier.pc = .exited)
    (h : w.step e = some w') : w'.sys.cashier.pc = .exited := by
  cases world_effect hown h with
  | @acts a _ hs _ =>
    by_cases hv : a.visitor = true
    · cases a with
      | cashier => simp [step,cashierMain,hx] at hs
      | cashierFail pc =>
        have hmem := (cashier_fail hs).1
        rw [hx] at hmem
        cases hmem
      | tourist i x =>
        rw [(tourist_only hs).cashier]
        exact hx
      | touristCont i =>
        simp only [step] at hs
        split at hs
        · obtain ⟨pc,-,he⟩ := Option.map_eq_some_iff.mp hs
          rw [← he]
          exact hx
        · cases hs
      | touristFail i =>
        obtain ⟨pc,-,he⟩ := Option.map_eq_some_iff.mp hs
        rw [← he]
        exact hx
      | _ => cases hv
    · rw [(visitors_same hown (by simpa using hv) hs).cashier]
      exact hx
  | stays _ hs =>
    rw [hs]
    exact hx
  | worker _ hs =>
    rw [hs]
    exact hx
  | cashier _ hs => rw [hs]; rfl

/-- Nor does a worker. -/
theorem worker_gone {r : Role} (hown : ∀ r, ownPc r (w.sys.worker r).pc = true)
    (hx : (w.sys.worker r).pc = .exited) (h : w.step e = some w') : (w'.sys.worker r).pc = .exited := by
  cases world_effect hown h with
  | @acts a _ hs _ =>
    by_cases ho : a.outside = true
    · rw [(outside_same ho hs).worker]
      exact hx
    · by_cases hw : ∃ q x, a = .worker q x
      · obtain ⟨q,x,rfl⟩ := hw
        rcases q.eq_or_other r with rfl | rfl
        · simp [step,workerStep,hx] at hs
        · obtain ⟨b,c,hpeer⟩ := worker_peer (hown q) hs
          rw [hpeer]
          exact hx
      · obtain ⟨q,k,he,hpc,-⟩ := signal_record hown (by simpa using ho) (fun q x he => hw ⟨q,x,he⟩) hs
        rw [he]
        by_cases hq : r = q
        · subst hq
          rcases hpc with hpc | hpc <;> simp [hpc,hx,wakePc]
        · simpa [hq] using hx
  | stays _ hs =>
    rw [hs]
    exact hx
  | @worker q k l _ hs _ _ hk =>
    rw [hs]
    by_cases hq : r = q
    · subst hq
      simpa using hk hx
    · simpa [hq] using hx
  | cashier _ hs =>
    rw [hs]
    exact hx

def World.genStep (w : World n) : Event n → Option GeneratorStep
  | .spawner ok pid => some (.spawner ⟨w.sys.shm.running, w.sys.shm.closing, ok, pid⟩)
  | .reaper own pid => some (.reaper own pid)
  | .leave i => some (.exit (touristId i))
  | .term .generator => some .sigterm
  | _ => none

def genTrace (tr : WorldTrace n) : GeneratorTrace :=
  Lib.history (fun l w e => l ++ ((w.genStep e).map fun a => (w.gen,a)).toList) [] tr

theorem gen_trace_some {a : GeneratorStep} (h : w.genStep e = some a) :
    genTrace (tr ++ [(w,e)]) = genTrace tr ++ [(w.gen,a)] := by
  simp [genTrace,h]

theorem gen_trace_none (h : w.genStep e = none) : genTrace (tr ++ [(w,e)]) = genTrace tr := by
  simp [genTrace,h]

/-- What happens to the generator is a step of its own; a tourist process ends only when its
program has. -/
theorem gen_steps (h : w.step e = some w') :
    w.genStep e = none ∧ w'.gen = w.gen ∨ ∃ a, w.genStep e = some a ∧ generatorStep n w.gen a = some w'.gen ∧
      (∀ k, a = .exit k → ∃ i, k = touristId i ∧ (w.sys.tourists i).pc = .gone) ∧
        (w.up .generator ∨ ∃ k, a = .exit k) := by
  cases he : e.ofMain with
  | true =>
    refine .inl ⟨?_,(main_only he h).gen⟩
    cases e <;> first | rfl | cases he
  | false =>
    cases e with
    | main | mainSleep | mainSignal => cases he
    | spawner ok pid =>
      simp only [World.step] at h
      split at h
      · obtain ⟨g,hg,rfl⟩ := Option.map_eq_some_iff.mp h
        exact .inr ⟨_,rfl,hg,by simp,.inl ‹_›⟩
      · cases h
    | reaper own pid =>
      simp only [World.step] at h
      split at h
      · obtain ⟨g,hg,rfl⟩ := Option.map_eq_some_iff.mp h
        exact .inr ⟨_,rfl,hg,by simp,.inl ‹_›⟩
      · cases h
    | leave i =>
      simp only [World.step] at h
      split at h
      · rename_i hgone
        obtain ⟨c,hc,rfl⟩ := Option.map_eq_some_iff.mp h
        refine .inr ⟨_,rfl,by simp [generatorStep,hc],?_,.inr ⟨_,rfl⟩⟩
        intro k hk
        exact ⟨i,(GeneratorStep.exit.inj hk).symm,hgone⟩
      · cases h
    | term p =>
      simp only [World.step] at h
      split at h
      · cases h
        cases p with
        | generator => exact .inr ⟨.sigterm,rfl,rfl,by simp,.inl ‹_›⟩
        | _ => exact .inl ⟨rfl,rfl⟩
      · cases h
    | boot p ok =>
      simp only [World.step] at h
      split at h
      · cases h
        unfold World.bootChild
        split
        · exact .inl ⟨rfl,rfl⟩
        · cases p <;> exact .inl ⟨rfl,rfl⟩
      · cases h
    | quit r =>
      simp only [World.step] at h
      split at h <;> cases h
      exact .inl ⟨rfl,rfl⟩
    | time ms =>
      simp only [World.step] at h
      split at h
      · cases hp : w.timeServer <;> simp only [World.timeStep,hp,reduceCtorEq] at h
        case firstUpdate | update =>
          obtain ⟨s,-,rfl⟩ := Option.map_eq_some_iff.mp h
          exact .inl ⟨rfl,rfl⟩
        all_goals
          try split at h
          all_goals
            cases h
            exact .inl ⟨rfl,rfl⟩
      · cases h
    | act | fail | exit =>
      simp only [World.step] at h
      split at h
      · obtain ⟨g,-,rfl⟩ := Option.map_eq_some_iff.mp h
        exact .inl ⟨rfl,rfl⟩
      · cases h

theorem gen_run_step (h : GeneratorRuns n (genTrace tr) w.gen) (hs : w.step e = some w') :
    GeneratorRuns n (genTrace (tr ++ [(w,e)])) w'.gen := by
  rcases gen_steps hs with ⟨hnone,hsame⟩ | ⟨a,ha,hstep,-⟩
  · rw [gen_trace_none hnone,hsame]
    exact h
  · rw [gen_trace_some ha]
    exact h.snoc rfl hstep

/-- The generator is in one of its own runs. -/
theorem run_gen {env : WorldEnv n} (h : WorldRuns env u tr w) : GeneratorRuns n (genTrace tr) w.gen :=
  world_invariant (fun tr w => GeneratorRuns n (genTrace tr) w.gen) .nil
    (fun _ _ _ _ _ hi _ hs => gen_run_step hi hs) h

/-- A generator that has returned stays so. -/
theorem returned_stays {g g' : Generator} {a : GeneratorStep} (hr : g.spawner = .returned)
    (h : generatorStep n g a = some g') : g'.spawner = .returned := by
  cases a with
  | spawner x => simp [generatorStep,Generator.spawn,hr] at h
  | reaper own pid => exact (reap_moves h).spawner.trans hr
  | exit pid =>
    obtain ⟨c,-,rfl⟩ := Option.map_eq_some_iff.mp h
    exact hr
  | sigterm =>
    cases h
    exact hr

theorem time_gone (hx : w.timeServer = .exited) (h : w.step e = some w') : w'.timeServer = .exited := by
  cases he : e.ofMain with
  | true => exact (main_only he h).timeServer.trans hx
  | false =>
    cases e with
    | main | mainSleep | mainSignal => cases he
    | time ms =>
      simp only [World.step] at h
      split at h
      · simp [World.timeStep,hx] at h
      · cases h
    | boot p ok =>
      simp only [World.step] at h
      split at h
      · cases h
        unfold World.bootChild
        split
        · exact hx
        · cases p <;> first | rfl | exact hx
      · cases h
    | term p =>
      simp only [World.step] at h
      split at h
      · cases h
        cases p <;> exact hx
      · cases h
    | quit r =>
      simp only [World.step] at h
      split at h <;> cases h
      exact hx
    | act | fail | spawner | reaper | exit | leave =>
      simp only [World.step] at h
      split at h
      · obtain ⟨g,-,rfl⟩ := Option.map_eq_some_iff.mp h
        exact hx
      · cases h

/-- A child whose main function has returned does nothing more. -/
theorem ended_stays (hown : ∀ r, ownPc r (w.sys.worker r).pc = true) {p : Child} (hx : w.ended p)
    (h : w.step e = some w') : w'.ended p := by
  cases p with
  | timeServer => exact time_gone hx h
  | cashier => exact cashier_gone hown hx h
  | worker r => exact worker_gone hown hx h
  | generator =>
    rcases gen_steps h with ⟨-,hsame⟩ | ⟨a,-,ha,-⟩
    · exact (congrArg Generator.spawner hsame).trans hx
    · exact returned_stays hx ha

/-- Who has been forked, and what the processes have done that have not. -/
structure Roster (w : World n) : Prop where
  living : ∀ p ∈ w.children.living, p ∈ w.spawned
  spawned : ∀ p ∈ w.spawned, p ∈ w.children.living ∨ w.ended p
  booted : ∀ p ∈ w.booted, p ∈ w.spawned
  cashier : .cashier ∉ w.booted → w.sys.cashier.pc = .top ∨ w.sys.cashier.pc = .exited
  generator : .generator ∉ w.spawned → w.gen = .init

theorem start_roster (u : Setup n) : Roster u.world :=
  ⟨by simp [Setup.world,Lib.Children.none],by simp [Setup.world],by simp [Setup.world],fun _ => .inl rfl,fun _ => rfl⟩

theorem Roster.main (hown : ∀ r, ownPc r (w.sys.worker r).pc = true) (h : Roster w)
    (he : e.ofMain = true) (hs : w.step e = some w') : Roster w' := by
  have hm := main_only he hs
  obtain ⟨b,c,hsys⟩ := hm.sys
  have hgrow : ∀ p ∈ w.spawned, p ∈ w'.spawned := by
    intro p hp
    rcases hm.family with ⟨-,hsp⟩ | ⟨q,-,hsp⟩
    · rwa [hsp]
    · rw [hsp]
      exact List.mem_cons_of_mem _ hp
  refine ⟨?_,?_,?_,?_,?_⟩
  · intro p hp
    rcases hm.family with ⟨hl,hsp⟩ | ⟨q,hl,hsp⟩
    · rw [hl] at hp
      rw [hsp]
      exact h.living p hp
    · rw [hl,List.mem_append,List.mem_singleton] at hp
      rw [hsp]
      rcases hp with hp | rfl
      · exact List.mem_cons_of_mem _ (h.living p hp)
      · exact List.mem_cons_self
  · intro p hp
    have hold : p ∈ w.spawned → p ∈ w'.children.living ∨ w'.ended p := by
      intro hp
      refine (h.spawned p hp).imp ?_ fun hx => ended_stays hown hx hs
      intro hl
      rcases hm.family with ⟨hl',-⟩ | ⟨q,hl',-⟩
      · rwa [hl']
      · rw [hl']
        exact List.mem_append_left _ hl
    rcases hm.family with ⟨-,hsp⟩ | ⟨q,hl,hsp⟩
    · exact hold (hsp ▸ hp)
    · rw [hsp] at hp
      rcases List.mem_cons.mp hp with rfl | hp
      · rw [hl]
        exact .inl (List.mem_append_right _ (List.mem_singleton_self p))
      · exact hold hp
  · rw [hm.booted]
    exact fun p hp => hgrow p (h.booted p hp)
  · rw [hm.booted,hsys]
    exact h.cashier
  · intro hg
    rw [hm.gen]
    exact h.generator fun hmem => hg (hgrow _ hmem)

/-- A living tourist process stays so until it exits. -/
theorem generator_living {g g' : Generator} {a : GeneratorStep} (h : generatorStep n g a = some g')
    {k : Nat} (hk : k ∈ g.children.living) : k ∈ g'.children.living ∨ a = .exit k := by
  cases a with
  | spawner x =>
    left
    simp only [generatorStep] at h
    cases hp : g.spawner <;> simp only [Generator.spawn,hp,reduceCtorEq] at h
    case wait =>
      split at h
      · cases h
        exact hk
      · obtain ⟨c,hc,rfl⟩ := Option.map_eq_some_iff.mp h
        rw [(Lib.Children.reap_count hc).1]
        exact hk
    case fork =>
      split at h <;> cases h
      · exact List.mem_append_left _ hk
      · exact hk
    all_goals
      try split at h
      all_goals
        cases h
        try exact hk
  | reaper own pid =>
    left
    simp only [generatorStep] at h
    cases hp : g.reaper <;> simp only [Generator.reap,hp,reduceCtorEq] at h
    case waitpid =>
      split at h
      · cases h
        exact hk
      · obtain ⟨c,hc,rfl⟩ := Option.map_eq_some_iff.mp h
        rw [(Lib.Children.reap_count hc).1]
        exact hk
    all_goals
      repeat' split at h
      all_goals
        cases h
        try exact hk
  | exit pid =>
    obtain ⟨c,hc,rfl⟩ := Option.map_eq_some_iff.mp h
    obtain ⟨-,rfl⟩ := Lib.Children.exit_some hc
    by_cases he : k = pid
    · exact .inr (by rw [he])
    · exact .inl ((List.mem_erase_of_ne he).mpr hk)
  | sigterm =>
    cases h
    exact .inl hk

/-- Besides the steps of the children themselves only the clock and the two flags change. -/
theorem sys_act_cases {a : Act n} (ha : w.sysAct e = some a) :
    e = .act a ∨ (∃ ms, a = .tick ms) ∨ a = .close ∨ a = .shutdown := by
  cases e with
  | act b => exact .inl (by rw [Option.some.inj ha])
  | time ms =>
    simp only [World.sysAct] at ha
    split at ha <;> cases ha
    exact .inr (.inl ⟨ms,rfl⟩)
  | main ok pid =>
    simp only [World.sysAct] at ha
    repeat' split at ha
    all_goals
      cases ha
      try exact .inr (.inr (.inr rfl))
    exact .inr (.inr (.inl rfl))
  | _ => cases ha

theorem act_allowed {a : Act n} (h : w.step (.act a) = some w') :
    w.allows a ∧ step w.sys a = some w'.sys := by
  simp only [World.step] at h
  split at h
  · obtain ⟨s,hs,rfl⟩ := Option.map_eq_some_iff.mp h
    exact ⟨‹_›,hs⟩
  · cases h

theorem cashier_unbooted (hown : ∀ r, ownPc r (w.sys.worker r).pc = true) (hb : .cashier ∉ w.booted)
    (h : w.step e = some w') : w'.sys.cashier = w.sys.cashier ∨ w'.sys.cashier.pc = .exited := by
  cases world_effect hown h with
  | @acts a ha hs _ =>
    left
    cases hv : a.visitor with
    | false => exact (visitors_same hown hv hs).cashier
    | true =>
      rcases sys_act_cases ha with rfl | ⟨ms,rfl⟩ | rfl | rfl
      · have hall := (act_allowed h).1
        cases a with
        | cashier | cashierFail =>
          rcases hall.1.2 with hg | hg
          · cases hg
          · exact absurd hg hb
        | tourist i x => exact (tourist_only hs).cashier
        | touristCont i =>
          simp only [step] at hs
          split at hs
          · obtain ⟨pc,-,he⟩ := Option.map_eq_some_iff.mp hs
            rw [← he]
            rfl
          · cases hs
        | touristFail i =>
          obtain ⟨pc,-,he⟩ := Option.map_eq_some_iff.mp hs
          rw [← he]
          rfl
        | _ => cases hv
      all_goals cases hv
  | stays _ hs => exact .inl (by rw [hs])
  | worker _ hs =>
    left
    rw [hs]
    rfl
  | cashier _ hs =>
    right
    rw [hs]
    rfl

/-- A tourist moves only in a process of its own that is alive. -/
theorem tourist_moves (hown : ∀ r, ownPc r (w.sys.worker r).pc = true) (h : w.step e = some w') (i : Fin n) :
    w'.sys.tourists i = w.sys.tourists i ∨
      touristId i ∈ w.gen.children.living ∧ w.genStep e = none ∧ (w.sys.tourists i).pc ≠ .gone := by
  cases world_effect hown h with
  | @acts a ha hs _ =>
    cases hv : a.visitor with
    | false => exact .inl (congrFun (visitors_same hown hv hs).tourists i)
    | true =>
      rcases sys_act_cases ha with rfl | ⟨ms,rfl⟩ | rfl | rfl
      · have hall := (act_allowed h).1
        cases a with
        | cashier => exact .inl (by rw [(cashier_only hs).tourists])
        | cashierFail pc => exact .inl (by rw [(cashier_fail hs).2]; rfl)
        | tourist j x =>
          by_cases hj : i = j
          · subst hj
            refine .inr ⟨hall.1,rfl,?_⟩
            intro hg
            simp [step,touristMain,hg] at hs
          · exact .inl ((tourist_only hs).others i hj)
        | touristCont j =>
          simp only [step] at hs
          split at hs
          · obtain ⟨pc,hpc,he⟩ := Option.map_eq_some_iff.mp hs
            by_cases hj : i = j
            · subst hj
              refine .inr ⟨hall,rfl,?_⟩
              intro hg
              simp [touristInterrupted,hg] at hpc
            · rw [← he]
              exact .inl (by simp [hj])
          · cases hs
        | touristFail j =>
          obtain ⟨pc,hpc,he⟩ := Option.map_eq_some_iff.mp hs
          by_cases hj : i = j
          · subst hj
            refine .inr ⟨hall.1,rfl,?_⟩
            intro hg
            simp [touristFailure,hg] at hpc
          · rw [← he]
            exact .inl (by simp [hj])
        | _ => cases hv
      all_goals cases hv
  | stays _ hs => exact .inl (by rw [hs])
  | worker _ hs =>
    left
    rw [hs]
    rfl
  | cashier _ hs =>
    left
    rw [hs]
    rfl

theorem Roster.others (hown : ∀ r, ownPc r (w.sys.worker r).pc = true) (h : Roster w)
    (he : e.ofMain = false) (hs : w.step e = some w') : Roster w' := by
  have hm := others_main he hs
  obtain ⟨l,hboot,hl⟩ := hm.booted
  refine ⟨?_,?_,?_,?_,?_⟩
  · intro p hp
    rw [hm.spawned]
    apply h.living p
    rcases hm.children with hc | ⟨q,-,hc⟩
    · rwa [hc] at hp
    · obtain ⟨-,he⟩ := Lib.Children.exit_some hc
      rw [he] at hp
      exact List.mem_of_mem_erase hp
  · intro p hp
    rw [hm.spawned] at hp
    rcases h.spawned p hp with hl | hx
    · rcases hm.children with hc | ⟨q,hq,hc⟩
      · exact .inl (hc ▸ hl)
      · by_cases hpq : p = q
        · subst hpq
          exact .inr (ended_stays hown hq hs)
        · left
          obtain ⟨-,he⟩ := Lib.Children.exit_some hc
          rw [he]
          exact (List.mem_erase_of_ne hpq).mpr hl
    · exact .inr (ended_stays hown hx hs)
  · intro p hp
    rw [hboot] at hp
    rw [hm.spawned]
    rcases List.mem_append.mp hp with hp | hp
    · exact h.living p (hl p hp)
    · exact h.booted p hp
  · intro hb
    rw [hboot] at hb
    have hb₀ : .cashier ∉ w.booted := fun hmem => hb (List.mem_append_right _ hmem)
    rcases cashier_unbooted hown hb₀ hs with hsame | hx
    · rw [hsame]
      exact h.cashier hb₀
    · exact .inr hx
  · intro hg
    rw [hm.spawned] at hg
    have hinit := h.generator hg
    rcases gen_steps hs with ⟨-,hsame⟩ | ⟨a,-,ha,-,hup | ⟨k,rfl⟩⟩
    · exact hsame.trans hinit
    · exact absurd (h.living _ hup.1) hg
    · rw [hinit] at ha
      cases ha

theorem Roster.step (hown : ∀ r, ownPc r (w.sys.worker r).pc = true) (h : Roster w) (hs : w.step e = some w') :
    Roster w' := by
  cases he : e.ofMain with
  | true => exact h.main hown he hs
  | false => exact h.others hown he hs

theorem run_roster {env : WorldEnv n} (h : WorldRuns env u tr w) : Roster w :=
  world_invariant (fun _ w => Roster w) (start_roster u) (fun _ _ _ _ hown hi _ hs => hi.step hown hs) h

/-- A tourist that has been forked lives until it is gone; the others have not begun. -/
structure Begun (u : Setup n) (tr : WorldTrace n) (w : World n) (i : Fin n) : Prop where
  started : touristId i ∈ forked (genTrace tr) → touristId i ∈ w.gen.children.living ∨ (w.sys.tourists i).pc = .gone
  fresh : touristId i ∉ forked (genTrace tr) → w.sys.tourists i = u.start.tourists i

theorem forked_snoc (gtr : GeneratorTrace) (g : Generator) (a : GeneratorStep) :
    forked (gtr ++ [(g,a)]) = forked gtr ++ forks g a := by
  simp [forked]

/-- A new child is alive. -/
theorem forks_living {g g' : Generator} {a : GeneratorStep} (h : generatorStep n g a = some g') {k : Nat}
    (hk : k ∈ forks g a) : k ∈ g'.children.living := by
  cases a with
  | spawner x =>
    simp only [forks] at hk
    split at hk
    · rename_i hf
      obtain rfl := List.mem_singleton.mp hk
      simp only [generatorStep,Generator.spawn,hf.1,hf.2,if_true,Option.some.injEq] at h
      rw [← h]
      exact List.mem_append_right _ (List.mem_singleton_self _)
    · cases hk
  | _ => cases hk

theorem Begun.step {i : Fin n} (hown : ∀ r, ownPc r (w.sys.worker r).pc = true)
    (hg : GeneratorRuns n (genTrace tr) w.gen) (h : Begun u tr w i) (hs : w.step e = some w') :
    Begun u (tr ++ [(w,e)]) w' i := by
  have hlives : touristId i ∈ w.gen.children.living → touristId i ∈ forked (genTrace tr) := by
    intro hl
    exact (run_family hg).perm.mem_iff.mpr (List.mem_append_right _ (List.mem_append_left _ hl))
  rcases gen_steps hs with ⟨hnone,hsame⟩ | ⟨a,ha,hstep,hex,-⟩
  · refine ⟨?_,?_⟩
    · intro hf
      rw [gen_trace_none hnone] at hf
      rcases h.started hf with hl | hgone
      · exact .inl (hsame ▸ hl)
      · rcases tourist_moves hown hs i with hpc | ⟨-,-,hne⟩
        · exact .inr (by rw [hpc,hgone])
        · exact absurd hgone hne
    · intro hf
      rw [gen_trace_none hnone] at hf
      rcases tourist_moves hown hs i with hpc | ⟨hl,-⟩
      · rw [hpc]
        exact h.fresh hf
      · exact absurd (hlives hl) hf
  · have hstill : w'.sys.tourists i = w.sys.tourists i := by
      rcases tourist_moves hown hs i with hpc | ⟨-,hnone,-⟩
      · exact hpc
      · simp [hnone] at ha
    refine ⟨?_,?_⟩
    · intro hf
      rw [gen_trace_some ha,forked_snoc,List.mem_append] at hf
      rcases hf with hf | hf
      · rcases h.started hf with hl | hgone
        · rcases generator_living hstep hl with hl' | hx
          · exact .inl hl'
          · obtain ⟨j,hj,hgone⟩ := hex _ hx
            obtain rfl := tourist_id_inj hj
            exact .inr (by rw [hstill,hgone])
        · exact .inr (by rw [hstill,hgone])
      · exact .inl (forks_living hstep hf)
    · intro hf
      rw [gen_trace_some ha,forked_snoc,List.mem_append,not_or] at hf
      rw [hstill]
      exact h.fresh hf.1

theorem run_begun {env : WorldEnv n} (h : WorldRuns env u tr w) (i : Fin n) : Begun u tr w i := by
  have hboth : GeneratorRuns n (genTrace tr) w.gen ∧ Begun u tr w i := by
    refine world_invariant (fun tr w => GeneratorRuns n (genTrace tr) w.gen ∧ Begun u tr w i) ?_ ?_ h
    · refine ⟨.nil,by simp [genTrace,forked],fun _ => rfl⟩
    · intro tr w e w' hown hi _ hs
      exact ⟨gen_run_step hi.1 hs,hi.2.step hown hi.1 hs⟩
  exact hboth.2

/-- When `main` is alone nobody else is in the simulation: every child has returned or was
never started, and so has every tourist. -/
theorem nobody_left {env : WorldEnv n} (h : WorldRuns env u tr w) (hc : w.children.all = []) :
    (w.sys.cashier.pc = .top ∨ w.sys.cashier.pc = .exited) ∧ w.gen.children.all = [] ∧
      ∀ i, (w.sys.tourists i).pc = .gone ∨ (w.sys.tourists i).pc = .buySend := by
  have hr := run_roster h
  have hg := run_gen h
  have hliving : w.children.living = [] := (List.append_eq_nil_iff.mp hc).1
  have hgen : w.gen.children.all = [] := by
    by_cases hsp : .generator ∈ w.spawned
    · rcases hr.spawned _ hsp with hl | hx
      · simp [hliving] at hl
      · exact (run_generator hg).1.all_reaped hx
    · rw [hr.generator hsp]
      rfl
  refine ⟨?_,hgen,?_⟩
  · by_cases hb : .cashier ∈ w.booted
    · rcases hr.spawned _ (hr.booted _ hb) with hl | hx
      · simp [hliving] at hl
      · exact .inr hx
    · exact hr.cashier hb
  · intro i
    have hb := run_begun h i
    by_cases hf : touristId i ∈ forked (genTrace tr)
    · rcases hb.started hf with hl | hgone
      · simp [(List.append_eq_nil_iff.mp hgen).1] at hl
      · exact .inl hgone
    · rw [hb.fresh hf]
      exact .inr rfl

end Ropeway
