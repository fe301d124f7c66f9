import Ropeway.Lib.Children
import Ropeway.Lib.Progress

/-! The two threads of `tourist_generator_main`. The main thread spawns the tourists, the
reaper thread waits for SIGCHLD and reaps them, and in the end the main thread stops it and
reaps the rest. The shared fields the main thread reads may have any value. -/

namespace Ropeway

/-- Where the main thread is; `clear`, `kill` and `join` are those of
`stop_reaper_thread`. -/
inductive SpawnerPc
  | create | top | closing | fork | count | sleep | stopTest | clear | kill | join | load | wait
  | returned
  deriving DecidableEq, Repr

inductive ReaperPc
  | absent | test | sigwait | check | waitpid | sub | done
  deriving DecidableEq, Repr

/-- The generator process. `wakeup` is the SIGCHLD of `pthread_kill`, which is pending for
the reaper thread alone; a tourist is known by its id. -/
structure Generator where
  spawner : SpawnerPc
  reaper : ReaperPc
  gRunning : Bool
  reaperRunning : Bool
  wakeup : Bool
  activeTourists : Int
  currentActive : Int
  touristId : Nat
  children : Lib.Children Nat
  deriving DecidableEq

def Generator.init : Generator where
  spawner := .create
  reaper := .absent
  gRunning := true
  reaperRunning := false
  wakeup := false
  activeTourists := 0
  currentActive := 0
  touristId := 0
  children := .none Nat

/-- What the main thread finds in its next step: the two fields of the shared state, whether
`pthread_create` or `fork` succeeds, and the zombie `waitpid` returns. -/
structure Finding where
  running : Bool
  closing : Bool
  ok : Bool
  pid : Nat
  deriving DecidableEq, Repr

/-- One step of the main thread; `none` while its call has to block. -/
def Generator.spawn (total : Nat) (g : Generator) (x : Finding) : Option Generator :=
  match g.spawner with
  | .create =>
    if x.ok then some { g with spawner := .top, reaper := .test, reaperRunning := true }
    else some { g with spawner := .returned }
  | .top =>
    if g.gRunning && x.running && g.touristId < total then some { g with spawner := .closing }
    else some { g with spawner := .stopTest }
  | .closing =>
    if x.closing then some { g with spawner := .stopTest }
    else some { g with spawner := .fork, touristId := g.touristId + 1 }
  | .fork =>
    if x.ok then some { g with spawner := .count, children := g.children.fork g.touristId }
    else some { g with spawner := .sleep }
  | .count => some { g with spawner := .sleep, activeTourists := g.activeTourists + 1 }
  | .sleep => some { g with spawner := .top }
  | .stopTest => some { g with spawner := if g.reaperRunning then .clear else .load }
  | .clear => some { g with spawner := .kill, reaperRunning := false }
  | .kill => some { g with spawner := .join, wakeup := true }
  | .join => if g.reaper = .done then some { g with spawner := .load } else none
  | .load => some { g with spawner := .wait, currentActive := g.activeTourists }
  | .wait =>
    if g.children.all = [] then some { g with spawner := .returned }
    else (g.children.reap x.pid).map fun c => { g with children := c }
  | .returned => none

/-- One step of `reaper_thread_func`. In `sigwait` the kernel hands over one of the pending
signals: `own` asks for the one of `pthread_kill`. -/
def Generator.reap (g : Generator) (own : Bool) (pid : Nat) : Option Generator :=
  match g.reaper with
  | .absent => none
  | .test => some { g with reaper := if g.reaperRunning then .sigwait else .done }
  | .sigwait =>
    if own then
      if g.wakeup then some { g with reaper := .check, wakeup := false } else none
    else if g.children.sigchld then
      some { g with reaper := .check, children := g.children.hear }
    else none
  | .check => some { g with reaper := if g.reaperRunning then .waitpid else .done }
  | .waitpid =>
    if g.children.zombies = [] then some { g with reaper := .test }
    else (g.children.reap pid).map fun c => { g with reaper := .sub, children := c }
  | .sub => some { g with reaper := .waitpid, activeTourists := g.activeTourists - 1 }
  | .done => none

inductive GeneratorStep
  | spawner (x : Finding)
  | reaper (own : Bool) (pid : Nat)
  /-- A tourist process ends. -/
  | exit (pid : Nat)
  /-- `signal_handler` runs for SIGTERM or SIGINT. -/
  | sigterm
  deriving DecidableEq

def generatorStep (total : Nat) (g : Generator) : GeneratorStep → Option Generator
  | .spawner x => g.spawn total x
  | .reaper own pid => g.reap own pid
  | .exit pid => (g.children.exit pid).map fun c => { g with children := c }
  | .sigterm => some { g with gRunning := false }

abbrev GeneratorTrace := List (Generator × GeneratorStep)

abbrev GeneratorRuns (total : Nat) (tr : GeneratorTrace) (g : Generator) : Prop :=
  Lib.Run (generatorStep total) (fun _ _ _ => true) .init tr g

def generatorReaches (total : Nat) (as : List GeneratorStep)
    (test : GeneratorTrace → Generator → Bool) : Bool :=
  (Lib.exec (generatorStep total) (fun _ _ _ => true) [] as .init).any (fun p => test p.1 p.2)

theorem exists_generator_run {total : Nat} {as : List GeneratorStep}
    {test : GeneratorTrace → Generator → Bool} (h : generatorReaches total as test = true) :
    ∃ tr g, GeneratorRuns total tr g ∧ test tr g = true := Lib.exists_run as test h

variable {total : Nat} {tr : GeneratorTrace} {g g' : Generator} {a : GeneratorStep}

def Generator.Reaping (g : Generator) : Prop :=
  g.reaperRunning = true ∧ g.reaper ≠ .absent ∧ g.reaper ≠ .done

/-- The count is right but for `d` tourists that have been forked and not been added, and
one that has been reaped and not been taken off. -/
def Generator.Balanced (g : Generator) (d : Int) : Prop :=
  g.activeTourists + d = g.children.all.length + (if g.reaper = .sub then 1 else 0)

def Generator.Stage (g : Generator) : Prop :=
  match g.spawner with
  | .create => g.reaper = .absent ∧ g.activeTourists = 0 ∧ g.children.all = []
  | .top | .closing | .fork | .sleep | .stopTest | .clear => g.Reaping ∧ g.Balanced 0
  | .count => g.Reaping ∧ g.Balanced 1
  | .kill => g.reaperRunning = false ∧ g.reaper ≠ .absent ∧ g.Balanced 0
  | .join => g.reaperRunning = false ∧ g.reaper ≠ .absent ∧ (g.reaper = .sigwait → g.wakeup = true) ∧
      g.Balanced 0
  | .load => g.reaper = .done ∧ g.activeTourists = g.children.all.length
  | .wait => g.reaper = .done
  | .returned => (g.reaper = .done ∨ g.reaper = .absent) ∧ g.children.all = []

/-- The reaper thread goes to `sigwait` only when no zombie is left or the next SIGCHLD has
come. -/
def Generator.Noticed (g : Generator) : Prop :=
  g.reaper = .test ∨ g.reaper = .sigwait → g.children.zombies ≠ [] → g.children.sigchld = true

structure ReaperMoves (g g' : Generator) : Prop where
  spawner : g'.spawner = g.spawner
  running : g'.reaperRunning = g.reaperRunning
  started : g.reaper ≠ .absent ∧ g.reaper ≠ .done
  stays : g'.reaper ≠ .absent
  ends : g'.reaper = .done → g.reaperRunning = false
  sleeps : g'.reaper = .sigwait → g.reaperRunning = true
  balanced : ∀ d, g.Balanced d → g'.Balanced d
  noticed : g.Noticed → g'.Noticed

theorem reap_moves {own : Bool} {pid : Nat} (hs : g.reap own pid = some g') : ReaperMoves g g' := by
  cases hp : g.reaper <;> simp only [Generator.reap,hp,reduceCtorEq] at hs
  case test =>
    cases hs
    cases hr : g.reaperRunning <;>
      exact ⟨rfl,hr.symm,by simp [hp],by simp,by simp [hr],by simp [hr],by simp [Generator.Balanced,hp],
        by simp [Generator.Noticed,hp]⟩
  case sigwait =>
    split at hs
    · split at hs <;> cases hs
      exact ⟨rfl,rfl,by simp [hp],by simp,by simp,by simp,by simp [Generator.Balanced,hp],
        by simp [Generator.Noticed]⟩
    · split at hs <;> cases hs
      exact ⟨rfl,rfl,by simp [hp],by simp,by simp,by simp,
        by simp [Generator.Balanced,hp,Lib.Children.all,Lib.Children.hear],by simp [Generator.Noticed]⟩
  case check =>
    cases hs
    cases hr : g.reaperRunning <;>
      exact ⟨rfl,hr.symm,by simp [hp],by simp,by simp [hr],by simp,by simp [Generator.Balanced,hp],
        by simp [Generator.Noticed]⟩
  case waitpid =>
    split at hs
    · rename_i hz
      cases hs
      exact ⟨rfl,rfl,by simp [hp],by simp,by simp,by simp,by simp [Generator.Balanced,hp],
        by simp [Generator.Noticed,hz]⟩
    · obtain ⟨c,hc,rfl⟩ := Option.map_eq_some_iff.mp hs
      have hlen := (Lib.Children.reap_all hc).length_eq
      refine ⟨rfl,rfl,by simp [hp],by simp,by simp,by simp,?_,by simp [Generator.Noticed]⟩
      intro d hd
      simp only [Generator.Balanced,hp,hlen,List.length_cons] at hd ⊢
      simp at hd ⊢
      omega
  case sub =>
    cases hs
    refine ⟨rfl,rfl,by simp [hp],by simp,by simp,by simp,?_,by simp [Generator.Noticed]⟩
    intro d hd
    simp only [Generator.Balanced,hp] at hd ⊢
    simp at hd ⊢
    omega

theorem Generator.Stage.reap {own : Bool} {pid : Nat} (h : g.Stage)
    (hs : g.reap own pid = some g') : g'.Stage := by
  have hm := reap_moves hs
  have hreaping : g.Reaping → g'.Reaping := by
    intro hr
    refine ⟨hm.running.trans hr.1,hm.stays,?_⟩
    intro hd
    exact absurd (hm.ends hd) (by simp [hr.1])
  unfold Generator.Stage at h ⊢
  rw [hm.spawner]
  cases hp : g.spawner <;> simp only [hp] at h ⊢
  case create => exact absurd h.1 hm.started.1
  case kill => exact ⟨hm.running.trans h.1,hm.stays,hm.balanced 0 h.2.2⟩
  case join =>
    refine ⟨hm.running.trans h.1,hm.stays,?_,hm.balanced 0 h.2.2.2⟩
    intro hw
    exact absurd (hm.sleeps hw) (by simp [h.1])
  case load => exact absurd h.1 hm.started.2
  case wait => exact absurd h hm.started.2
  case returned =>
    rcases h.1 with hd | hd
    · exact absurd hd hm.started.2
    · exact absurd hd hm.started.1
  all_goals exact ⟨hreaping h.1,hm.balanced _ h.2⟩

theorem Generator.Stage.spawn {x : Finding} (h : g.Stage) (hs : g.spawn total x = some g') : g'.Stage := by
  unfold Generator.Stage at h
  cases hp : g.spawner <;> simp only [hp] at h <;> simp only [Generator.spawn,hp,reduceCtorEq] at hs
  case create =>
    obtain ⟨ha,hact,hnone⟩ := h
    split at hs <;> cases hs
    · exact ⟨⟨rfl,by simp,by simp⟩,by simp [Generator.Balanced,hact,hnone]⟩
    · exact ⟨.inr ha,hnone⟩
  case top => split at hs <;> cases hs <;> exact h
  case closing => split at hs <;> cases hs <;> exact h
  case fork =>
    split at hs <;> cases hs
    · have hlen := (g.children.fork_all g.touristId).length_eq
      refine ⟨h.1,?_⟩
      have hb := h.2
      simp only [Generator.Balanced,hlen,List.length_cons] at hb ⊢
      omega
    · exact h
  case count =>
    cases hs
    refine ⟨h.1,?_⟩
    have hb := h.2
    simp only [Generator.Balanced] at hb ⊢
    omega
  case sleep =>
    cases hs
    exact h
  case stopTest =>
    cases hs
    simp only [Generator.Stage,h.1.1,if_true]
    exact ⟨⟨rfl,h.1.2⟩,h.2⟩
  case clear =>
    cases hs
    exact ⟨rfl,h.1.2.1,h.2⟩
  case kill =>
    cases hs
    exact ⟨h.1,h.2.1,fun _ => rfl,h.2.2⟩
  case join =>
    split at hs
    · rename_i hd
      cases hs
      refine ⟨hd,?_⟩
      have hb := h.2.2.2
      simpa [Generator.Balanced,hd] using hb
    · cases hs
  case load =>
    cases hs
    exact h.1
  case wait =>
    split at hs
    · rename_i hnone
      cases hs
      exact ⟨.inl h,hnone⟩
    · obtain ⟨c,-,rfl⟩ := Option.map_eq_some_iff.mp hs
      simp only [Generator.Stage]
      exact h

theorem Generator.Stage.exit {pid : Nat} {c : Lib.Children Nat} (h : g.Stage)
    (hc : g.children.exit pid = some c) : Generator.Stage { g with children := c } := by
  have hlen := (Lib.Children.exit_all hc).length_eq
  have hne : g.children.all ≠ [] :=
    List.ne_nil_of_mem (List.mem_append_left _ (Lib.Children.exit_some hc).1)
  unfold Generator.Stage at h ⊢
  cases hp : g.spawner <;> simp only [hp,Generator.Balanced,Generator.Reaping,hlen] at h ⊢
  case create => exact absurd h.2.2 hne
  case returned => exact absurd h.2 hne
  all_goals exact h

theorem Generator.Noticed.spawn {x : Finding} (h : g.Noticed) (hst : g.Stage)
    (hs : g.spawn total x = some g') : g'.Noticed := by
  unfold Generator.Stage at hst
  unfold Generator.Noticed at h ⊢
  cases hp : g.spawner <;> simp only [hp] at hst <;> simp only [Generator.spawn,hp,reduceCtorEq] at hs
  case create =>
    have hz := (List.append_eq_nil_iff.mp hst.2.2).2
    split at hs
    all_goals
      cases hs
      simp [hz]
  case join =>
    split at hs
    · cases hs
      exact h
    · cases hs
  case wait =>
    split at hs
    · cases hs
      exact h
    · obtain ⟨c,-,rfl⟩ := Option.map_eq_some_iff.mp hs
      simp [hst]
  all_goals
    try split at hs
    all_goals
      cases hs
      exact h

/-- Both threads keep their side along every run. -/
theorem generator_step (hst : g.Stage) (hn : g.Noticed) (hs : generatorStep total g a = some g') :
    g'.Stage ∧ g'.Noticed := by
  cases a with
  | spawner x => exact ⟨hst.spawn hs,hn.spawn hst hs⟩
  | reaper own pid => exact ⟨hst.reap hs,(reap_moves hs).noticed hn⟩
  | exit pid =>
    obtain ⟨c,hc,rfl⟩ := Option.map_eq_some_iff.mp hs
    refine ⟨hst.exit hc,?_⟩
    obtain ⟨-,rfl⟩ := Lib.Children.exit_some hc
    exact fun _ _ => rfl
  | sigterm =>
    cases hs
    exact ⟨hst,hn⟩

theorem run_generator (h : GeneratorRuns total tr g) : g.Stage ∧ g.Noticed := by
  refine h.invariant (fun _ g => g.Stage ∧ g.Noticed) ?_ ?_
  · exact ⟨⟨rfl,rfl,rfl⟩,by simp [Generator.Noticed,Generator.init]⟩
  · intro _ g a g' hi _ hs
    exact generator_step hi.1 hi.2 hs

theorem Generator.Stage.all_reaped (h : g.Stage) (hr : g.spawner = .returned) : g.children.all = [] := by
  unfold Generator.Stage at h
  rw [hr] at h
  exact h.2

/-- While the reaper thread is blocked in `sigwait` there is no zombie. -/
theorem asleep_without_zombies (h : GeneratorRuns total tr g) (hp : g.reaper = .sigwait)
    (hs : ∀ own pid, g.reap own pid = none) : g.children.zombies = [] := by
  by_contra hz
  have hsig := (run_generator h).2 (.inr hp) hz
  have hnone := hs false 0
  simp [Generator.reap,hp,hsig] at hnone

def spawns (k : Nat) : List GeneratorStep := List.replicate k (.spawner ⟨true, false, true, 1⟩)

/-- Tourist 1 exits before it is counted; the reaper thread hears of it and reaps it. -/
def reapFirst : List GeneratorStep :=
  spawns 4 ++ [.exit 1] ++ List.replicate 7 (.reaper false 1)

theorem asleep_without_zombies_once : ∃ tr g, GeneratorRuns 2 tr g ∧ g.activeTourists = -1 ∧
    g.reaper = .sigwait ∧ (∀ own pid, g.reap own pid = none) ∧ g.children.zombies = [] := by
  have hr : generatorReaches 2 reapFirst (fun _ g =>
      g.activeTourists == -1 && g.reaper == .sigwait && !g.wakeup && !g.children.sigchld) = true := by
    decide +kernel
  obtain ⟨tr,g,h,ht⟩ := exists_generator_run hr
  simp only [Bool.and_eq_true,beq_iff_eq,Bool.not_eq_true'] at ht
  obtain ⟨⟨⟨hact,hp⟩,hw⟩,hsig⟩ := ht
  have hblocked : ∀ own pid, g.reap own pid = none := by
    intro own pid
    cases own <;> simp [Generator.reap,hp,hw,hsig]
  exact ⟨tr,g,h,hact,hp,hblocked,asleep_without_zombies h hp hblocked⟩

def Generator.reaperLeft (g : Generator) : Nat :=
  match g.reaper with
  | .absent | .done => 0
  | .test | .check => 1
  | .sigwait => 2
  | .waitpid => 2 * g.children.all.length + 2
  | .sub => 2 * g.children.all.length + 3

theorem reaper_left_le (g : Generator) : g.reaperLeft ≤ 2 * g.children.all.length + 3 := by
  unfold Generator.reaperLeft
  split <;> omega

def GeneratorStep.byReaper : GeneratorStep → Bool
  | .reaper _ _ => true
  | _ => false

def Generator.stopping (g : Generator) : Prop :=
  g.reaperRunning = false ∧
    (g.spawner = .join ∨ (g.spawner = .load ∨ g.spawner = .wait ∨ g.spawner = .returned) ∧ g.reaper = .done)

theorem stopping_reap {own : Bool} {pid : Nat} (h : g.stopping) (hs : g.reap own pid = some g') :
    g'.stopping ∧ g'.reaperLeft + 1 ≤ g.reaperLeft := by
  have hm := reap_moves hs
  have hstop : g'.stopping := by
    refine ⟨hm.running.trans h.1,.inl ?_⟩
    rcases h.2 with hj | ⟨-,hd⟩
    · exact hm.spawner.trans hj
    · exact absurd hd hm.started.2
  refine ⟨hstop,?_⟩
  cases hp : g.reaper <;> simp only [Generator.reap,hp,h.1,reduceCtorEq] at hs
  case test | check =>
    cases hs
    simp [Generator.reaperLeft,hp]
  case sigwait =>
    repeat' split at hs
    all_goals
      cases hs
      try simp [Generator.reaperLeft,hp]
  case waitpid =>
    split at hs
    · cases hs
      simp only [Generator.reaperLeft,hp]
      omega
    · obtain ⟨c,hc,rfl⟩ := Option.map_eq_some_iff.mp hs
      have hlen := (Lib.Children.reap_all hc).length_eq
      simp only [Generator.reaperLeft,hp,hlen,List.length_cons]
      omega
  case sub =>
    cases hs
    simp [Generator.reaperLeft,hp]

theorem stopping_step (h : g.stopping) (hs : generatorStep total g a = some g') :
    g'.stopping ∧ g'.reaperLeft + a.byReaper.toNat ≤ g.reaperLeft := by
  cases a with
  | reaper own pid => exact stopping_reap h hs
  | exit pid =>
    obtain ⟨c,hc,rfl⟩ := Option.map_eq_some_iff.mp hs
    refine ⟨h,?_⟩
    simp only [Generator.reaperLeft,(Lib.Children.exit_all hc).length_eq]
    exact le_rfl
  | sigterm =>
    cases hs
    exact ⟨h,le_rfl⟩
  | spawner x =>
    simp only [generatorStep] at hs
    obtain ⟨hrun,hj | ⟨hl,hd⟩⟩ := h
    · simp only [Generator.spawn,hj] at hs
      split at hs
      · rename_i hd
        cases hs
        exact ⟨⟨hrun,.inr ⟨.inl rfl,hd⟩⟩,le_rfl⟩
      · cases hs
    · have hleft : g.reaperLeft = 0 := by simp [Generator.reaperLeft,hd]
      have hkeep : g'.reaper = g.reaper ∧ g'.reaperRunning = g.reaperRunning ∧
          (g'.spawner = .wait ∨ g'.spawner = .returned) := by
        rcases hl with hl | hl | hl <;> simp only [Generator.spawn,hl,reduceCtorEq] at hs
        · cases hs
          exact ⟨rfl,rfl,.inl rfl⟩
        · split at hs
          · cases hs
            exact ⟨rfl,rfl,.inr rfl⟩
          · obtain ⟨c,-,rfl⟩ := Option.map_eq_some_iff.mp hs
            exact ⟨rfl,rfl,.inl rfl⟩
      refine ⟨⟨hkeep.2.1.trans hrun,.inr ⟨.inr hkeep.2.2,hkeep.1.trans hd⟩⟩,?_⟩
      simp [Generator.reaperLeft,hkeep.1,hd,GeneratorStep.byReaper]

/-- While the main thread is in `pthread_join` the reaper thread is never blocked. -/
theorem reaper_unblocked (hst : g.Stage) (hj : g.spawner = .join) (hd : g.reaper ≠ .done) :
    ∃ own pid, (g.reap own pid).isSome = true := by
  unfold Generator.Stage at hst
  rw [hj] at hst
  obtain ⟨hrun,habs,hwake,-⟩ := hst
  cases hp : g.reaper
  case absent => exact absurd hp habs
  case done => exact absurd hp hd
  case sigwait => exact ⟨true,0,by simp [Generator.reap,hp,hwake hp]⟩
  case waitpid =>
    by_cases hz : g.children.zombies = []
    · exact ⟨true,0,by simp [Generator.reap,hp,hz]⟩
    · obtain ⟨i,c,hc⟩ := Lib.Children.exists_reap hz
      exact ⟨true,i,by simp [Generator.reap,hp,hz,hc]⟩
  all_goals exact ⟨true,0,by simp [Generator.reap,hp]⟩

/-- `pthread_join` returns: the reaper thread can always go on, and it has a bounded number
of steps left however the tourists exit meanwhile. Then the count is exact. -/
theorem reaper_joined (h : GeneratorRuns total tr g) :
    (g.spawner = .join → (g.reaper = .done ∨ ∃ own pid, (g.reap own pid).isSome = true) ∧
      ∀ post g', Lib.Run (generatorStep total) (fun _ _ _ => true) g post g' →
        post.countP (fun q => q.2.byReaper) ≤ 2 * g.children.all.length + 3) ∧
    (g.spawner = .load → g.activeTourists = g.children.all.length) := by
  obtain ⟨hst,-⟩ := run_generator h
  refine ⟨?_,?_⟩
  · intro hj
    refine ⟨?_,?_⟩
    · by_cases hd : g.reaper = .done
      · exact .inl hd
      · exact .inr (reaper_unblocked hst hj hd)
    · intro post g' hpost
      have hrun : g.reaperRunning = false := by
        unfold Generator.Stage at hst
        rw [hj] at hst
        exact hst.1
      have hle := hpost.count_le_measure Generator.stopping Generator.reaperLeft
        (fun _ a => a.byReaper) (fun _ _ _ _ hi _ hs => stopping_step hi hs) ⟨hrun,.inl hj⟩
      exact hle.trans (reaper_left_le g)
  · intro hl
    unfold Generator.Stage at hst
    rw [hl] at hst
    exact hst.2

/-- Tourist 2 is forked as well, and the generator is told to stop while it is alive. -/
def stopSecond : List GeneratorStep := reapFirst ++ spawns 6 ++ [.sigterm] ++ spawns 5

theorem reaper_joined_second : ∃ tr g, GeneratorRuns 2 tr g ∧ g.spawner = .join ∧ g.reaper = .sigwait ∧
    g.children.all = [2] ∧ ∃ own pid, (g.reap own pid).isSome = true := by
  have hr : generatorReaches 2 stopSecond (fun _ g =>
      g.spawner == .join && g.reaper == .sigwait && g.children.all == [2]) = true := by decide +kernel
  obtain ⟨tr,g,h,ht⟩ := exists_generator_run hr
  simp only [Bool.and_eq_true,beq_iff_eq] at ht
  obtain ⟨⟨hj,hp⟩,hc⟩ := ht
  refine ⟨tr,g,h,hj,hp,hc,?_⟩
  rcases ((reaper_joined h).1 hj).1 with hd | hgo
  · rw [hp] at hd
    cases hd
  · exact hgo

def forks (g : Generator) : GeneratorStep → List Nat
  | .spawner x => if g.spawner = .fork ∧ x.ok then [g.touristId] else []
  | _ => []

def reaps (g : Generator) : GeneratorStep → List Nat
  | .spawner x => if g.spawner = .wait ∧ g.children.all ≠ [] then [x.pid] else []
  | .reaper _ pid => if g.reaper = .waitpid ∧ g.children.zombies ≠ [] then [pid] else []
  | _ => []

def forked (tr : GeneratorTrace) : List Nat := Lib.history (fun l g a => l ++ forks g a) [] tr

def reaped (tr : GeneratorTrace) : List Nat := Lib.history (fun l g a => l ++ reaps g a) [] tr

/-- Between its number and its `fork` a tourist is not among the children. -/
def Generator.fresh (g : Generator) : Nat := if g.spawner = .fork then g.touristId else g.touristId + 1

structure Family (total : Nat) (tr : GeneratorTrace) (g : Generator) : Prop where
  perm : (forked tr).Perm (reaped tr ++ g.children.all)
  ids : ∀ i ∈ forked tr, 1 ≤ i ∧ i < g.fresh
  order : (forked tr).Pairwise (· < ·)
  number : g.spawner = .fork → 1 ≤ g.touristId
  bound : g.touristId ≤ total
  room : g.spawner = .closing → g.touristId < total

theorem Family.extend (h : Family total tr g)
    (hperm : (forks g a ++ g.children.all).Perm (reaps g a ++ g'.children.all))
    (hnew : ∀ i ∈ forks g a, i = g.fresh ∧ 1 ≤ i ∧ i < g'.fresh) (hone : (forks g a).length ≤ 1)
    (hle : g.fresh ≤ g'.fresh) (hnum : g'.spawner = .fork → 1 ≤ g'.touristId)
    (hbound : g'.touristId ≤ total) (hroom : g'.spawner = .closing → g'.touristId < total) :
    Family total (tr ++ [(g,a)]) g' := by
  have hf : forked (tr ++ [(g,a)]) = forked tr ++ forks g a := by simp [forked]
  have hr : reaped (tr ++ [(g,a)]) = reaped tr ++ reaps g a := by simp [reaped]
  refine ⟨?_,?_,?_,hnum,hbound,hroom⟩
  · rw [hf,hr]
    calc forked tr ++ forks g a
        List.Perm _ (reaped tr ++ g.children.all ++ forks g a) := h.perm.append_right _
        _ = reaped tr ++ (g.children.all ++ forks g a) := List.append_assoc _ _ _
        List.Perm _ (reaped tr ++ (reaps g a ++ g'.children.all)) :=
          (List.perm_append_comm.trans hperm).append_left _
        _ = reaped tr ++ reaps g a ++ g'.children.all := (List.append_assoc _ _ _).symm
  · rw [hf]
    intro i hi
    rcases List.mem_append.mp hi with hi | hi
    · exact ⟨(h.ids i hi).1,(h.ids i hi).2.trans_le hle⟩
    · exact (hnew i hi).2
  · rw [hf,List.pairwise_append]
    refine ⟨h.order,?_,?_⟩
    · match hl : forks g a, hone with
      | [], _ => exact .nil
      | [_], _ => exact List.pairwise_singleton _ _
    · intro i hi j hj
      rw [(hnew j hj).1]
      exact (h.ids i hi).2

/-- A step that neither forks nor reaps. -/
theorem Family.keep (h : Family total tr g) (hf : forks g a = []) (hr : reaps g a = [])
    (hc : g'.children.all.Perm g.children.all) (hle : g.fresh ≤ g'.fresh)
    (hnum : g'.spawner = .fork → 1 ≤ g'.touristId) (hbound : g'.touristId ≤ total)
    (hroom : g'.spawner = .closing → g'.touristId < total) : Family total (tr ++ [(g,a)]) g' := by
  apply h.extend _ _ _ hle hnum hbound hroom
  · rw [hf,hr]
    exact hc.symm
  · rw [hf]
    simp
  · rw [hf]
    simp

theorem Family.spawn {x : Finding} (h : Family total tr g) (hs : g.spawn total x = some g') :
    Family total (tr ++ [(g,.spawner x)]) g' := by
  have hbound := h.bound
  cases hp : g.spawner <;> simp only [Generator.spawn,hp,reduceCtorEq] at hs
  case closing =>
    have hroom := h.room hp
    split at hs
    · cases hs
      refine h.keep (by simp [forks,hp]) (by simp [reaps,hp]) (.refl _) ?_ ?_ hbound ?_ <;>
        simp [Generator.fresh,hp]
    · cases hs
      refine h.keep (by simp [forks,hp]) (by simp [reaps,hp]) (.refl _) ?_ ?_ hroom ?_ <;>
        simp [Generator.fresh,hp]
  case fork =>
    split at hs <;> rename_i hok <;> cases hs
    · refine h.extend ?_ ?_ ?_ ?_ ?_ hbound ?_
      · simpa [forks,reaps,hp,hok] using (g.children.fork_all g.touristId).symm
      · simp [forks,hp,hok,Generator.fresh,h.number hp]
      · simp [forks,hp,hok]
      all_goals simp [Generator.fresh,hp]
    · refine h.keep (by simp [forks,hok]) (by simp [reaps,hp]) (.refl _) ?_ ?_ hbound ?_ <;>
        simp [Generator.fresh,hp]
  case wait =>
    split at hs
    · rename_i hnone
      cases hs
      refine h.keep (by simp [forks,hp]) (by simp [reaps,hnone]) (.refl _) ?_ ?_ hbound ?_ <;>
        simp [Generator.fresh,hp]
    · rename_i hsome
      obtain ⟨c,hc,rfl⟩ := Option.map_eq_some_iff.mp hs
      refine h.extend ?_ ?_ ?_ ?_ ?_ hbound ?_
      · simpa [forks,reaps,hp,hsome] using Lib.Children.reap_all hc
      all_goals simp [forks,Generator.fresh,hp]
  case top =>
    split at hs <;> rename_i hcond <;> cases hs
    · simp only [Bool.and_eq_true,decide_eq_true_eq] at hcond
      refine h.keep (by simp [forks,hp]) (by simp [reaps,hp]) (.refl _) ?_ ?_ hbound ?_ <;>
        simp [Generator.fresh,hp,hcond.2]
    · refine h.keep (by simp [forks,hp]) (by simp [reaps,hp]) (.refl _) ?_ ?_ hbound ?_ <;>
        simp [Generator.fresh,hp]
  case create | join =>
    split at hs <;> cases hs
    all_goals
      refine h.keep (by simp [forks,hp]) (by simp [reaps,hp]) (.refl _) ?_ ?_ hbound ?_ <;>
        simp [Generator.fresh,hp]
  all_goals
    cases hs
    refine h.keep (by simp [forks,hp]) (by simp [reaps,hp]) (.refl _) ?_ ?_ hbound ?_ <;>
      cases hr : g.reaperRunning <;> simp [Generator.fresh,hp]

/-- The reaper thread and the tourists leave the number of the last tourist alone. -/
theorem Family.others (h : Family total tr g) (hf : forks g a = [])
    (hperm : g.children.all.Perm (reaps g a ++ g'.children.all)) (hp : g'.spawner = g.spawner)
    (hid : g'.touristId = g.touristId) : Family total (tr ++ [(g,a)]) g' := by
  have hfresh : g'.fresh = g.fresh := by simp [Generator.fresh,hp,hid]
  refine h.extend ?_ ?_ ?_ hfresh.ge ?_ ?_ ?_
  · simpa [hf] using hperm
  · simp [hf]
  · simp [hf]
  · rw [hp,hid]
    exact h.number
  · rw [hid]
    exact h.bound
  · rw [hp,hid]
    exact h.room

theorem Family.reap {own : Bool} {pid : Nat} (h : Family total tr g) (hs : g.reap own pid = some g') :
    Family total (tr ++ [(g,.reaper own pid)]) g' := by
  cases hp : g.reaper <;> simp only [Generator.reap,hp,reduceCtorEq] at hs
  case waitpid =>
    split at hs <;> rename_i hz
    · cases hs
      exact h.others rfl (by simp [reaps,hz]) rfl rfl
    · obtain ⟨c,hc,rfl⟩ := Option.map_eq_some_iff.mp hs
      exact h.others rfl (by simpa [reaps,hp,hz] using Lib.Children.reap_all hc) rfl rfl
  case sigwait =>
    repeat' split at hs
    all_goals
      cases hs
      try exact h.others rfl (by simp [reaps,hp,Lib.Children.hear,Lib.Children.all]) rfl rfl
  all_goals
    cases hs
    exact h.others rfl (by simp [reaps,hp]) rfl rfl

theorem run_family (h : GeneratorRuns total tr g) : Family total tr g := by
  refine h.invariant (fun tr g => Family total tr g) ?_ ?_
  · exact ⟨.refl _,by simp [forked],by simp [forked],by simp [Generator.init],Nat.zero_le _,
      by simp [Generator.init]⟩
  · intro tr g a g' hi _ hs
    cases a with
    | spawner x => exact hi.spawn hs
    | reaper own pid => exact hi.reap hs
    | exit pid =>
      obtain ⟨c,hc,rfl⟩ := Option.map_eq_some_iff.mp hs
      exact hi.others rfl (Lib.Children.exit_all hc).symm rfl rfl
    | sigterm =>
      cases hs
      exact hi.others rfl (.refl _) rfl rfl

/-- When the generator returns, every tourist it has forked has been reaped exactly once, by
whichever thread. The ids are distinct and go up to `tourists_to_generate`; a failing `fork`
uses one up. -/
theorem tourists_reaped (h : GeneratorRuns total tr g) (hr : g.spawner = .returned) :
    (reaped tr).Perm (forked tr) ∧ (forked tr).Pairwise (· < ·) ∧
      (∀ i ∈ forked tr, 1 ≤ i ∧ i ≤ total) ∧ g.children.all = [] := by
  have hf := run_family h
  have hnone := (run_generator h).1.all_reaped hr
  refine ⟨?_,hf.order,?_,hnone⟩
  · have hperm := hf.perm
    rw [hnone,List.append_nil] at hperm
    exact hperm.symm
  · intro i hi
    have hlt := hf.ids i hi
    have hbound := hf.bound
    simp only [Generator.fresh,hr,reduceCtorEq,if_false] at hlt
    omega

theorem tourists_reaped_both : ∃ tr g, GeneratorRuns 2 tr g ∧ g.spawner = .returned ∧
    forked tr = [1, 2] ∧ (reaped tr).Perm [1, 2] := by
  have hr : generatorReaches 2 (stopSecond ++ List.replicate 2 (.reaper true 0) ++ spawns 2 ++
      [.exit 2] ++ List.replicate 2 (.spawner ⟨false, true, false, 2⟩))
      (fun tr g => g.spawner == .returned && forked tr == [1, 2]) = true := by decide +kernel
  obtain ⟨tr,g,h,ht⟩ := exists_generator_run hr
  simp only [Bool.and_eq_true,beq_iff_eq] at ht
  have hperm := (tourists_reaped h ht.1).1
  rw [ht.2] at hperm
  exact ⟨tr,g,h,ht.1,ht.2,hperm⟩

end Ropeway
