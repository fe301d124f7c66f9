import Ropeway.Simulation.Roster

/-! The main process up to its shutdown: the startup barrier, and the zombies of its loop. -/

namespace Ropeway
open Function (update)
open Ipc (Obj)

variable {n : Nat} {w w' : World n} {e : Event n} {u : Setup n} {tr : WorldTrace n}

def MainPlace.starting : MainPlace → Bool
  | .spawn _ | .check | .barrier => true
  | _ => false

/-- Every post of `SEM_WORKER_READY` is one of a child that has passed its part of the startup. -/
structure Barrier (w : World n) : Prop where
  nodup : w.booted.Nodup
  member : ∀ p ∈ w.booted, p ∈ staff
  rest : ∀ l, w.main = .spawn l → ∀ p ∈ l, p ∈ staff
  all : w.main = .barrier → ∀ p ∈ staff, p ∈ w.spawned
  ready : w.main.starting = true → w.ready = w.booted.length ∧ .generator ∉ w.spawned
  kept : w.main.starting = true → ∀ p ∈ w.spawned, p ∈ w.children.all
  passed : w.main = .spawnGenerator ∨ .generator ∈ w.spawned → ∀ p ∈ staff, p ∈ w.booted

theorem start_barrier (u : Setup n) : Barrier u.world := by
  refine ⟨by simp [Setup.world],by simp [Setup.world],?_,by simp [Setup.world],by simp [Setup.world],by simp [Setup.world],
    by simp [Setup.world]⟩
  intro l hl
  cases hl
  exact fun p hp => hp

/-- Four posts are those of all four. -/
theorem Barrier.full (h : Barrier w) (hs : w.main.starting = true) (hr : workerCountForBarrier ≤ w.ready) :
    ∀ p ∈ staff, p ∈ w.booted := by
  have hlen : staff.length ≤ w.booted.length := by
    rw [← (h.ready hs).1]
    exact hr
  have hsub : List.Subperm w.booted staff := h.nodup.subperm h.member
  have hperm := hsub.perm_of_length_le hlen
  exact fun p hp => hperm.symm.subset hp

/-- Nothing the barrier is about has changed. -/
theorem Barrier.same (h : Barrier w) (hb : w'.booted = w.booted) (hs : w'.spawned = w.spawned)
    (hm : w'.main = w.main) (hr : w'.ready = w.ready) (hc : w'.children.all.Perm w.children.all) : Barrier w' := by
  refine ⟨by rw [hb]; exact h.nodup,by rw [hb]; exact h.member,by rw [hm]; exact h.rest,by rw [hm,hs]; exact h.all,
    by rw [hm,hr,hb,hs]; exact h.ready,?_,by rw [hm,hs,hb]; exact h.passed⟩
  rw [hm,hs]
  exact fun hst p hp => hc.symm.subset (h.kept hst p hp)

/-- `main` has got past the barrier, or it never tries to. -/
theorem Barrier.beyond (h : Barrier w) (hb : w'.booted = w.booted) (hs : w'.spawned = w.spawned)
    (hm : w'.main.starting = false) (hp : w'.main = .spawnGenerator → ∀ p ∈ staff, p ∈ w.booted) : Barrier w' := by
  refine ⟨by rw [hb]; exact h.nodup,by rw [hb]; exact h.member,?_,?_,?_,?_,?_⟩
  · intro l hl
    rw [hl] at hm
    cases hm
  · intro hl
    rw [hl] at hm
    cases hm
  · intro hst
    rw [hm] at hst
    cases hst
  · intro hst
    rw [hm] at hst
    cases hst
  · rw [hb,hs]
    rintro (hl | hg)
    · exact hp hl
    · exact h.passed (.inr hg)

theorem Barrier.main {ok : Bool} {pid : Child} (h : Barrier w) (hs : w.mainStep ok pid = some w') : Barrier w' := by
  cases hp : w.main with
  | spawn l =>
    have hst := h.ready (by rw [hp]; rfl)
    have hkept := h.kept (by rw [hp]; rfl)
    cases l with
    | nil =>
      simp only [World.mainStep,hp] at hs
      cases hs
      exact ⟨h.nodup,h.member,by simp,by simp,fun _ => hst,fun _ => hkept,fun hg => h.passed (hg.imp (by simp) id)⟩
    | cons p l =>
      have hstaff := h.rest _ hp
      simp only [World.mainStep,hp] at hs
      have hnew : .generator ∉ p :: w.spawned := by
        intro hg
        rcases List.mem_cons.mp hg with rfl | hg
        · exact absurd (hstaff _ List.mem_cons_self) (by decide)
        · exact hst.2 hg
      have hrest : ∀ l', MainPlace.spawn l = .spawn l' → ∀ q ∈ l', q ∈ staff := by
        rintro l' hl' q hq
        cases hl'
        exact hstaff q (List.mem_cons_of_mem _ hq)
      split at hs <;> cases hs
      · refine ⟨h.nodup,h.member,hrest,by simp,fun _ => ⟨hst.1,hnew⟩,?_,fun hg => by simp_all⟩
        intro _ q hq
        refine (w.children.fork_all p).symm.subset ?_
        rcases List.mem_cons.mp hq with rfl | hq
        · exact List.mem_cons_self
        · exact List.mem_cons_of_mem _ (hkept q hq)
      · exact ⟨h.nodup,h.member,hrest,by simp,fun _ => hst,fun _ => hkept,fun hg => h.passed (hg.imp (by simp) id)⟩
  | check =>
    have hst := h.ready (by rw [hp]; rfl)
    have hkept := h.kept (by rw [hp]; rfl)
    simp only [World.mainStep,hp] at hs
    split at hs <;> rename_i hall <;> cases hs
    · exact ⟨h.nodup,h.member,by simp,fun _ => hall,fun _ => hst,fun _ => hkept,fun hg => h.passed (hg.imp (by simp) id)⟩
    · exact h.beyond rfl rfl rfl (by simp)
  | barrier =>
    simp only [World.mainStep,hp] at hs
    split at hs
    · cases hs
      exact h.beyond rfl rfl rfl (by simp)
    · split at hs
      · rename_i hr
        cases hs
        exact h.beyond rfl rfl rfl fun _ => h.full (by rw [hp]; rfl) hr
      · cases hs
  | spawnGenerator =>
    have hall := h.passed (.inl hp)
    simp only [World.mainStep,hp] at hs
    split at hs <;> cases hs
    · exact ⟨h.nodup,h.member,by simp,by simp,by simp [MainPlace.starting],by simp [MainPlace.starting],fun _ => hall⟩
    · exact h.beyond rfl rfl rfl fun _ => hall
  | reapWait | wait =>
    simp only [World.mainStep,hp] at hs
    split at hs
    · cases hs
      exact h.beyond rfl rfl rfl (by simp)
    · obtain ⟨c,-,rfl⟩ := Option.map_eq_some_iff.mp hs
      exact h.beyond rfl rfl (by simp [MainPlace.starting]) (by simp)
  | kill l | rmid l =>
    cases l <;> simp only [World.mainStep,hp] at hs <;> cases hs <;> exact h.beyond rfl rfl rfl (by simp)
  | pause | exited =>
    simp only [World.mainStep,hp] at hs
    cases hs
  | reapTest =>
    simp only [World.mainStep,hp] at hs
    cases hs
    cases hg : w.gChildExited <;> exact h.beyond rfl rfl (by simp [MainPlace.starting]) (by simp)
  | unready | test | reapClear | overTest | arm | stop | report | destroy =>
    simp only [World.mainStep,hp] at hs
    try split at hs
    all_goals
      cases hs
      exact h.beyond rfl rfl rfl (by simp)

theorem Barrier.signal {sig : MainSignal} (h : Barrier w) (hs : w.step (.mainSignal sig) = some w') : Barrier w' := by
  obtain ⟨v,hv,rfl⟩ := Option.map_eq_some_iff.mp hs
  have hv' : Barrier v := by
    rcases handler_cases hv with ⟨rfl,-,rfl⟩ | ⟨rfl,-,rfl⟩ | ⟨rfl,rfl⟩ <;>
      exact h.same rfl rfl rfl rfl (.refl _)
  split
  · unfold World.mainWoken
    split
    · exact hv'.beyond rfl rfl rfl (by simp)
    · exact hv'.beyond rfl rfl rfl (by simp)
    · exact hv'.same rfl rfl rfl rfl (.refl _)
  · exact hv'

/-- Only a post changes what the barrier is about. -/
theorem others_ready (he : e.ofMain = false) (hb : ∀ p ok, e ≠ .boot p ok) (hs : w.step e = some w') :
    w'.booted = w.booted ∧ w'.ready = w.ready := by
  cases e with
  | main | mainSleep | mainSignal => cases he
  | boot p ok => exact absurd rfl (hb p ok)
  | term p =>
    simp only [World.step] at hs
    split at hs
    · cases hs
      cases p <;> exact ⟨rfl,rfl⟩
    · cases hs
  | quit r =>
    simp only [World.step] at hs
    split at hs <;> cases hs
    exact ⟨rfl,rfl⟩
  | time ms =>
    simp only [World.step] at hs
    split at hs
    · cases hp : w.timeServer <;> simp only [World.timeStep,hp,reduceCtorEq] at hs
      case firstUpdate | update =>
        obtain ⟨s,-,rfl⟩ := Option.map_eq_some_iff.mp hs
        exact ⟨rfl,rfl⟩
      all_goals
        try split at hs
        all_goals
          cases hs
          exact ⟨rfl,rfl⟩
    · cases hs
  | act | fail | spawner | reaper | exit | leave =>
    simp only [World.step] at hs
    split at hs
    · obtain ⟨g,-,rfl⟩ := Option.map_eq_some_iff.mp hs
      exact ⟨rfl,rfl⟩
    · cases hs

theorem Barrier.boot {p : Child} {ok : Bool} (h : Barrier w) (hs : w.step (.boot p ok) = some w') : Barrier w' := by
  simp only [World.step] at hs
  split at hs
  · rename_i hboot
    obtain ⟨-,hstaff,hnew,-⟩ := hboot
    cases hs
    unfold World.bootChild
    split
    · refine ⟨List.nodup_cons.mpr ⟨hnew,h.nodup⟩,?_,h.rest,h.all,?_,h.kept,?_⟩
      · intro q hq
        rcases List.mem_cons.mp hq with rfl | hq
        · exact hstaff
        · exact h.member q hq
      · intro hst
        have hr := h.ready hst
        exact ⟨by simp [hr.1],hr.2⟩
      · intro hg q hq
        exact List.mem_cons_of_mem _ (h.passed hg q hq)
    · cases p <;> exact h.same rfl rfl rfl rfl (.refl _)
  · cases hs

theorem Barrier.step (h : Barrier w) (hs : w.step e = some w') : Barrier w' := by
  cases he : e.ofMain with
  | true =>
    cases e with
    | main ok pid =>
      simp only [World.step,World.mainNext] at hs
      split at hs
      · cases hs
        exact h.same rfl rfl rfl rfl (.refl _)
      · exact h.main hs
    | mainSleep =>
      simp only [World.step] at hs
      split at hs <;> cases hs
      exact h.same rfl rfl rfl rfl (.refl _)
    | mainSignal sig => exact h.signal hs
    | _ => cases he
  | false =>
    by_cases hb : ∃ p ok, e = .boot p ok
    · obtain ⟨p,ok,rfl⟩ := hb
      exact h.boot hs
    · have hsame := others_ready he (fun p ok hp => hb ⟨p,ok,hp⟩) hs
      have hm := others_main he hs
      refine h.same hsame.1 hm.spawned hm.main hsame.2 ?_
      rcases hm.children with hc | ⟨p,-,hc⟩
      · rw [hc]
      · exact Lib.Children.exit_all hc

theorem run_barrier {env : WorldEnv n} (h : WorldRuns env u tr w) : Barrier w :=
  h.invariant (fun _ w => Barrier w) (start_barrier u) fun _ _ _ _ hi _ hs => hi.step hs

/-- Nobody has been forked by a generator that has not begun. -/
theorem forked_none {env : WorldEnv n} (h : WorldRuns env u tr w) (hg : w.gen = .init) : forked (genTrace tr) = [] := by
  have hf := run_family (run_gen h)
  by_contra hne
  obtain ⟨k,hk⟩ := List.exists_mem_of_ne_nil _ hne
  have hids := hf.ids k hk
  simp only [hg,Generator.fresh,Generator.init,reduceCtorEq,if_false] at hids
  omega

/-- The generator is started, and a tourist takes its first step, only after all four of the staff
have posted `SEM_WORKER_READY`. -/
theorem tourists_after_barrier (h : WorldRuns anyEvent u tr w)
    (hg : .generator ∈ w.spawned ∨ ∃ i, w.sys.tourists i ≠ u.start.tourists i) : ∀ p ∈ staff, p ∈ w.booted := by
  refine (run_barrier h).passed (.inr ?_)
  rcases hg with hg | ⟨i,hi⟩
  · exact hg
  · by_contra hnew
    have hnone := forked_none h ((run_roster h).generator hnew)
    exact hi ((run_begun h i).fresh (by simp [hnone]))

theorem tourists_after_barrier_ride : ∃ tr w, WorldRuns anyEvent (sample 1) tr w ∧
    w.sys.tourists 0 ≠ (sample 1).start.tourists 0 ∧ ∀ p ∈ staff, p ∈ w.booted := by
  have hr : worldReaches anyEvent (sample 1) firstRide (fun _ w => w.sys.shm.totalRides == 1 &&
      (w.sys.tourists 0).pc != .buySend) = true := by decide +kernel
  obtain ⟨tr,w,h,ht⟩ := exists_world_run hr
  simp only [Bool.and_eq_true,bne_iff_ne] at ht
  have hmoved : w.sys.tourists 0 ≠ (sample 1).start.tourists 0 := fun he => ht.2 (by rw [he]; rfl)
  exact ⟨tr,w,h,hmoved,tourists_after_barrier h (.inr ⟨0,hmoved⟩)⟩

/-! ### Zombies -/

/-- `main` knows of every zombie, is about to hear of it or is reaping. -/
def World.Known (w : World n) : Prop :=
  w.children.zombies ≠ [] → w.children.sigchld = true ∨ w.gChildExited = true ∨ w.main = .reapWait

theorem World.Known.main {ok : Bool} {pid : Child} (h : w.Known) (hs : w.mainStep ok pid = some w') : w'.Known := by
  have hkeep : w.main ≠ .reapWait → w.children.zombies ≠ [] → w.children.sigchld = true ∨ w.gChildExited = true := by
    intro hne hz
    rcases h hz with hk | hk | hk
    · exact .inl hk
    · exact .inr hk
    · exact absurd hk hne
  cases hp : w.main with
  | reapTest =>
    simp only [World.mainStep,hp] at hs
    cases hs
    intro hz
    exact (hkeep (by simp [hp]) hz).imp_right .inl
  | reapClear =>
    simp only [World.mainStep,hp] at hs
    cases hs
    exact fun _ => .inr (.inr rfl)
  | reapWait =>
    simp only [World.mainStep,hp] at hs
    split at hs
    · rename_i hz
      cases hs
      exact fun hne => absurd hz hne
    · obtain ⟨c,-,rfl⟩ := Option.map_eq_some_iff.mp hs
      exact fun _ => .inr (.inr rfl)
  | wait =>
    simp only [World.mainStep,hp] at hs
    split at hs
    · cases hs
      exact fun hz => (hkeep (by simp [hp]) hz).imp_right .inl
    · obtain ⟨c,hc,rfl⟩ := Option.map_eq_some_iff.mp hs
      obtain ⟨hmem,rfl⟩ := Lib.Children.reap_some hc
      exact fun _ => (hkeep (by simp [hp]) (List.ne_nil_of_mem hmem)).imp_right .inl
  | spawn l | kill l | rmid l =>
    cases l <;> simp only [World.mainStep,hp] at hs
    all_goals
      try split at hs
      all_goals
        cases hs
        exact fun hz => (hkeep (by simp [hp]) hz).imp_right .inl
  | pause | exited =>
    simp only [World.mainStep,hp] at hs
    cases hs
  | _ =>
    simp only [World.mainStep,hp] at hs
    repeat' split at hs
    all_goals
      cases hs
      try exact fun hz => (hkeep (by simp [hp]) hz).imp_right .inl

theorem World.Known.step (h : w.Known) (hs : w.step e = some w') : w'.Known := by
  cases he : e.ofMain with
  | true =>
    cases e with
    | main ok pid =>
      simp only [World.step,World.mainNext] at hs
      split at hs
      · cases hs
        exact h
      · exact h.main hs
    | mainSleep =>
      simp only [World.step] at hs
      split at hs <;> cases hs
      exact h
    | mainSignal sig =>
      obtain ⟨v,hv,rfl⟩ := Option.map_eq_some_iff.mp hs
      have hv' : v.Known := by
        rcases handler_cases hv with ⟨rfl,-,rfl⟩ | ⟨rfl,-,rfl⟩ | ⟨rfl,rfl⟩
        · exact fun _ => .inr (.inl rfl)
        · exact h
        · exact h
      split
      · unfold World.mainWoken
        split <;> rename_i hp
        · exact fun hz => (hv' hz).imp_right (.imp_right fun hr => by rw [hp] at hr; cases hr)
        · exact fun hz => (hv' hz).imp_right (.imp_right fun hr => by rw [hp] at hr; cases hr)
        · exact hv'
      · exact hv'
    | _ => cases he
  | false =>
    have hm := others_main he hs
    unfold World.Known
    rw [hm.main,hm.gChildExited]
    rcases hm.children with hc | ⟨p,-,hc⟩
    · rw [hc]
      exact h
    · obtain ⟨-,hc⟩ := Lib.Children.exit_some hc
      rw [hc]
      exact fun _ => .inl rfl

theorem run_known {env : WorldEnv n} (h : WorldRuns env u tr w) : w.Known :=
  h.invariant (fun _ w => w.Known) (fun hz => absurd rfl hz) fun _ _ _ _ hi _ hs => hi.step hs

/-- In no order of exits, signals and reaping does `main` lose sight of a zombie: SIGCHLD is
pending, `g_child_exited` is set, or the loop of `reap_zombies` is still running. -/
theorem zombies_known (h : WorldRuns anyEvent u tr w) (hz : w.children.zombies ≠ []) :
    w.children.sigchld = true ∨ w.gChildExited = true ∨ w.main = .reapWait := run_known h hz

/-- The cashier is told to stop and exits while `main` is in its loop. -/
def cashierExits : List (Event 1) :=
  launch ++ [.term .cashier, .act (.cashierFail .exited), .exit .cashier, .mainSignal .chld]

theorem zombies_known_cashier : ∃ tr w, WorldRuns anyEvent (sample 1) tr w ∧ w.children.zombies = [.cashier] ∧
    (w.children.sigchld = true ∨ w.gChildExited = true ∨ w.main = .reapWait) := by
  have hr : worldReaches anyEvent (sample 1) cashierExits (fun _ w => w.children.zombies == [.cashier]) = true := by
    decide +kernel
  obtain ⟨tr,w,h,ht⟩ := exists_world_run hr
  have hz : w.children.zombies = [.cashier] := by simpa using ht
  exact ⟨tr,w,h,hz,zombies_known h (by simp [hz])⟩

/-- Until `main` has passed the barrier it hears of its children only while it is awake: a signal
that comes in its sleep there ends the wait. -/
structure HeardAwake (tr : WorldTrace n) (w : World n) : Prop where
  told : w.gChildExited = true → ∃ q ∈ tr, q.2 = .mainSignal .chld
  place : w.main.starting = true → w.asleep = true → w.main = .barrier
  awake : w.main.starting = true → ∀ q ∈ tr, q.2 = .mainSignal .chld → q.1.asleep = false

/-- The places up to the barrier are not entered again. -/
theorem main_step_starting {ok : Bool} {pid : Child} (hs : w.mainStep ok pid = some w') :
    (w'.gChildExited = true → w.gChildExited = true) ∧
      (w'.main.starting = true → w.main.starting = true ∧ w.main ≠ .barrier ∧ w'.asleep = w.asleep) := by
  cases hp : w.main with
  | spawn l =>
    cases l <;> simp only [World.mainStep,hp] at hs
    all_goals
      try split at hs
      all_goals
        cases hs
        exact ⟨id,fun _ => ⟨rfl,by simp,rfl⟩⟩
  | check =>
    simp only [World.mainStep,hp] at hs
    split at hs <;> cases hs
    · exact ⟨id,fun _ => ⟨rfl,by simp,rfl⟩⟩
    · exact ⟨id,by simp [MainPlace.starting]⟩
  | reapClear =>
    simp only [World.mainStep,hp] at hs
    cases hs
    exact ⟨by simp,by simp [MainPlace.starting]⟩
  | reapTest =>
    simp only [World.mainStep,hp] at hs
    cases hs
    cases hg : w.gChildExited <;> exact ⟨by simp,by simp [MainPlace.starting]⟩
  | reapWait | wait =>
    simp only [World.mainStep,hp] at hs
    split at hs
    · cases hs
      exact ⟨id,by simp [MainPlace.starting]⟩
    · obtain ⟨c,-,rfl⟩ := Option.map_eq_some_iff.mp hs
      exact ⟨id,by simp [MainPlace.starting]⟩
  | kill l | rmid l =>
    cases l <;> simp only [World.mainStep,hp] at hs <;> cases hs <;> exact ⟨id,by simp [MainPlace.starting]⟩
  | pause | exited =>
    simp only [World.mainStep,hp] at hs
    cases hs
  | _ =>
    simp only [World.mainStep,hp] at hs
    repeat' split at hs
    all_goals
      cases hs
      try exact ⟨id,by simp [MainPlace.starting]⟩

theorem HeardAwake.signal {sig : MainSignal} (h : HeardAwake tr w) (hs : w.step (.mainSignal sig) = some w') :
    HeardAwake (tr ++ [(w,.mainSignal sig)]) w' := by
  obtain ⟨v,hv,rfl⟩ := Option.map_eq_some_iff.mp hs
  have hsame : v.main = w.main ∧ v.asleep = w.asleep ∧
      (v.gChildExited = true → w.gChildExited = true ∨ sig = .chld) := by
    rcases handler_cases hv with ⟨rfl,-,rfl⟩ | ⟨rfl,-,rfl⟩ | ⟨rfl,rfl⟩
    · exact ⟨rfl,rfl,fun _ => .inr rfl⟩
    · exact ⟨rfl,rfl,.inl⟩
    · exact ⟨rfl,rfl,.inl⟩
  obtain ⟨hmain,hasleep,hexited⟩ := hsame
  have htold : v.gChildExited = true → ∃ q ∈ tr ++ [(w,Event.mainSignal sig)], q.2 = .mainSignal .chld := by
    intro hg
    rcases hexited hg with hg | rfl
    · obtain ⟨q,hq,hchld⟩ := h.told hg
      exact ⟨q,List.mem_append_left _ hq,hchld⟩
    · exact ⟨_,List.mem_append_right _ List.mem_cons_self,rfl⟩
  by_cases ha : w.asleep = true
  · rw [if_pos ha]
    -- Of the places before the end of the wait `main` sleeps only in the wait itself.
    have hpast : v.mainWoken.main.starting = false := by
      unfold World.mainWoken
      split
      · rfl
      · rfl
      · rename_i hp _
        rw [hmain] at hp ⊢
        by_contra hst
        exact hp (h.place (by simpa using hst) ha)
    refine ⟨?_,fun hst => ?_,fun hst => ?_⟩
    · intro hg
      refine htold ?_
      unfold World.mainWoken at hg
      split at hg <;> exact hg
    all_goals
      rw [hpast] at hst
      cases hst
  · rw [if_neg ha]
    refine ⟨htold,?_,?_⟩
    · rw [hmain,hasleep]
      exact h.place
    · rw [hmain]
      intro hst q hq hchld
      rcases List.mem_append.mp hq with hq | hq
      · exact h.awake hst q hq hchld
      · obtain rfl := List.mem_singleton.mp hq
        simpa using ha

/-- Any other event leaves what has been heard as it is. -/
theorem HeardAwake.quiet (h : HeardAwake tr w) (hc : e ≠ .mainSignal .chld)
    (hg : w'.gChildExited = true → w.gChildExited = true)
    (hst : w'.main.starting = true → w.main.starting = true ∧ (w'.asleep = true → w'.main = .barrier)) :
    HeardAwake (tr ++ [(w,e)]) w' := by
  refine ⟨?_,fun hm => (hst hm).2,?_⟩
  · intro hx
    obtain ⟨q,hq,hchld⟩ := h.told (hg hx)
    exact ⟨q,List.mem_append_left _ hq,hchld⟩
  · intro hm q hq hchld
    rcases List.mem_append.mp hq with hq | hq
    · exact h.awake (hst hm).1 q hq hchld
    · obtain rfl := List.mem_singleton.mp hq
      exact absurd hchld hc

theorem HeardAwake.step (h : HeardAwake tr w) (hs : w.step e = some w') : HeardAwake (tr ++ [(w,e)]) w' := by
  cases he : e.ofMain with
  | true =>
    cases e with
    | main ok pid =>
      simp only [World.step,World.mainNext] at hs
      split at hs
      · cases hs
        exact h.quiet (by simp) id fun hst => ⟨hst,h.place hst⟩
      · obtain ⟨hg,hst⟩ := main_step_starting hs
        refine h.quiet (by simp) hg fun hm => ?_
        obtain ⟨hw,hne,ha⟩ := hst hm
        refine ⟨hw,fun hx => ?_⟩
        rw [ha] at hx
        exact absurd (h.place hw hx) hne
    | mainSleep =>
      simp only [World.step] at hs
      split at hs <;> cases hs
      rename_i hb
      refine h.quiet (by simp) id fun hst => ⟨hst,fun _ => ?_⟩
      rcases hb.2.2 with hp | ⟨hp,-⟩ | ⟨hp,-⟩
      · rw [show w.main = .pause from hp] at hst
        cases hst
      · exact hp
      · rw [show w.main = .wait from hp] at hst
        cases hst
    | mainSignal sig => exact h.signal hs
    | _ => cases he
  | false =>
    have hm := others_main he hs
    refine h.quiet ?_ (by rw [hm.gChildExited]; exact id) ?_
    · rintro rfl
      cases he
    · rw [hm.main,hm.asleep]
      exact fun hst => ⟨hst,h.place hst⟩

theorem run_heard_awake {env : WorldEnv n} (h : WorldRuns env u tr w) : HeardAwake tr w :=
  h.invariant HeardAwake ⟨by simp [Setup.world],by simp [Setup.world],by simp⟩ fun _ _ _ _ hi _ hs => hi.step hs

/-- `main` is stuck at the barrier only when one of the staff has returned without its post and
SIGCHLD was handled before `main` fell asleep there: one that comes later makes the wait fail. -/
theorem barrier_hangs (h : WorldRuns anyEvent u tr w) (hm : w.main = .barrier) (hb : w.blocked)
    (hboot : ∀ p ok, w.step (.boot p ok) = none) (hexit : ∀ p, w.step (.exit p) = none)
    (hsig : w.step (.mainSignal .chld) = none) :
    (∃ p ∈ w.children.zombies, p ∈ staff ∧ p ∉ w.booted) ∧ w.gChildExited = true ∧
      (∃ q ∈ tr, q.2 = .mainSignal .chld) ∧ (∀ q ∈ tr, q.2 = .mainSignal .chld → q.1.asleep = false) ∧
      ∀ l v, WorldRuns anyEvent u (tr ++ l) v → (∃ q ∈ l, q.2 = .mainSignal .chld ∧ q.1.asleep = true) →
        v.main ≠ .barrier := by
  have hbar := run_barrier h
  have hroster := run_roster h
  have hlow : w.ready < workerCountForBarrier := by
    rcases hb with hb | ⟨-,-,hlow⟩ | ⟨hb,-⟩
    · rw [hm] at hb
      cases hb
    · exact hlow
    · rw [hm] at hb
      cases hb
  have hmiss : ∃ p ∈ staff, p ∉ w.booted := by
    by_contra hall
    have hsub : staff ⊆ w.booted := fun p hp => not_not.mp fun hnew => hall ⟨p,hp,hnew⟩
    have hlen : staff.length ≤ w.booted.length := (List.subperm_of_subset (by decide) hsub).length_le
    rw [← (hbar.ready (by rw [hm]; rfl)).1] at hlen
    exact absurd hlow (Nat.not_lt.mpr hlen)
  obtain ⟨p,hp,hnew⟩ := hmiss
  have hsp := hbar.all hm p hp
  have hgone : p ∉ w.children.living := by
    intro hl
    by_cases hx : w.ended p
    · have hnone := hexit p
      simp [World.step,hx,Lib.Children.exit,hl] at hnone
    · have hnone := hboot p true
      simp [World.step,hl,hp,hnew,hx] at hnone
  have hzombie : p ∈ w.children.zombies := by
    rcases List.mem_append.mp (hbar.kept (by rw [hm]; rfl) p hsp) with hl | hz
    · exact absurd hl hgone
    · exact hz
  have hexited : w.gChildExited = true := by
    rcases run_known h (List.ne_nil_of_mem hzombie) with hs | hg | hr
    · simp [World.step,World.mainHandler,hs] at hsig
    · exact hg
    · rw [hm] at hr
      cases hr
  have hheard := run_heard_awake h
  refine ⟨⟨p,hzombie,hp,hnew⟩,hexited,hheard.told hexited,hheard.awake (by rw [hm]; rfl),?_⟩
  rintro l v hv ⟨q,hq,hchld,ha⟩ hstill
  have hawake := (run_heard_awake hv).awake (by rw [hstill]; rfl) q (List.mem_append_right _ hq) hchld
  rw [ha] at hawake
  cases hawake

/-- The time server has no clock and returns before `main` is in the wait. -/
def noClock : List (Event 1) :=
  mains 6 ++ [.boot .timeServer false, .exit .timeServer, .mainSignal .chld] ++ (staff.drop 1).map (.boot · true) ++
    [.mainSleep]

/-- The barrier holds and no child is about to go on with its startup or to exit. -/
def atStandstill (w : World 1) : Bool :=
  w.main == .barrier && w.asleep && decide w.blocked && (w.step (.mainSignal .chld)).isNone &&
    (staff ++ [Child.generator]).all fun p =>
      (w.step (.boot p true)).isNone && (w.step (.boot p false)).isNone && (w.step (.exit p)).isNone

theorem barrier_hangs_once : ∃ tr w, WorldRuns anyEvent (sample 1) tr w ∧ w.main = .barrier ∧ w.asleep = true ∧
    (∃ p ∈ w.children.zombies, p ∈ staff ∧ p ∉ w.booted) ∧ w.gChildExited = true ∧
      (∃ q ∈ tr, q.2 = .mainSignal .chld) ∧ (∀ q ∈ tr, q.2 = .mainSignal .chld → q.1.asleep = false) ∧
      ∀ l v, WorldRuns anyEvent (sample 1) (tr ++ l) v →
        (∃ q ∈ l, q.2 = .mainSignal .chld ∧ q.1.asleep = true) → v.main ≠ .barrier := by
  have hr : worldReaches anyEvent (sample 1) noClock (fun _ w => atStandstill w) = true := by decide +kernel
  obtain ⟨tr,w,h,ht⟩ := exists_world_run hr
  simp only [atStandstill,Bool.and_eq_true,beq_iff_eq,decide_eq_true_eq,Option.isNone_iff_eq_none,List.all_eq_true] at ht
  obtain ⟨⟨⟨⟨hm,ha⟩,hb⟩,hsig⟩,hall⟩ := ht
  have hmem : ∀ p, p ∈ staff ++ [Child.generator] := by
    intro p
    cases p with
    | worker r => cases r <;> decide
    | _ => decide
  have hboot : ∀ p ok, w.step (.boot p ok) = none := by
    intro p ok
    cases ok
    · exact (hall p (hmem p)).1.2
    · exact (hall p (hmem p)).1.1
  exact ⟨tr,w,h,hm,ha,barrier_hangs h hm hb hboot (fun p => (hall p (hmem p)).2) hsig⟩

end Ropeway
