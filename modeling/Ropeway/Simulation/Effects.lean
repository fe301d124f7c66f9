import Ropeway.Simulation.Processes
import Ropeway.Frames.Traffic

/-! What an event does to the simulation proper: it takes one of its steps, or none, or it is
something that only happens when an object is removed or a child is told to stop. -/

namespace Ropeway
open Function (update)
open Ipc (Obj)

variable {n : Nat} {w w' : World n} {e : Event n} {u : Setup n} {tr : WorldTrace n}

/-- The step of the simulation proper that an event takes. -/
def World.sysAct (w : World n) : Event n → Option (Act n)
  | .act a => some a
  | .time ms =>
    if w.timeServer = .firstUpdate ∨ w.timeServer = .update then some (.tick ms) else none
  | .main ok _ =>
    match w.handler with
    | _ :: _ => none
    | [] =>
      match w.main with
      | .check => if ∀ p ∈ staff, p ∈ w.spawned then none else some .shutdown
      | .unready => some .shutdown
      | .spawnGenerator => if ok then none else some .shutdown
      | .overTest => if w.sys.shm.simEndMinutes ≤ w.sys.shm.simMinutes then some .close else none
      | .stop => some .shutdown
      | _ => none
  | _ => none

/-- `worker` is a failing call, the handler of SIGTERM or the end of a loop. -/
inductive Effect (w : World n) (e : Event n) (w' : World n) : Prop
  | acts {a : Act n} (ha : w.sysAct e = some a) (hs : step w.sys a = some w'.sys)
      (hset : .sem ∉ w.removed → ∀ tr, setExists tr w.sys a = true)
  | stays (ha : w.sysAct e = none) (hs : w'.sys = w.sys)
  | worker {r : Role} {k : Worker} {l : LowerLocals} (ha : w.sysAct e = none)
      (hs : w'.sys = { w.sys with lower := l }.setWorker r k) (hl : r = .upper → l = w.sys.lower)
      (own : ownPc r k.pc = true) (exited : (w.sys.worker r).pc = .exited → k.pc = .exited)
      (cause : w.removed ≠ [] ∨ .worker r ∈ w'.term)
  | cashier (ha : w.sysAct e = none) (hs : w'.sys = w.sys.serve .exited) (hsem : .sem ∈ w.removed)
      (hnew : .cashier ∉ w.booted)

theorem main_effect {ok : Bool} {pid : Child} (h : w.mainStep ok pid = some w') (hh : w.handler = []) :
    Effect w (.main ok pid) w' := by
  cases hp : w.main with
  | check =>
    simp only [World.mainStep,hp] at h
    split at h <;> rename_i hall <;> cases h
    · exact .stays (by simp only [World.sysAct,hh,hp,if_pos hall]) rfl
    · exact .acts (a := .shutdown) (by simp [World.sysAct,hh,hp,hall]) rfl fun _ _ => rfl
  | barrier =>
    simp only [World.mainStep,hp] at h
    repeat' split at h
    all_goals
      cases h
      try exact .stays (by simp [World.sysAct,hh,hp]) rfl
  | spawnGenerator =>
    simp only [World.mainStep,hp] at h
    split at h <;> rename_i hok <;> cases h
    · exact .stays (by simp [World.sysAct,hh,hp,hok]) rfl
    · exact .acts (a := .shutdown) (by simp [World.sysAct,hh,hp,hok]) rfl fun _ _ => rfl
  | overTest =>
    simp only [World.mainStep,hp] at h
    split at h <;> rename_i hend <;> cases h
    · exact .acts (a := .close) (by simp [World.sysAct,hh,hp,hend]) rfl fun _ _ => rfl
    · exact .stays (by simp only [World.sysAct,hh,hp,if_neg hend]) rfl
  | unready | stop =>
    simp only [World.mainStep,hp] at h
    cases h
    exact .acts (a := .shutdown) (by simp [World.sysAct,hh,hp]) rfl fun _ _ => rfl
  | reapWait | wait =>
    simp only [World.mainStep,hp] at h
    split at h
    · cases h
      exact .stays (by simp [World.sysAct,hh,hp]) rfl
    · obtain ⟨c,-,rfl⟩ := Option.map_eq_some_iff.mp h
      exact .stays (by simp [World.sysAct,hh,hp]) rfl
  | spawn rest | kill rest | rmid rest =>
    cases rest <;> simp only [World.mainStep,hp] at h
    all_goals
      try split at h
      all_goals
        cases h
        exact .stays (by simp [World.sysAct,hh,hp]) rfl
  | pause | exited =>
    simp only [World.mainStep,hp] at h
    cases h
  | test | reapTest | reapClear | arm | report | destroy =>
    simp only [World.mainStep,hp] at h
    try split at h
    all_goals
      cases h
      exact .stays (by simp [World.sysAct,hh,hp]) rfl

/-- What a handler of `main` does when it is entered. -/
theorem handler_cases {sig : MainSignal} {v : World n} (h : w.mainHandler sig = some v) :
    (sig = .chld ∧ w.children.sigchld = true ∧ v = { w with children := w.children.hear, gChildExited := true }) ∨
      (sig = .alrm ∧ w.alarm = true ∧ v = { w with alarm := false }) ∨
        (sig = .term ∧ v = { w with gRunning := false, handler := cleanupOrder ++ w.handler }) := by
  cases sig with
  | chld =>
    simp only [World.mainHandler] at h
    split at h <;> cases h
    exact .inl ⟨rfl,‹_›,rfl⟩
  | alrm =>
    simp only [World.mainHandler] at h
    split at h <;> cases h
    exact .inr (.inl ⟨rfl,‹_›,rfl⟩)
  | term =>
    cases h
    exact .inr (.inr ⟨rfl,rfl⟩)

theorem woken_sys (w : World n) : w.mainWoken.sys = w.sys := by
  unfold World.mainWoken
  split <;> rfl

theorem signal_effect {sig : MainSignal} (h : w.step (.mainSignal sig) = some w') :
    Effect w (.mainSignal sig) w' := by
  obtain ⟨v,hv,rfl⟩ := Option.map_eq_some_iff.mp h
  have hsame : v.sys = w.sys := by
    rcases handler_cases hv with ⟨rfl,-,rfl⟩ | ⟨rfl,-,rfl⟩ | ⟨rfl,rfl⟩ <;> rfl
  refine .stays rfl ?_
  split
  · exact (woken_sys v).trans hsame
  · exact hsame

theorem boot_effect {p : Child} {ok : Bool} (h : w.step (.boot p ok) = some w') : Effect w (.boot p ok) w' := by
  simp only [World.step] at h
  split at h
  · rename_i hboot
    cases h
    unfold World.bootChild
    split
    · exact .stays rfl rfl
    · rename_i hfail
      cases p with
      | timeServer => exact .stays rfl rfl
      | generator => exact .stays rfl rfl
      | cashier =>
        refine .cashier rfl rfl ?_ hboot.2.2.1
        by_contra hsem
        exact hfail ⟨hsem,.inr (by simp)⟩
      | worker r =>
        refine .worker rfl rfl (fun _ => rfl) (by cases r <;> rfl) (fun _ => rfl) (.inl ?_)
        intro hnone
        exact hfail ⟨by simp [hnone],.inr (by simp)⟩
  · cases h

theorem lower_failure {s s' : Sys n} {p : LowerPc} {x : Errno} (h : lowerFailure s x p = some s') :
    ∃ k l, s' = { s with lower := l }.setWorker .lower k ∧ ownPc .lower k.pc = true := by
  cases p <;> simp only [lowerFailure,reduceCtorEq] at h
  case receive =>
    cases h
    refine ⟨_,_,rfl,?_⟩
    cases x <;> rfl
  case requeue => cases x <;> cases h <;> exact ⟨_,_,rfl,rfl⟩
  case dispatchWait site =>
    cases h
    cases site <;> exact ⟨_,_,rfl,rfl⟩
  case dispatchSend site i =>
    cases h
    cases site <;> exact ⟨_,_,rfl,rfl⟩
  all_goals
    cases h
    exact ⟨_,_,rfl,rfl⟩

/-- A failing call changes nothing but the worker's own record and `g_pending`. -/
theorem worker_failure {s s' : Sys n} {r : Role} {x : Errno} (hown : ownPc r (s.worker r).pc = true)
    (h : workerFailure s r x = some s') : ∃ k l, s' = { s with lower := l }.setWorker r k ∧
      (r = .upper → l = s.lower) ∧ ownPc r k.pc = true := by
  unfold workerFailure at h
  split at h
  case h_11 p hp =>
    obtain rfl := own_lower hown hp
    obtain ⟨k,l,he,ho⟩ := lower_failure h
    exact ⟨k,l,he,by simp,ho⟩
  case h_12 hp =>
    obtain rfl := own_upper hown hp
    cases x <;> cases h <;> exact ⟨_,_,rfl,fun _ => rfl,rfl⟩
  case h_13 => cases h
  all_goals
    cases h
    exact ⟨_,_,rfl,fun _ => rfl,by cases r <;> rfl⟩

theorem term_effect (p : Child) (hown : ∀ r, ownPc r (w.sys.worker r).pc = true) :
    Effect w (.term p) (w.termChild p) := by
  cases p with
  | worker r =>
    simp only [World.termChild]
    by_cases ha : (w.sys.worker r).asleep = true
    · obtain ⟨al,he⟩ := interrupted_eq (hown r)
      rw [if_pos ha]
      refine .worker rfl he (fun _ => rfl) (wake_own (hown r)) ?_ (.inr List.mem_cons_self)
      intro hx
      simp [hx,wakePc]
    · rw [if_neg ha]
      exact .stays rfl rfl
  | _ => exact .stays rfl rfl

theorem time_effect {ms : Nat} (h : w.timeStep ms = some w') : Effect w (.time ms) w' := by
  cases hp : w.timeServer <;> simp only [World.timeStep,hp,reduceCtorEq] at h
  case firstUpdate | update =>
    obtain ⟨s,hs,rfl⟩ := Option.map_eq_some_iff.mp h
    exact .acts (by simp [World.sysAct,hp]) hs fun _ _ => rfl
  case top =>
    split at h
    all_goals
      cases h
      exact .stays (by simp [World.sysAct,hp]) rfl
  case pause =>
    cases h
    exact .stays (by simp [World.sysAct,hp]) rfl

/-- While the set is there, no wait on it fails for good. -/
theorem allows_set {a : Act n} (h : w.allows a) (hsem : .sem ∉ w.removed) (tr : List (Sys n × Act n)) :
    setExists tr w.sys a = true := by
  cases a with
  | touristFail i =>
    simp only [setExists,Bool.not_eq_true']
    by_contra ht
    exact hsem (h.2 (by simpa using ht))
  | cashierFail pc =>
    simp only [setExists,bne_iff_ne,ne_eq]
    intro hp
    exact hsem (h.2.2.1 hp)
  | _ => rfl

/-- Every event has one of the four effects. -/
theorem world_effect (hown : ∀ r, ownPc r (w.sys.worker r).pc = true) (h : w.step e = some w') :
    Effect w e w' := by
  cases e with
  | main ok pid =>
    simp only [World.step,World.mainNext] at h
    split at h <;> rename_i hh
    · cases h
      exact .stays (by simp [World.sysAct,hh]) rfl
    · exact main_effect h hh
  | mainSignal sig => exact signal_effect h
  | boot p ok => exact boot_effect h
  | mainSleep =>
    simp only [World.step] at h
    split at h <;> cases h
    exact .stays rfl rfl
  | act a =>
    simp only [World.step] at h
    split at h
    · obtain ⟨s,hs,rfl⟩ := Option.map_eq_some_iff.mp h
      exact .acts rfl hs (allows_set ‹_›)
    · cases h
  | fail r x =>
    simp only [World.step] at h
    split at h
    · rename_i hfail
      obtain ⟨s,hs,rfl⟩ := Option.map_eq_some_iff.mp h
      obtain ⟨k,l,he,hl,hk⟩ := worker_failure (hown r) hs
      refine .worker rfl he hl hk ?_ (.inl ?_)
      · intro hx
        simp [workerFailure,hx] at hs
      intro hnone
      exact hfail.2 (by simp [World.answers,hnone])
    · cases h
  | term p =>
    simp only [World.step] at h
    split at h
    · cases h
      exact term_effect p hown
    · cases h
  | quit r =>
    simp only [World.step] at h
    split at h
    · rename_i hq
      cases h
      have halive : (w.sys.worker r).pc ≠ .exited := by simp [hq.2.1]
      cases r <;> exact .worker rfl rfl (fun _ => rfl) rfl (fun hx => absurd hx halive) (.inr hq.2.2)
    · cases h
  | time ms =>
    simp only [World.step] at h
    split at h
    · exact time_effect h
    · cases h
  | spawner ok pid | reaper own pid | exit p | leave i =>
    simp only [World.step] at h
    split at h
    · obtain ⟨g,-,rfl⟩ := Option.map_eq_some_iff.mp h
      exact .stays rfl rfl
    · cases h

theorem effect_own (hown : ∀ r, ownPc r (w.sys.worker r).pc = true) (h : Effect w e w') :
    ∀ r, ownPc r (w'.sys.worker r).pc = true := by
  cases h with
  | acts _ hs => exact step_own hown hs
  | stays _ hs =>
    rw [hs]
    exact hown
  | @worker r k l _ hs _ ho =>
    rw [hs]
    refine r.both (by simpa using ho) ?_
    simpa using hown r.other
  | cashier _ hs =>
    rw [hs]
    exact hown

/-- In every run each worker stays in its own program and every event has its effect. -/
theorem world_invariant {env : WorldEnv n} (I : WorldTrace n → World n → Prop) (start : I [] u.world)
    (preserve : ∀ tr w e w', (∀ r, ownPc r (w.sys.worker r).pc = true) → I tr w →
      env tr w e = true → w.step e = some w' → I (tr ++ [(w,e)]) w')
    (h : WorldRuns env u tr w) : I tr w := by
  have hboth : (∀ r, ownPc r (w.sys.worker r).pc = true) ∧ I tr w := by
    refine h.invariant (fun tr w => (∀ r, ownPc r (w.sys.worker r).pc = true) ∧ I tr w) ?_ ?_
    · refine ⟨?_,start⟩
      intro r
      cases r <;> rfl
    · intro tr w e w' hi allowed hs
      exact ⟨effect_own hi.1 (world_effect hi.1 hs),preserve tr w e w' hi.1 hi.2 allowed hs⟩
  exact hboth.2

theorem run_own {env : WorldEnv n} (h : WorldRuns env u tr w) : ∀ r, ownPc r (w.sys.worker r).pc = true :=
  world_invariant (fun _ w => ∀ r, ownPc r (w.sys.worker r).pc = true) (fun r => by cases r <;> rfl)
    (fun _ _ _ _ hown _ _ hs => effect_own hown (world_effect hown hs)) h

def Event.ofMain : Event n → Bool
  | .main _ _ | .mainSleep | .mainSignal _ => true
  | _ => false

/-- The children leave alone what is the main process's own. -/
structure SameMain (w w' : World n) : Prop where
  removed : w'.removed = w.removed
  spawned : w'.spawned = w.spawned
  main : w'.main = w.main
  asleep : w'.asleep = w.asleep
  gRunning : w'.gRunning = w.gRunning
  gChildExited : w'.gChildExited = w.gChildExited
  alarm : w'.alarm = w.alarm
  handler : w'.handler = w.handler
  term : ∃ l, w'.term = l ++ w.term
  booted : ∃ l, w'.booted = l ++ w.booted ∧ ∀ p ∈ l, p ∈ w.children.living
  children : w'.children = w.children ∨ ∃ p, w.ended p ∧ w.children.exit p = some w'.children

theorem SameMain.of_rfl {s : Sys n} {k : Nat} {t : TimePc} {g : Generator} :
    SameMain w { w with sys := s, ready := k, timeServer := t, gen := g } :=
  ⟨rfl,rfl,rfl,rfl,rfl,rfl,rfl,rfl,⟨[],rfl⟩,⟨[],rfl,by simp⟩,.inl rfl⟩

theorem others_main (he : e.ofMain = false) (h : w.step e = some w') : SameMain w w' := by
  cases e with
  | main | mainSleep | mainSignal => cases he
  | boot p ok =>
    simp only [World.step] at h
    split at h
    · rename_i hboot
      cases h
      unfold World.bootChild
      split
      · exact ⟨rfl,rfl,rfl,rfl,rfl,rfl,rfl,rfl,⟨[],rfl⟩,⟨[p],rfl,by simpa using hboot.1⟩,.inl rfl⟩
      · cases p <;> exact .of_rfl
    · cases h
  | term p =>
    simp only [World.step] at h
    split at h
    · cases h
      cases p with
      | generator => exact .of_rfl
      | _ => exact ⟨rfl,rfl,rfl,rfl,rfl,rfl,rfl,rfl,⟨[_],rfl⟩,⟨[],rfl,by simp⟩,.inl rfl⟩
    · cases h
  | quit r =>
    simp only [World.step] at h
    split at h <;> cases h
    exact .of_rfl
  | time ms =>
    simp only [World.step] at h
    split at h
    · cases hp : w.timeServer <;> simp only [World.timeStep,hp,reduceCtorEq] at h
      case firstUpdate | update =>
        obtain ⟨s,-,rfl⟩ := Option.map_eq_some_iff.mp h
        exact .of_rfl
      all_goals
        try split at h
        all_goals
          cases h
          exact .of_rfl
    · cases h
  | exit p =>
    simp only [World.step] at h
    split at h
    · rename_i hend
      obtain ⟨c,hc,rfl⟩ := Option.map_eq_some_iff.mp h
      exact ⟨rfl,rfl,rfl,rfl,rfl,rfl,rfl,rfl,⟨[],rfl⟩,⟨[],rfl,by simp⟩,.inr ⟨p,hend,hc⟩⟩
    · cases h
  | act | fail | spawner | reaper | leave =>
    simp only [World.step] at h
    split at h
    · obtain ⟨g,-,rfl⟩ := Option.map_eq_some_iff.mp h
      exact .of_rfl
    · cases h

/-- The main process leaves the programs of its children alone. -/
structure MainOnly (w w' : World n) : Prop where
  term : w'.term = w.term
  booted : w'.booted = w.booted
  timeServer : w'.timeServer = w.timeServer
  gen : w'.gen = w.gen
  removed : ∃ l, w'.removed = l ++ w.removed
  sys : ∃ b c, w'.sys = { w.sys with shm.running := b, shm.closing := c }
  family : w'.children.living = w.children.living ∧ w'.spawned = w.spawned ∨
    ∃ p, w'.children.living = w.children.living ++ [p] ∧ w'.spawned = p :: w.spawned

theorem MainOnly.of_rfl {l : List Obj} {b c : Bool} {r : Nat} {m : MainPlace} {as gr gc al : Bool}
    {ha : List Obj} : MainOnly w { w with
      sys := { w.sys with shm.running := b, shm.closing := c }, removed := l ++ w.removed, ready := r
      main := m, asleep := as, gRunning := gr, gChildExited := gc, alarm := al, handler := ha } :=
  ⟨rfl,rfl,rfl,rfl,⟨l,rfl⟩,⟨b,c,rfl⟩,.inl ⟨rfl,rfl⟩⟩

theorem MainOnly.moves {r : Nat} {m : MainPlace} {as gr gc al : Bool} {ha : List Obj} : MainOnly w { w with
    ready := r, main := m, asleep := as, gRunning := gr, gChildExited := gc, alarm := al, handler := ha } :=
  .of_rfl (l := [])

theorem MainOnly.reaps {pid : Child} {c : Lib.Children Child} {m : MainPlace} {as : Bool}
    (hc : w.children.reap pid = some c) : MainOnly w { w with main := m, children := c, asleep := as } :=
  ⟨rfl,rfl,rfl,rfl,⟨[],rfl⟩,⟨_,_,rfl⟩,.inl ⟨(Lib.Children.reap_count hc).1,rfl⟩⟩

theorem main_step_only {ok : Bool} {pid : Child} (h : w.mainStep ok pid = some w') : MainOnly w w' := by
  cases hp : w.main with
  | spawn rest =>
    cases rest <;> simp only [World.mainStep,hp] at h
    · cases h
      exact .moves
    · split at h <;> cases h
      · exact ⟨rfl,rfl,rfl,rfl,⟨[],rfl⟩,⟨_,_,rfl⟩,.inr ⟨_,rfl,rfl⟩⟩
      · exact .moves
  | spawnGenerator =>
    simp only [World.mainStep,hp] at h
    split at h <;> cases h
    · exact ⟨rfl,rfl,rfl,rfl,⟨[],rfl⟩,⟨_,_,rfl⟩,.inr ⟨_,rfl,rfl⟩⟩
    · exact .of_rfl (l := [])
  | reapWait =>
    simp only [World.mainStep,hp] at h
    split at h
    · cases h
      exact .moves
    · obtain ⟨c,hc,rfl⟩ := Option.map_eq_some_iff.mp h
      exact .reaps hc
  | wait =>
    simp only [World.mainStep,hp] at h
    split at h
    · cases h
      exact .moves
    · obtain ⟨c,hc,rfl⟩ := Option.map_eq_some_iff.mp h
      exact .reaps hc
  | rmid rest =>
    cases rest <;> simp only [World.mainStep,hp] at h <;> cases h
    · exact .moves
    · exact .of_rfl (l := [_])
  | destroy =>
    simp only [World.mainStep,hp] at h
    cases h
    exact .of_rfl (l := [_])
  | check | barrier | unready | overTest | stop =>
    simp only [World.mainStep,hp] at h
    repeat' split at h
    all_goals
      cases h
      try exact .of_rfl (l := [])
  | kill rest =>
    cases rest <;> simp only [World.mainStep,hp] at h <;> cases h <;> exact .moves
  | pause | exited =>
    simp only [World.mainStep,hp] at h
    cases h
  | test | reapTest | reapClear | arm | report =>
    simp only [World.mainStep,hp] at h
    try split at h
    all_goals
      cases h
      exact .moves

theorem main_only (he : e.ofMain = true) (h : w.step e = some w') : MainOnly w w' := by
  cases e with
  | main ok pid =>
    simp only [World.step,World.mainNext] at h
    split at h
    · cases h
      exact .of_rfl (l := [_])
    · exact main_step_only h
  | mainSleep =>
    simp only [World.step] at h
    split at h <;> cases h
    exact .moves
  | mainSignal sig =>
    obtain ⟨v,hv,rfl⟩ := Option.map_eq_some_iff.mp h
    have hsame : MainOnly w v := by
      rcases handler_cases hv with ⟨rfl,-,rfl⟩ | ⟨rfl,-,rfl⟩ | ⟨rfl,rfl⟩
      · exact ⟨rfl,rfl,rfl,rfl,⟨[],rfl⟩,⟨_,_,rfl⟩,.inl ⟨rfl,rfl⟩⟩
      · exact .moves
      · exact .moves
    obtain ⟨ht,hb,hts,hg,hr,⟨b,c,hsys⟩,hf⟩ := hsame
    split
    · unfold World.mainWoken
      split <;> exact ⟨ht,hb,hts,hg,hr,⟨b,c,hsys⟩,hf⟩
    · exact ⟨ht,hb,hts,hg,hr,⟨b,c,hsys⟩,hf⟩
  | _ => cases he

theorem removed_grows (h : w.step e = some w') : ∃ l, w'.removed = l ++ w.removed := by
  cases he : e.ofMain with
  | true => exact (main_only he h).removed
  | false => exact ⟨[],(others_main he h).removed⟩

theorem term_grows (h : w.step e = some w') : ∃ l, w'.term = l ++ w.term := by
  cases he : e.ofMain with
  | true => exact ⟨[],(main_only he h).term⟩
  | false => exact (others_main he h).term

def sysTrace (tr : WorldTrace n) : List (Sys n × Act n) :=
  Lib.history (fun l w e => l ++ ((w.sysAct e).map fun a => (w.sys,a)).toList) [] tr

theorem sys_trace_acts {a : Act n} (h : w.sysAct e = some a) :
    sysTrace (tr ++ [(w,e)]) = sysTrace tr ++ [(w.sys,a)] := by
  simp [sysTrace,h]

theorem sys_trace_none (h : w.sysAct e = none) : sysTrace (tr ++ [(w,e)]) = sysTrace tr := by
  simp [sysTrace,h]

/-- As long as no object has been removed and no worker has been told to stop by a signal,
the whole program takes the steps of the simulation proper and no others. -/
theorem refines_sys (h : WorldRuns anyEvent u tr w) (hrem : w.removed = [])
    (hterm : ∀ r, Child.worker r ∉ w.term) : Runs [setExists] u (sysTrace tr) w.sys := by
  refine world_invariant (fun tr w => w.removed = [] → (∀ r, Child.worker r ∉ w.term) →
    Runs [setExists] u (sysTrace tr) w.sys) (fun _ _ => .nil) ?_ h hrem hterm
  intro tr w e w' hown hi _ hs hrem hterm
  have hrem₀ : w.removed = [] := by
    obtain ⟨l,hl⟩ := removed_grows hs
    rw [hrem] at hl
    exact (List.append_eq_nil_iff.mp hl.symm).2
  have hterm₀ : ∀ r, Child.worker r ∉ w.term := by
    obtain ⟨l,hl⟩ := term_grows hs
    intro r hr
    exact hterm r (by rw [hl]; exact List.mem_append_right _ hr)
  have hrun := hi hrem₀ hterm₀
  cases world_effect hown hs with
  | acts ha hs' hset =>
    rw [sys_trace_acts ha]
    refine hrun.snoc ?_ hs'
    simp [allow,hset (by simp [hrem₀])]
  | stays ha hsame =>
    rw [sys_trace_none ha,hsame]
    exact hrun
  | worker _ _ _ _ _ cause =>
    rcases cause with hc | hc
    · exact absurd hrem₀ hc
    · exact absurd hc (hterm _)
  | cashier _ _ hsem _ => simp [hrem₀] at hsem

theorem refines_sys_ride : ∃ tr w, WorldRuns anyEvent (sample 1) tr w ∧ w.removed = [] ∧
    (∀ r, Child.worker r ∉ w.term) ∧ w.sys.shm.totalRides = 1 ∧
      Runs [setExists] (sample 1) (sysTrace tr) w.sys := by
  have hr : worldReaches anyEvent (sample 1) firstRide (fun _ w =>
      w.removed == [] && w.term == [] && w.sys.shm.totalRides == 1) = true := by decide +kernel
  obtain ⟨tr,w,h,ht⟩ := exists_world_run hr
  simp only [Bool.and_eq_true,beq_iff_eq] at ht
  have hterm : ∀ r, Child.worker r ∉ w.term := by simp [ht.1.2]
  exact ⟨tr,w,h,ht.1.1,hterm,ht.2,refines_sys h ht.1.1 hterm⟩

end Ropeway
