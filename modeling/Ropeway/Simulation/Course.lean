import Ropeway.Simulation.Effects

/-! The way of the main process through its shutdown. -/

namespace Ropeway
open Function (update)
open Ipc (Obj)

variable {n : Nat} {w w' : World n} {e : Event n} {u : Setup n} {tr : WorldTrace n}

def shutdownOrder : List Obj := Ipc.queues ++ [.sem]

/-- `main` has set `running = 0` for good. -/
def MainPlace.stopping : MainPlace → Bool
  | .kill _ | .rmid _ | .wait | .report | .destroy | .exited => true
  | _ => false

/-- What holds once `main` has set `running = 0`, place by place. -/
def World.Course (w : World n) : Prop :=
  match w.main with
  | .kill _ => w.sys.shm.running = false
  | .rmid rest => w.sys.shm.running = false ∧ ∀ o ∈ shutdownOrder, o ∈ w.removed ∨ o ∈ rest
  | .wait => w.sys.shm.running = false ∧ ∀ o ∈ shutdownOrder, o ∈ w.removed
  | .report | .destroy =>
    w.sys.shm.running = false ∧ (∀ o ∈ shutdownOrder, o ∈ w.removed) ∧ w.children.all = []
  | .exited => w.sys.shm.running = false ∧ (∀ o, o ∈ w.removed) ∧ w.children.all = []
  | _ => True

theorem World.Course.stopped (h : w.Course) (hs : w.main.stopping = true) : w.sys.shm.running = false := by
  unfold World.Course at h
  cases hp : w.main <;> simp only [hp] at h <;> simp only [hp,MainPlace.stopping,reduceCtorEq] at hs
  case kill => exact h
  all_goals exact h.1

theorem running_off (hown : ∀ r, ownPc r (w.sys.worker r).pc = true) (hoff : w.sys.shm.running = false)
    (h : w.step e = some w') : w'.sys.shm.running = false := by
  cases world_effect hown h with
  | @acts a _ hs _ =>
    by_cases ha : a = .shutdown
    · subst ha
      rw [← Option.some.inj hs]
    · rw [step_running hown ha hs]
      exact hoff
  | stays _ hs =>
    rw [hs]
    exact hoff
  | worker _ hs =>
    rw [hs]
    exact hoff
  | cashier _ hs =>
    rw [hs]
    exact hoff

theorem World.Course.main {ok : Bool} {pid : Child} (h : w.Course) (hs : w.mainStep ok pid = some w') :
    w'.Course := by
  unfold World.Course at h
  cases hp : w.main <;> simp only [hp] at h
  case kill rest =>
    cases rest <;> simp only [World.mainStep,hp] at hs <;> cases hs
    · exact ⟨h,fun _ ho => .inr ho⟩
    · exact h
  case rmid rest =>
    cases rest <;> simp only [World.mainStep,hp] at hs <;> cases hs
    · simpa [World.Course] using h
    · refine ⟨h.1,?_⟩
      intro o ho
      rcases h.2 o ho with hr | hr
      · exact .inl (List.mem_cons_of_mem _ hr)
      · rcases List.mem_cons.mp hr with rfl | hr
        · exact .inl List.mem_cons_self
        · exact .inr hr
  case wait =>
    simp only [World.mainStep,hp] at hs
    split at hs
    · rename_i hnone
      cases hs
      exact ⟨h.1,h.2,hnone⟩
    · obtain ⟨c,-,rfl⟩ := Option.map_eq_some_iff.mp hs
      simpa [World.Course] using h
  case report =>
    simp only [World.mainStep,hp] at hs
    cases hs
    exact h
  case destroy =>
    simp only [World.mainStep,hp] at hs
    cases hs
    refine ⟨h.1,?_,h.2.2⟩
    intro o
    cases o with
    | shm => exact List.mem_cons_self
    | _ => exact List.mem_cons_of_mem _ (h.2.1 _ (by decide))
  case stop =>
    simp only [World.mainStep,hp] at hs
    cases hs
    rfl
  case spawn rest =>
    cases rest <;> simp only [World.mainStep,hp] at hs
    all_goals
      try split at hs
      all_goals
        cases hs
        trivial
  case reapWait =>
    simp only [World.mainStep,hp] at hs
    split at hs
    · cases hs
      trivial
    · obtain ⟨c,-,rfl⟩ := Option.map_eq_some_iff.mp hs
      simp [World.Course]
  case reapTest =>
    simp only [World.mainStep,hp] at hs
    cases hs
    cases hc : w.gChildExited <;> trivial
  all_goals
    simp only [World.mainStep,hp] at hs
    repeat' split at hs
    all_goals
      cases hs
      try trivial

theorem World.Course.signal {sig : MainSignal} (h : w.Course) (hs : w.step (.mainSignal sig) = some w') :
    w'.Course := by
  obtain ⟨v,hv,rfl⟩ := Option.map_eq_some_iff.mp hs
  have hv' : v.Course := by
    rcases handler_cases hv with ⟨rfl,-,rfl⟩ | ⟨rfl,-,rfl⟩ | ⟨rfl,rfl⟩ <;> exact h
  split
  · unfold World.mainWoken
    split
    · trivial
    · trivial
    · exact hv'
  · exact hv'

theorem World.Course.step (hown : ∀ r, ownPc r (w.sys.worker r).pc = true) (h : w.Course)
    (hs : w.step e = some w') : w'.Course := by
  cases he : e.ofMain with
  | true =>
    cases e with
    | main ok pid =>
      simp only [World.step,World.mainNext] at hs
      split at hs
      · cases hs
        unfold World.Course at h ⊢
        cases hp : w.main <;> simp only [hp] at h ⊢
        case kill => exact h
        case rmid =>
          exact ⟨h.1,fun o ho => (h.2 o ho).imp_left (List.mem_cons_of_mem _)⟩
        case wait => exact ⟨h.1,fun o ho => List.mem_cons_of_mem _ (h.2 o ho)⟩
        case report | destroy => exact ⟨h.1,fun o ho => List.mem_cons_of_mem _ (h.2.1 o ho),h.2.2⟩
        case exited => exact ⟨h.1,fun o => List.mem_cons_of_mem _ (h.2.1 o),h.2.2⟩
      · exact h.main hs
    | mainSleep =>
      simp only [World.step] at hs
      split at hs <;> cases hs
      exact h
    | mainSignal sig => exact h.signal hs
    | _ => cases he
  | false =>
    have hm := others_main he hs
    have hoff := fun hr => running_off hown hr hs
    unfold World.Course at h ⊢
    rw [hm.main,hm.removed]
    cases hp : w.main <;> simp only [hp] at h ⊢
    case kill => exact hoff h
    case rmid | wait => exact ⟨hoff h.1,h.2⟩
    case report | destroy | exited =>
      refine ⟨hoff h.1,h.2.1,?_⟩
      rcases hm.children with hc | ⟨p,-,hc⟩
      · rw [hc]
        exact h.2.2
      · have hmem := List.mem_append_left w.children.zombies (Lib.Children.exit_some hc).1
        rw [show w.children.living ++ w.children.zombies = [] from h.2.2] at hmem
        cases hmem

theorem run_course {env : WorldEnv n} (h : WorldRuns env u tr w) : w.Course :=
  world_invariant (fun _ w => w.Course) trivial (fun _ _ _ _ hown hi _ hs => hi.step hown hs) h

end Ropeway
