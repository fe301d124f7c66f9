import Mathlib.Data.List.Basic

/-! Finite runs of a deterministic step function driven by a schedule. The
trace keeps the state each action was taken in, so history variables are folds
over it and never part of the state. -/

namespace Lib

variable {σ α γ : Type}

/-- `Run step env s₀ tr s`: from `s₀` the actions of `tr` lead to `s`, and the
environment, which sees the trace so far, allowed each of them. -/
inductive Run (step : σ → α → Option σ) (env : List (σ × α) → σ → α → Bool) (s₀ : σ) :
    List (σ × α) → σ → Prop
  | nil : Run step env s₀ [] s₀
  | snoc {tr : List (σ × α)} {s s' : σ} {a : α} (h : Run step env s₀ tr s)
      (allowed : env tr s a = true) (taken : step s a = some s') :
      Run step env s₀ (tr ++ [(s,a)]) s'

variable {step : σ → α → Option σ} {env env' : List (σ × α) → σ → α → Bool} {s₀ s t : σ}
  {tr pre : List (σ × α)}

/-- A property of trace and state that holds at the start and survives every
allowed step holds along the whole run. -/
theorem Run.invariant (I : List (σ × α) → σ → Prop) (start : I [] s₀)
    (preserve : ∀ tr s a s', I tr s → env tr s a = true → step s a = some s' →
      I (tr ++ [(s,a)]) s') (h : Run step env s₀ tr s) : I tr s := by
  induction h with
  | nil => exact start
  | snoc _ allowed taken ih => exact preserve _ _ _ _ ih allowed taken

/-- Every step of a trace was taken in a run of its own. -/
theorem Run.before {post : List (σ × α)} {a : α}
    (h : Run step env s₀ (pre ++ (s,a) :: post) t) :
    Run step env s₀ pre s ∧ env pre s a = true ∧ ∃ s', step s a = some s' := by
  generalize he : pre ++ (s,a) :: post = tr at h
  induction h generalizing post with
  | nil => simp at he
  | snoc h allowed taken ih =>
    rcases List.eq_nil_or_concat post with rfl | ⟨l,b,rfl⟩
    · obtain ⟨rfl,hb⟩ := List.append_inj' he rfl
      cases hb
      exact ⟨h,allowed,_,taken⟩
    · have hl : (pre ++ (s,a) :: l) ++ [b] = pre ++ (s,a) :: l.concat b := by simp
      rw [← hl] at he
      exact ih (List.append_inj' he rfl).1

/-- Drive the system with a fixed schedule after the trace `pre`. It stops with
`none` at the first action that is disabled or that the environment forbids. -/
def exec (step : σ → α → Option σ) (env : List (σ × α) → σ → α → Bool) :
    List (σ × α) → List α → σ → Option (List (σ × α) × σ)
  | _, [], s => some ([],s)
  | pre, a :: as, s =>
    if env pre s a then
      match step s a with
      | none => none
      | some s' => (exec step env (pre ++ [(s,a)]) as s').map (fun (tr,t) => ((s,a) :: tr,t))
    else none

theorem exec_cons {as : List α} {a : α} (allowed : env pre s a = true) (taken : step s a = some t)
    {u : σ} (hx : exec step env (pre ++ [(s,a)]) as t = some (tr,u)) :
    exec step env pre (a :: as) s = some ((s,a) :: tr,u) := by
  simp [exec,allowed,taken,hx]

theorem run_of_exec {as : List α} (h : Run step env s₀ pre s)
    (hx : exec step env pre as s = some (tr,t)) : Run step env s₀ (pre ++ tr) t := by
  induction as generalizing pre s tr with
  | nil =>
    simp only [exec,Option.some.injEq,Prod.mk.injEq] at hx
    obtain ⟨rfl,rfl⟩ := hx
    simpa using h
  | cons a as ih =>
    simp only [exec] at hx
    split at hx
    · rename_i allowed
      split at hx
      · cases hx
      · rename_i s' taken
        obtain ⟨⟨tr',t'⟩,hrest,he⟩ := Option.map_eq_some_iff.mp hx
        simp only [Prod.mk.injEq] at he
        obtain ⟨rfl,rfl⟩ := he
        simpa using ih (h.snoc allowed taken) hrest
    · cases hx

/-- A schedule that passes a test at its end gives a run that does. -/
theorem exists_run (as : List α) (test : List (σ × α) → σ → Bool)
    (hx : (exec step env [] as s₀).any (fun p => test p.1 p.2) = true) :
    ∃ tr t, Run step env s₀ tr t ∧ test tr t = true := by
  cases he : exec step env [] as s₀ with
  | none => simp [he] at hx
  | some p =>
    refine ⟨p.1,p.2,?_,?_⟩
    · simpa using run_of_exec .nil he
    · simpa [he] using hx

/-- A history variable: fold the steps of the trace, oldest first. -/
def history (next : γ → σ → α → γ) (start : γ) (tr : List (σ × α)) : γ :=
  tr.foldl (fun g p => next g p.1 p.2) start

@[simp] theorem history_nil (next : γ → σ → α → γ) (start : γ) :
    history next start [] = start := rfl

@[simp] theorem history_snoc (next : γ → σ → α → γ) (start : γ) (tr : List (σ × α))
    (s : σ) (a : α) :
    history next start (tr ++ [(s,a)]) = next (history next start tr) s a := by
  simp [history]

end Lib
