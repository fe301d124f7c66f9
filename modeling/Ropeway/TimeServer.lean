import Ropeway.System
import Mathlib.Algebra.Order.Floor.Ring
import Mathlib.Data.Rat.Floor

/-! `processes/time_server.c`: the simulated time and the pauses. Clock readings are
integer nanoseconds and the arithmetic on doubles is exact. -/

namespace Ropeway
open Lib

/-- The static variables of the time server and the time it has published; `clock` is
what `CLOCK_MONOTONIC` showed at the last step. -/
structure TimeServer where
  paused : Bool
  sigcontReceived : Bool
  pauseStart : Int
  totalPauseOffset : Int
  realStartTime : Int
  currentSimTimeMs : Int
  clock : Int
  deriving DecidableEq

/-- `time_acceleration` as `time_init` computes it, in simulated minutes for each real
second. -/
def timeAcceleration (cfg : Config) : Rat :=
  if cfg.simulationDurationReal ≤ 0 then ((cfg.endMinutes - cfg.startMinutes : Int) : Rat) / 60
  else ((cfg.endMinutes - cfg.startMinutes : Int) : Rat) / (cfg.simulationDurationReal : Rat)

def TimeServer.init (cfg : Config) (t : Int) : TimeServer where
  paused := false
  sigcontReceived := false
  pauseStart := 0
  totalPauseOffset := 0
  realStartTime := t
  currentSimTimeMs := cfg.startMinutes * 60 * 1000
  clock := t

/-- `sigtstp_handler` up to its `raise`. -/
def TimeServer.sigtstpHandler (s : TimeServer) (t : Int) : TimeServer :=
  { s with pauseStart := t, paused := true }

def TimeServer.sigcontHandler (s : TimeServer) : TimeServer := { s with sigcontReceived := true }

def TimeServer.handleResume (s : TimeServer) (t : Int) : TimeServer :=
  if s.sigcontReceived then
    if s.paused then
      { s with
        sigcontReceived := false
        totalPauseOffset := s.totalPauseOffset + (t - s.pauseStart)
        paused := false }
    else { s with sigcontReceived := false }
  else s

/-- `effective_elapsed` before it is cut off at 0, in nanoseconds. -/
def TimeServer.elapsed (s : TimeServer) (t : Int) : Int :=
  t - s.realStartTime - s.totalPauseOffset - (if s.paused then t - s.pauseStart else 0)

def TimeServer.effectiveElapsed (s : TimeServer) (t : Int) : Int :=
  if s.elapsed t < 0 then 0 else s.elapsed t

/-- The conversion of a double to `int64_t` cuts off towards 0. -/
def toInt64 (x : Rat) : Int := if 0 ≤ x then ⌊x⌋ else ⌈x⌉

/-- The milliseconds of simulated time after `e` effective nanoseconds. -/
def simMs (cfg : Config) (e : Int) : Int :=
  toInt64 (((cfg.startMinutes : Rat) + (e : Rat) / 1000000000 * timeAcceleration cfg) * 60 * 1000)

def TimeServer.updateSimTime (cfg : Config) (s : TimeServer) (t : Int) : TimeServer :=
  { s with currentSimTimeMs := simMs cfg (s.effectiveElapsed t) }

/-- The two steps of the main loop, and a complete SIGTSTP/SIGCONT pair: the process
is stopped from `stop` to `cont`. -/
inductive TimeStep
  | handleResume (t : Int)
  | updateSimTime (t : Int)
  | pause (stop cont : Int)
  deriving DecidableEq

def timeStep (cfg : Config) (s : TimeServer) : TimeStep → Option TimeServer
  | .handleResume t => if s.clock ≤ t then some { s.handleResume t with clock := t } else none
  | .updateSimTime t =>
    if s.clock ≤ t then some { s.updateSimTime cfg t with clock := t } else none
  | .pause stop cont =>
    if s.clock ≤ stop ∧ stop ≤ cont then
      some { (s.sigtstpHandler stop).sigcontHandler with clock := cont }
    else none

abbrev TimeTrace := List (TimeServer × TimeStep)

abbrev TimeEnv := TimeTrace → TimeServer → TimeStep → Bool

def anyTime : TimeEnv := fun _ _ _ => true

abbrev TimeRuns (cfg : Config) (env : TimeEnv) (t : Int) (tr : TimeTrace) (s : TimeServer) : Prop :=
  Run (timeStep cfg) env (.init cfg t) tr s

variable {cfg : Config} {s s' : TimeServer} {a : TimeStep} {t t' t₀ : Int} {tr : TimeTrace}

/-- The values `time_init` and `update_sim_time` have stored in `current_sim_time_ms`, oldest
first. -/
def stored (cfg : Config) (tr : TimeTrace) : List Int :=
  history (fun g s a => match a with
    | .updateSimTime t => g ++ [(s.updateSimTime cfg t).currentSimTimeMs]
    | _ => g) [(TimeServer.init cfg 0).currentSimTimeMs] tr

theorem acceleration_nonneg (h : configValidate cfg = true) : 0 ≤ timeAcceleration cfg := by
  have hlt := (accepted h).order
  have hd : (0 : Rat) ≤ ((cfg.endMinutes - cfg.startMinutes : Int) : Rat) := by
    exact_mod_cast (by omega : (0 : Int) ≤ cfg.endMinutes - cfg.startMinutes)
  unfold timeAcceleration
  split
  · exact div_nonneg hd (by norm_num)
  · apply div_nonneg hd
    exact_mod_cast (by omega : (0 : Int) ≤ cfg.simulationDurationReal)

theorem to_int64_mono {x y : Rat} (h : x ≤ y) : toInt64 x ≤ toInt64 y := by
  unfold toInt64
  split <;> split
  · exact Int.floor_mono h
  · rename_i hx hy
    exact absurd (hx.trans h) hy
  · rename_i hx hy
    exact (Int.ceil_le.mpr (by exact_mod_cast (not_le.mp hx).le)).trans (Int.floor_nonneg.mpr hy)
  · exact Int.ceil_mono h

theorem to_int64_int (k : Int) : toInt64 k = k := by
  unfold toInt64
  split
  · exact Int.floor_intCast k
  · exact Int.ceil_intCast k

theorem sim_ms_mono (h : configValidate cfg = true) {e f : Int} (hef : e ≤ f) :
    simMs cfg e ≤ simMs cfg f := by
  have hcast : (e : Rat) ≤ f := by exact_mod_cast hef
  have ha := acceleration_nonneg h
  apply to_int64_mono
  gcongr

theorem sim_ms_zero (cfg : Config) : simMs cfg 0 = cfg.startMinutes * 60 * 1000 := by
  have hx : ((cfg.startMinutes : Rat) + ((0 : Int) : Rat) / 1000000000 * timeAcceleration cfg) *
      60 * 1000 = ((cfg.startMinutes * 60 * 1000 : Int) : Rat) := by push_cast; ring
  rw [simMs,hx,to_int64_int]

/-- While the clock runs the elapsed time grows, and during a pause it stands still. -/
theorem elapsed_mono (s : TimeServer) (h : t ≤ t') : s.elapsed t ≤ s.elapsed t' := by
  unfold TimeServer.elapsed
  split <;> omega

/-- A pause that has not been handled began in the past, and the elapsed time is not
negative. -/
structure Ticking (s : TimeServer) : Prop where
  began : s.paused = true → s.pauseStart ≤ s.clock
  elapsed : 0 ≤ s.elapsed s.clock

theorem Ticking.effective (h : Ticking s) (ht : s.clock ≤ t) : s.effectiveElapsed t = s.elapsed t := by
  have hmono := elapsed_mono s ht
  have hpos := h.elapsed
  unfold TimeServer.effectiveElapsed
  split <;> omega

theorem Ticking.shows (h : Ticking s) (ht : s.clock ≤ t) :
    (s.updateSimTime cfg t).currentSimTimeMs = simMs cfg (s.elapsed t) :=
  congrArg (simMs cfg) (h.effective ht)

/-- Neither step of the loop changes what has elapsed: `handle_resume` only moves the
pause into the offset. -/
theorem resume_elapsed (s : TimeServer) (t : Int) : (s.handleResume t).elapsed t = s.elapsed t := by
  unfold TimeServer.handleResume
  split
  · split
    · rename_i hp
      simp only [TimeServer.elapsed,hp,if_true,Bool.false_eq_true,if_false]
      omega
    · rfl
  · rfl

theorem resume_shows (s : TimeServer) (t : Int) :
    (s.handleResume t).currentSimTimeMs = s.currentSimTimeMs := by
  unfold TimeServer.handleResume
  repeat' split
  all_goals rfl

inductive Advances (cfg : Config) (s s' : TimeServer) : TimeStep → Prop
  | resume {t : Int} (h : s.clock ≤ t) (he : s' = { s.handleResume t with clock := t }) :
      Advances cfg s s' (.handleResume t)
  | update {t : Int} (h : s.clock ≤ t) (he : s' = { s.updateSimTime cfg t with clock := t }) :
      Advances cfg s s' (.updateSimTime t)
  | pause {t t' : Int} (h : s.clock ≤ t) (h' : t ≤ t')
      (he : s' = { (s.sigtstpHandler t).sigcontHandler with clock := t' }) :
      Advances cfg s s' (.pause t t')

theorem time_step_cases (h : timeStep cfg s a = some s') : Advances cfg s s' a := by
  cases a with
  | handleResume t =>
    simp only [timeStep,Option.ite_none_right_eq_some,Option.some.injEq] at h
    exact .resume h.1 h.2.symm
  | updateSimTime t =>
    simp only [timeStep,Option.ite_none_right_eq_some,Option.some.injEq] at h
    exact .update h.1 h.2.symm
  | pause t t' =>
    simp only [timeStep,Option.ite_none_right_eq_some,Option.some.injEq] at h
    exact .pause h.1.1 h.1.2 h.2.symm

/-- A pause cuts the elapsed time off where it begins. -/
theorem pause_elapsed (s : TimeServer) (t t' : Int) :
    ((s.sigtstpHandler t).sigcontHandler).elapsed t' = t - s.realStartTime - s.totalPauseOffset := by
  simp only [TimeServer.elapsed,TimeServer.sigtstpHandler,TimeServer.sigcontHandler,if_true]
  omega

theorem Ticking.advance (h : Ticking s) (ha : Advances cfg s s' a) :
    Ticking s' ∧ s.elapsed s.clock ≤ s'.elapsed s'.clock := by
  have hpos := h.elapsed
  cases ha with
  | @resume t hle he =>
    subst he
    have hmono := elapsed_mono s hle
    have hsame : ({ s.handleResume t with clock := t } : TimeServer).elapsed t = s.elapsed t :=
      resume_elapsed s t
    refine ⟨⟨?_,?_⟩,?_⟩
    · intro hp
      have hbegan := h.began
      simp only [TimeServer.handleResume] at hp ⊢
      repeat' split at hp
      all_goals simp_all
      all_goals omega
    · show 0 ≤ ({ s.handleResume t with clock := t } : TimeServer).elapsed t
      omega
    · show _ ≤ ({ s.handleResume t with clock := t } : TimeServer).elapsed t
      omega
  | @update t hle he =>
    subst he
    have hmono := elapsed_mono s hle
    refine ⟨⟨fun hp => (h.began hp).trans hle,?_⟩,hmono⟩
    exact hpos.trans hmono
  | @pause t t' hle hle' he =>
    subst he
    have hcut : ({ (s.sigtstpHandler t).sigcontHandler with clock := t' } : TimeServer).elapsed t' =
        t - s.realStartTime - s.totalPauseOffset := pause_elapsed s t t'
    have hgrow : s.elapsed s.clock ≤ t - s.realStartTime - s.totalPauseOffset := by
      have hbegan := h.began
      unfold TimeServer.elapsed
      split
      · rename_i hp
        have hb := hbegan hp
        omega
      · omega
    refine ⟨⟨fun _ => hle',?_⟩,?_⟩
    · show 0 ≤ ({ (s.sigtstpHandler t).sigcontHandler with clock := t' } : TimeServer).elapsed t'
      omega
    · show _ ≤ ({ (s.sigtstpHandler t).sigcontHandler with clock := t' } : TimeServer).elapsed t'
      omega

theorem start_ticking (cfg : Config) (t : Int) : Ticking (.init cfg t) := by
  refine ⟨by simp [TimeServer.init],?_⟩
  simp [TimeServer.init,TimeServer.elapsed]

theorem run_ticking {env : TimeEnv} (h : TimeRuns cfg env t₀ tr s) : Ticking s := by
  refine h.invariant (fun _ s => Ticking s) (start_ticking cfg t₀) ?_
  intro tr s a s' hi _ hs
  exact (hi.advance (time_step_cases hs)).1

/-- The stored values are in order, and none is above what the next one can be. -/
structure Published (cfg : Config) (vals : List Int) (s : TimeServer) : Prop where
  ticking : Ticking s
  order : vals.Pairwise (· ≤ ·)
  above : ∀ v ∈ vals, cfg.startMinutes * 60 * 1000 ≤ v
  last : ∀ v ∈ vals, v ≤ simMs cfg (s.elapsed s.clock)

theorem Published.store (hv : configValidate cfg = true) {vals : List Int} (h : Published cfg vals s)
    (ht : s.clock ≤ t) :
    Published cfg (vals ++ [(s.updateSimTime cfg t).currentSimTimeMs])
      { s.updateSimTime cfg t with clock := t } := by
  have hmono := elapsed_mono s ht
  have hms := sim_ms_mono hv hmono
  have hlow : cfg.startMinutes * 60 * 1000 ≤ simMs cfg (s.elapsed t) := by
    rw [← sim_ms_zero]
    exact sim_ms_mono hv (h.ticking.elapsed.trans hmono)
  rw [h.ticking.shows ht]
  have hstep : Advances cfg s { s.updateSimTime cfg t with clock := t } (.updateSimTime t) :=
    .update ht rfl
  refine ⟨(h.ticking.advance hstep).1,?_,?_,?_⟩
  · refine List.pairwise_append.mpr ⟨h.order,List.pairwise_singleton _ _,?_⟩
    intro v hvm w hw
    rw [List.mem_singleton.mp hw]
    exact (h.last v hvm).trans hms
  · intro v hvm
    rcases List.mem_append.mp hvm with hvm | hvm
    · exact h.above v hvm
    · rw [List.mem_singleton.mp hvm]
      exact hlow
  · intro v hvm
    show v ≤ simMs cfg (s.elapsed t)
    rcases List.mem_append.mp hvm with hvm | hvm
    · exact (h.last v hvm).trans hms
    · rw [List.mem_singleton.mp hvm]

theorem run_published (hv : configValidate cfg = true) (h : TimeRuns cfg anyTime t₀ tr s) :
    Published cfg (stored cfg tr) s := by
  refine h.invariant (fun tr s => Published cfg (stored cfg tr) s) ?_ ?_
  · have he : (TimeServer.init cfg t₀).elapsed t₀ = 0 := by simp [TimeServer.init,TimeServer.elapsed]
    refine ⟨start_ticking cfg t₀,List.pairwise_singleton _ _,?_,?_⟩
    · simp [stored,TimeServer.init]
    · intro v hvm
      rw [List.mem_singleton.mp hvm]
      show cfg.startMinutes * 60 * 1000 ≤ simMs cfg ((TimeServer.init cfg t₀).elapsed t₀)
      rw [he,sim_ms_zero]
  · intro tr s a s' hi _ hs
    have ha := time_step_cases hs
    obtain ⟨htick,hgrow⟩ := hi.ticking.advance ha
    have hkeep : ∀ v ∈ stored cfg tr, v ≤ simMs cfg (s'.elapsed s'.clock) := fun v hvm =>
      (hi.last v hvm).trans (sim_ms_mono hv hgrow)
    cases ha with
    | resume _ _ | pause _ _ _ =>
      simp only [stored,history_snoc]
      exact ⟨htick,hi.order,hi.above,hkeep⟩
    | update hle he =>
      subst he
      simpa only [stored,history_snoc] using hi.store hv hle

/-- The other processes read the last value stored: no other step touches it. -/
theorem stored_last {env : TimeEnv} (h : TimeRuns cfg env t₀ tr s) :
    (stored cfg tr).getLast? = some s.currentSimTimeMs := by
  refine h.invariant (fun tr s => (stored cfg tr).getLast? = some s.currentSimTimeMs) ?_ ?_
  · rfl
  intro tr s a s' hi _ hs
  cases time_step_cases hs with
  | resume _ he =>
    subst he
    simpa only [stored,history_snoc,resume_shows] using hi
  | update _ he =>
    subst he
    simp [stored]
  | pause _ _ he =>
    subst he
    simpa only [stored,history_snoc,TimeServer.sigtstpHandler,TimeServer.sigcontHandler] using hi

/-- The published simulated time never goes back. -/
theorem sim_time_monotone (hv : configValidate cfg = true) (h : TimeRuns cfg anyTime t₀ tr s) :
    (stored cfg tr).Pairwise (· ≤ ·) ∧ (∀ v ∈ stored cfg tr, cfg.startMinutes * 60 * 1000 ≤ v) ∧
      (stored cfg tr).getLast? = some s.currentSimTimeMs :=
  ⟨(run_published hv h).order,(run_published hv h).above,stored_last h⟩

/-- The main loop with a stop between its two steps and two more before the next
`handle_resume`. -/
def threeStops : List TimeStep :=
  [.updateSimTime 0, .handleResume 1, .pause 500000000 900000000, .updateSimTime 1000000000,
    .pause 1100000000 1600000000, .pause 1700000000 1800000000, .handleResume 1900000000,
    .updateSimTime 2500000000]

theorem sim_time_monotone_stopped : ∃ tr s, TimeRuns sampleConfig anyTime 0 tr s ∧
    stored sampleConfig tr = [28800000, 28800000, 28935000, 29421000] ∧
      (stored sampleConfig tr).Pairwise (· ≤ ·) := by
  have hr : ((exec (timeStep sampleConfig) anyTime [] threeStops (.init sampleConfig 0)).any
      (fun p => stored sampleConfig p.1 == [28800000, 28800000, 28935000, 29421000])) = true := by
    decide +kernel
  obtain ⟨tr,s,h,ht⟩ := Lib.exists_run threeStops
    (fun tr _ => stored sampleConfig tr == [28800000, 28800000, 28935000, 29421000]) hr
  exact ⟨tr,s,h,by simpa using ht,(sim_time_monotone (by decide) h).1⟩

/-- The clock of the other processes follows: what the server stores next is a time to
which `tick` can advance it. -/
theorem update_is_tick {n : Nat} {m : Sys n} (hv : configValidate cfg = true)
    (h : TimeRuns cfg anyTime t₀ tr s) (hm : (m.shm.currentSimTimeMs : Int) ∈ stored cfg tr)
    (ht : s.clock ≤ t) :
    ∃ m', step m (.tick (s.updateSimTime cfg t).currentSimTimeMs.toNat) = some m' := by
  have hi := run_published hv h
  have hle := hi.last _ hm
  have hmono := sim_ms_mono hv (elapsed_mono s ht)
  rw [hi.ticking.shows ht]
  refine ⟨_,if_pos ?_⟩
  omega

/-! ### Stopped time -/

def stoppedTime (tr : TimeTrace) : Int :=
  (tr.map (fun p => match p.2 with
    | .pause stop cont => cont - stop
    | _ => 0)).sum

def TimeStep.updates : TimeStep → Bool
  | .updateSimTime _ => true
  | _ => false

/-- Between two consecutive updates the elapsed time grows by at most the time in which
the process was not stopped. -/
def NeverCounted (tr : TimeTrace) : Prop :=
  ∀ (before mid after : TimeTrace) (s₁ s₂ : TimeServer) (t₁ t₂ : Int),
    tr = before ++ (s₁,.updateSimTime t₁) :: (mid ++ (s₂,.updateSimTime t₂) :: after) →
      (∀ p ∈ mid, p.2.updates = false) →
        s₂.effectiveElapsed t₂ - s₁.effectiveElapsed t₁ ≤ (t₂ - t₁) - stoppedTime mid

/-- A stop comes only when `handle_resume` has dealt with the one before it. -/
def handledFirst : TimeEnv := fun _ s a =>
  match a with
  | .pause _ _ => !s.paused
  | _ => true

structure Since (t₁ e : Int) (mid : TimeTrace) (s : TimeServer) : Prop where
  ticking : Ticking s
  bound : s.elapsed s.clock ≤ e + (s.clock - t₁) - stoppedTime mid

theorem Since.later {t₁ e : Int} {mid : TimeTrace} (h : Since t₁ e mid s) (ht : s.clock ≤ t) :
    s.elapsed t ≤ e + (t - t₁) - stoppedTime mid := by
  have hb := h.bound
  unfold TimeServer.elapsed at hb ⊢
  split at hb <;> simp_all <;> omega

theorem stopped_snoc (mid : TimeTrace) (s : TimeServer) (a : TimeStep) :
    stoppedTime (mid ++ [(s,a)]) = stoppedTime mid + (match a with
      | .pause stop cont => cont - stop
      | _ => 0) := by
  simp [stoppedTime]

theorem Since.advance {t₁ e : Int} {mid : TimeTrace} (h : Since t₁ e mid s)
    (ha : Advances cfg s s' a) (hok : handledFirst tr s a = true) (hn : a.updates = false) :
    Since t₁ e (mid ++ [(s,a)]) s' := by
  refine ⟨(h.ticking.advance ha).1,?_⟩
  rw [stopped_snoc]
  cases ha with
  | @resume t hle he =>
    subst he
    have hl := h.later hle
    have hsame : ({ s.handleResume t with clock := t } : TimeServer).elapsed t = s.elapsed t :=
      resume_elapsed s t
    simp only [hsame]
    omega
  | update => cases hn
  | @pause t t' hle hle' he =>
    subst he
    have hl := h.later hle
    have hp : s.paused = false := by simpa [handledFirst] using hok
    have hcut : ({ (s.sigtstpHandler t).sigcontHandler with clock := t' } : TimeServer).elapsed t' =
        t - s.realStartTime - s.totalPauseOffset := pause_elapsed s t t'
    simp only [TimeServer.elapsed,hp,Bool.false_eq_true,if_false] at hl
    simp only [hcut]
    omega

/-- The invariant between two updates, by induction on the steps since the first. -/
theorem run_since {before mid : TimeTrace} {s₁ : TimeServer} {t₁ : Int}
    (h : TimeRuns cfg handledFirst t₀ (before ++ (s₁,.updateSimTime t₁) :: mid) s)
    (hn : ∀ p ∈ mid, p.2.updates = false) : Since t₁ (s₁.effectiveElapsed t₁) mid s := by
  induction mid using List.reverseRecOn generalizing s with
  | nil =>
    obtain ⟨hrun,-,-⟩ := h.before
    generalize htr : before ++ [(s₁,TimeStep.updateSimTime t₁)] = tr at h
    cases h with
    | nil => simp at htr
    | snoc _ _ hs =>
      obtain ⟨rfl,hlast⟩ := List.append_inj' htr rfl
      cases hlast
      cases time_step_cases hs with
      | update hle he =>
        subst he
        have htick := run_ticking hrun
        have hstep : Advances cfg s₁ { s₁.updateSimTime cfg t₁ with clock := t₁ } (.updateSimTime t₁) :=
          .update hle rfl
        refine ⟨(htick.advance hstep).1,?_⟩
        rw [htick.effective hle]
        simp [stoppedTime]
        rfl
  | append_singleton mid p ih =>
    obtain ⟨s₂,a⟩ := p
    have hn' : ∀ p ∈ mid, p.2.updates = false := fun p hp => hn p (by simp [hp])
    have hlast : a.updates = false := hn (s₂,a) (by simp)
    have hassoc : before ++ (s₁,TimeStep.updateSimTime t₁) :: (mid ++ [(s₂,a)]) =
        (before ++ (s₁,TimeStep.updateSimTime t₁) :: mid) ++ [(s₂,a)] := by simp
    rw [hassoc] at h
    generalize htr : (before ++ (s₁,TimeStep.updateSimTime t₁) :: mid) ++ [(s₂,a)] = tr at h
    cases h with
    | nil => simp at htr
    | snoc hrun allowed hs =>
      obtain ⟨rfl,he⟩ := List.append_inj' htr rfl
      cases he
      exact (ih hrun hn').advance (time_step_cases hs) allowed hlast

/-- When every stop is handled before the next one comes, stopped time is never
counted. -/
theorem never_counted (h : TimeRuns cfg handledFirst t₀ tr s) : NeverCounted tr := by
  rintro before mid after s₁ s₂ t₁ t₂ rfl hn
  have hassoc : before ++ (s₁,TimeStep.updateSimTime t₁) ::
      (mid ++ (s₂,TimeStep.updateSimTime t₂) :: after) =
        (before ++ (s₁,TimeStep.updateSimTime t₁) :: mid) ++
          (s₂,TimeStep.updateSimTime t₂) :: after := by simp
  rw [hassoc] at h
  obtain ⟨hrun,-,s',hs⟩ := h.before
  have hsince := run_since hrun hn
  cases time_step_cases hs with
  | update hle _ =>
    have hl := hsince.later hle
    rw [hsince.ticking.effective hle]
    omega

theorem never_counted_once : ∃ tr s, TimeRuns sampleConfig handledFirst 0 tr s ∧
    0 < stoppedTime tr ∧ NeverCounted tr := by
  have hr : ((exec (timeStep sampleConfig) handledFirst []
      [.updateSimTime 0, .pause 5000000 5005000000, .handleResume 5006000000,
        .updateSimTime 5006000000] (.init sampleConfig 0)).any
      (fun p => decide (0 < stoppedTime p.1))) = true := by decide +kernel
  obtain ⟨tr,s,h,ht⟩ := Lib.exists_run _ (fun tr _ => decide (0 < stoppedTime tr)) hr
  exact ⟨tr,s,h,by simpa using ht,never_counted h⟩

/-- Two stops between two iterations of the loop: five seconds, and right after it one
more. The second takes the place of the first. -/
theorem first_stop_counted : ∃ tr s, TimeRuns sampleConfig anyTime 0 tr s ∧ ¬NeverCounted tr := by
  refine ⟨_,_,Lib.run_of_exec .nil (rfl : exec (timeStep sampleConfig) anyTime []
    [.updateSimTime 0, .pause 5000000 5005000000, .pause 5006000000 6006000000,
      .handleResume 6007000000, .updateSimTime 6007000000] (.init sampleConfig 0) = _),?_⟩
  intro h
  have hgap := h [] [_, _, _] [] _ _ 0 6007000000 rfl (by decide)
  revert hgap
  decide

end Ropeway
