import Ropeway.TimeServer
import Ropeway.Lib.Progress

/-! `tourist/movement.c`: a tourist on its chair and on its way down. Time is counted in
nanoseconds, of which `time(NULL)` shows whole seconds only, and the arithmetic on doubles is
exact. -/

namespace Ropeway

def nsPerSecond : Nat := 1000000000

def timeSimToRealSeconds (cfg : Config) (simMinutes : Int) : Rat :=
  if timeAcceleration cfg ≤ 0 then simMinutes else simMinutes / timeAcceleration cfg

/-- `trail_time_sim` of `tourist_descend_trail`, for the value `r` of `rand()`. -/
def trailTimeSim (cfg : Config) (type : TouristType) (r : Nat) : Int :=
  match type with
  | .cyclist =>
    match r % 3 with
    | 0 => cfg.trailBikeFastTime
    | 1 => cfg.trailBikeMediumTime
    | _ => cfg.trailBikeSlowTime
  | _ => cfg.trailWalkTime

def timespec (remaining : Rat) : Int :=
  toInt64 remaining * nsPerSecond + toInt64 ((remaining - toInt64 remaining) * nsPerSecond)

inductive SleepPc
  | now | start | test | nanosleep | eintr | last
  | returned (ok : Bool)
  deriving DecidableEq, Repr

/-- `wake` is the time at which `nanosleep` is over. -/
structure Sleeping where
  pc : SleepPc
  clock : Nat
  runningFlag : Bool
  running : Bool
  realSeconds : Rat
  start : Nat
  remaining : Rat
  wake : Int
  deriving DecidableEq

def Sleeping.time (s : Sleeping) : Nat := s.clock / nsPerSecond

inductive SleepEvent
  | step
  | tick (d : Nat)
  /-- A signal that does nothing else breaks the sleep. -/
  | signal
  /-- The handler of SIGTERM or SIGINT. -/
  | term
  /-- `running = 0` in the shared state. -/
  | stop
  deriving DecidableEq, Repr

def Sleeping.wakeUp (s : Sleeping) : Sleeping :=
  if s.pc = .nanosleep then { s with pc := .eintr } else s

/-- The next step of a tourist whose chair arrives at second `arrival`. -/
def Sleeping.next (arrival : Int) (s : Sleeping) : Option Sleeping :=
  match s.pc with
  | .now =>
    let remaining : Rat := (arrival - s.time : Int)
    if 0 < remaining then some { s with pc := .start, realSeconds := remaining }
    else some { s with pc := .returned true }
  | .start => some { s with pc := .test, start := s.time, remaining := s.realSeconds }
  | .test =>
    if 0 < s.remaining ∧ s.runningFlag ∧ s.running then
      some { s with pc := .nanosleep, wake := s.clock + timespec s.remaining }
    else some { s with pc := .last }
  | .nanosleep => if s.wake ≤ s.clock then some { s with pc := .last } else none
  | .eintr =>
    some { s with pc := .test, remaining := s.realSeconds - ((s.time : Int) - s.start : Int) }
  | .last => some { s with pc := .returned (s.runningFlag && s.running) }
  | .returned _ => none

def sleepStep (arrival : Int) (s : Sleeping) : SleepEvent → Option Sleeping
  | .step => s.next arrival
  | .tick d => some { s with clock := s.clock + d }
  | .signal => some s.wakeUp
  | .term => some { s.wakeUp with runningFlag := false }
  | .stop => some { s with running := false }

def rideChairlift (clock : Nat) (runningFlag running : Bool) : Sleeping :=
  ⟨.now,clock,runningFlag,running,0,0,0,0⟩

def pauseableSleep (clock : Nat) (realSeconds : Rat) (runningFlag running : Bool) : Sleeping :=
  ⟨.start,clock,runningFlag,running,realSeconds,0,0,0⟩

def descendTrail (cfg : Config) (type : TouristType) (r clock : Nat) (runningFlag running : Bool) :
    Sleeping :=
  pauseableSleep clock (timeSimToRealSeconds cfg (trailTimeSim cfg type r)) runningFlag running

abbrev SleepTrace := List (Sleeping × SleepEvent)

/-- The tourist gets the processor as soon as it has something to do. -/
def prompt : SleepTrace → Sleeping → SleepEvent → Bool := fun _ s e =>
  match e with
  | .tick d => s.pc == .nanosleep && decide ((s.clock + d : Int) ≤ s.wake)
  | _ => true

variable {arrival : Int} {s s' : Sleeping} {e : SleepEvent} {tr : SleepTrace}
  {env : SleepTrace → Sleeping → SleepEvent → Bool} {clock : Nat} {realSeconds : Rat}
  {flag running : Bool}

def nanos (r : Rat) : Int := ⌊r * nsPerSecond⌋

theorem nanos_sub (r : Rat) (k : Int) : nanos (r - k) = nanos r - k * nsPerSecond := by
  have hx : (r - k) * nsPerSecond = r * nsPerSecond - ((k * nsPerSecond : Int) : Rat) := by
    push_cast
    ring
  rw [nanos,hx,Int.floor_sub_intCast,nanos]

@[simp] theorem nanos_int (k : Int) : nanos k = k * nsPerSecond := by
  have hx : (k : Rat) * nsPerSecond = ((k * nsPerSecond : Int) : Rat) := by push_cast; rfl
  rw [nanos,hx,Int.floor_intCast]

theorem nanos_nonneg {r : Rat} (h : 0 ≤ r) : 0 ≤ nanos r :=
  Int.floor_nonneg.mpr (mul_nonneg h (Nat.cast_nonneg _))

theorem nanos_nonpos {r : Rat} (h : r ≤ 0) : nanos r ≤ 0 := by
  have hx : r * nsPerSecond ≤ 0 := mul_nonpos_of_nonpos_of_nonneg h (Nat.cast_nonneg _)
  exact_mod_cast (Int.floor_le _).trans hx

theorem timespec_nanos {r : Rat} (h : 0 ≤ r) : timespec r = nanos r := by
  have hsec : toInt64 r = ⌊r⌋ := if_pos h
  have hfract : 0 ≤ (r - ⌊r⌋) * nsPerSecond :=
    mul_nonneg (Int.fract_nonneg r) (Nat.cast_nonneg _)
  have hns : toInt64 ((r - ⌊r⌋) * nsPerSecond) = nanos (r - ⌊r⌋) := if_pos hfract
  rw [timespec,hsec,hns,nanos_sub]
  ring

/-- What a step of the sleep does, in nanoseconds. -/
theorem next_cases (hs : s.next arrival = some s') :
    (s.pc = .now ∧ ∃ r, nanos r = (arrival - s.time) * nsPerSecond ∧
      s' = { s with pc := .start, realSeconds := r }) ∨
    (s.pc = .now ∧ arrival ≤ s.time ∧ s' = { s with pc := .returned true }) ∨
    (s.pc = .start ∧ s' = { s with pc := .test, start := s.time, remaining := s.realSeconds }) ∨
    (s.pc = .test ∧ 0 ≤ nanos s.remaining ∧
      s' = { s with pc := .nanosleep, wake := s.clock + nanos s.remaining }) ∨
    (s.pc = .test ∧ (s.runningFlag = true → s.running = true → nanos s.remaining ≤ 0) ∧
      s' = { s with pc := .last }) ∨
    (s.pc = .nanosleep ∧ s.wake ≤ s.clock ∧ s' = { s with pc := .last }) ∨
    (s.pc = .eintr ∧ ∃ r, nanos r = nanos s.realSeconds - (s.time - s.start) * nsPerSecond ∧
      s' = { s with pc := .test, remaining := r }) ∨
    (s.pc = .last ∧ s' = { s with pc := .returned (s.runningFlag && s.running) }) := by
  cases hp : s.pc <;> simp only [Sleeping.next,hp] at hs
  case now =>
    split at hs <;> cases hs
    · exact .inl ⟨rfl,_,nanos_int _,rfl⟩
    · rename_i hrem
      have hle : arrival - s.time ≤ 0 := by exact_mod_cast not_lt.mp hrem
      exact .inr (.inl ⟨rfl,by omega,rfl⟩)
  case start =>
    cases hs
    simp
  case test =>
    split at hs <;> cases hs
    · rename_i hgo
      rw [timespec_nanos hgo.1.le]
      simp [nanos_nonneg hgo.1.le]
    · rename_i hgo
      have hle : s.runningFlag = true → s.running = true → nanos s.remaining ≤ 0 :=
        fun hf hr => nanos_nonpos (not_lt.mp fun hpos => hgo ⟨hpos,hf,hr⟩)
      simpa using hle
  case nanosleep =>
    split at hs <;> cases hs
    rename_i hle
    simp [hle]
  case eintr =>
    cases hs
    have hr := nanos_sub s.realSeconds (s.time - s.start)
    simp [← hr]
  case last =>
    cases hs
    simp
  case returned => cases hs

/-- The sleep does not end before time `due`, place by place. -/
def Sleeping.Late (arrival : Int) (due : Int) (s : Sleeping) : Prop :=
  match s.pc with
  | .now => due ≤ arrival * nsPerSecond
  | .start => due ≤ nanos s.realSeconds + s.time * nsPerSecond
  | .test =>
    due ≤ nanos s.realSeconds + s.start * nsPerSecond ∧
      due ≤ nanos s.remaining + s.time * nsPerSecond
  | .nanosleep => due ≤ nanos s.realSeconds + s.start * nsPerSecond ∧ due ≤ s.wake
  | .eintr => due ≤ nanos s.realSeconds + s.start * nsPerSecond
  | .last => s.runningFlag = true → s.running = true → due ≤ s.clock
  | .returned ok => ok = true → due ≤ s.clock

theorem late_next {due : Int} (h : s.Late arrival due) (hs : s.next arrival = some s') :
    s'.Late arrival due := by
  rcases next_cases hs with ⟨hp,r,hr,rfl⟩ | ⟨hp,hle,rfl⟩ | ⟨hp,rfl⟩ | ⟨hp,-,rfl⟩ | ⟨hp,hgo,rfl⟩ |
    ⟨hp,hle,rfl⟩ | ⟨hp,r,hr,rfl⟩ | ⟨hp,rfl⟩ <;> simp only [Sleeping.Late,hp] at h ⊢
  -- Without one of the two flags the sleep may end at any time.
  case inr.inr.inr.inr.inl =>
    intro hf hrun
    have hrem := hgo hf hrun
    simp only [Sleeping.time,nsPerSecond] at h
    omega
  case inr.inr.inr.inr.inr.inr.inr => simpa using h
  all_goals
    simp only [Sleeping.time,nsPerSecond] at *
    omega

theorem late_step {due : Int} (h : s.Late arrival due) (hs : sleepStep arrival s e = some s') :
    s'.Late arrival due := by
  have hwake : s.wakeUp.Late arrival due := by
    unfold Sleeping.wakeUp
    split
    · rename_i hp
      simp only [Sleeping.Late,hp] at h
      exact h.1
    · exact h
  cases e with
  | step => exact late_next h hs
  | tick d =>
    cases hs
    have htime : s.time ≤ ({ s with clock := s.clock + d } : Sleeping).time :=
      Nat.div_le_div_right (Nat.le_add_right _ _)
    have hclock : s.clock ≤ ({ s with clock := s.clock + d } : Sleeping).clock :=
      Nat.le_add_right _ _
    cases hp : s.pc <;> simp only [Sleeping.Late,hp] at h ⊢
    case last => exact fun hf hr => (h hf hr).trans (by exact_mod_cast hclock)
    case returned => exact fun hok => (h hok).trans (by exact_mod_cast hclock)
    all_goals
      simp only [Sleeping.time,nsPerSecond] at *
      omega
  | signal =>
    cases hs
    exact hwake
  | term =>
    cases hs
    cases hp : s.wakeUp.pc <;> simp only [Sleeping.Late,hp] at hwake ⊢
    case last => simp
    all_goals exact hwake
  | stop =>
    cases hs
    cases hp : s.pc <;> simp only [Sleeping.Late,hp] at h ⊢
    case last => simp
    all_goals exact h

theorem late_run {due : Int} (start : s.Late arrival due)
    (h : Lib.Run (sleepStep arrival) env s tr s') : s'.Late arrival due :=
  h.invariant (fun _ s => s.Late arrival due) start fun _ _ _ _ hi _ hs => late_step hi hs

/-- The clock never goes back. -/
theorem clock_step (hs : sleepStep arrival s e = some s') : s.clock ≤ s'.clock := by
  have hwake : s.wakeUp.clock = s.clock := by
    unfold Sleeping.wakeUp
    split <;> rfl
  cases e with
  | step =>
    rcases next_cases hs with ⟨-,_,-,rfl⟩ | ⟨-,-,rfl⟩ | ⟨-,rfl⟩ | ⟨-,-,rfl⟩ | ⟨-,-,rfl⟩ |
      ⟨-,-,rfl⟩ | ⟨-,_,-,rfl⟩ | ⟨-,rfl⟩ <;> exact le_rfl
  | tick d =>
    cases hs
    exact Nat.le_add_right _ _
  | signal | term =>
    cases hs
    exact hwake.ge
  | stop =>
    cases hs
    exact le_rfl

theorem clock_run (h : Lib.Run (sleepStep arrival) env s tr s') : s.clock ≤ s'.clock :=
  h.invariant (fun _ r => s.clock ≤ r.clock) le_rfl
    fun _ _ _ _ hi _ hs => hi.trans (clock_step hs)

/-- The sleep is over before time `bound` if the tourist is prompt, place by place. -/
def Sleeping.Soon (arrival : Int) (bound : Int) (s : Sleeping) : Prop :=
  match s.pc with
  | .now => s.clock < bound ∧ (arrival + 1) * nsPerSecond ≤ bound
  | .start => s.clock < bound ∧ nanos s.realSeconds + (s.time + 1) * nsPerSecond ≤ bound
  | .test =>
    s.clock < bound ∧ nanos s.realSeconds + (s.start + 1) * nsPerSecond ≤ bound ∧
      nanos s.remaining + (s.time + 1) * nsPerSecond ≤ bound
  | .nanosleep =>
    nanos s.realSeconds + (s.start + 1) * nsPerSecond ≤ bound ∧ s.wake < bound ∧ s.clock ≤ s.wake
  | .eintr => s.clock < bound ∧ nanos s.realSeconds + (s.start + 1) * nsPerSecond ≤ bound
  | .last | .returned _ => s.clock < bound

theorem soon_next {bound : Int} (h : s.Soon arrival bound) (hs : s.next arrival = some s') :
    s'.Soon arrival bound := by
  rcases next_cases hs with ⟨hp,r,hr,rfl⟩ | ⟨hp,-,rfl⟩ | ⟨hp,rfl⟩ | ⟨hp,hrem,rfl⟩ | ⟨hp,-,rfl⟩ |
    ⟨hp,-,rfl⟩ | ⟨hp,r,hr,rfl⟩ | ⟨hp,rfl⟩ <;> simp only [Sleeping.Soon,hp] at h ⊢
  case inr.inr.inr.inr.inr.inr.inr => exact h
  all_goals
    simp only [Sleeping.time,nsPerSecond] at *
    omega

theorem soon_step {bound : Int} (h : s.Soon arrival bound) (hp : prompt tr s e = true)
    (hs : sleepStep arrival s e = some s') : s'.Soon arrival bound := by
  have hwake : s.wakeUp.Soon arrival bound := by
    unfold Sleeping.wakeUp
    split
    · rename_i hpc
      simp only [Sleeping.Soon,hpc] at h
      have hle : (s.clock : Int) ≤ s.wake := by exact_mod_cast h.2.2
      exact ⟨hle.trans_lt h.2.1,h.1⟩
    · exact h
  cases e with
  | step => exact soon_next h hs
  | tick d =>
    cases hs
    simp only [prompt,Bool.and_eq_true,beq_iff_eq,decide_eq_true_eq] at hp
    simp only [Sleeping.Soon,hp.1] at h ⊢
    exact ⟨h.1,h.2.1,hp.2⟩
  | signal | term =>
    cases hs
    exact hwake
  | stop =>
    cases hs
    exact h

theorem soon_run {bound : Int} (start : s.Soon arrival bound)
    (h : Lib.Run (sleepStep arrival) prompt s tr s') : s'.Soon arrival bound := by
  apply h.invariant (fun _ s => s.Soon arrival bound) start
  intro tr s e s' hi hp hs
  exact soon_step hi hp hs

/-- A tourist leaves its chair once the chair has arrived, however often a signal breaks its
sleep; if it is prompt, in the second of the arrival. -/
theorem ride_time (h : Lib.Run (sleepStep arrival) env (rideChairlift clock flag running) tr s)
    (hr : s.pc = .returned true) :
    arrival ≤ s.time ∧ ((∀ tr s e, env tr s e = true → prompt tr s e = true) →
      (s.time : Int) = max arrival (clock / nsPerSecond : Nat)) := by
  have hlate : s.Late arrival (arrival * nsPerSecond) :=
    late_run (s := rideChairlift clock flag running) (by simp [Sleeping.Late,rideChairlift]) h
  have hstart : clock / nsPerSecond ≤ s.time := Nat.div_le_div_right (clock_run h)
  simp only [Sleeping.Late,hr,forall_const] at hlate
  constructor
  · simp only [Sleeping.time,nsPerSecond] at hlate ⊢
    omega
  · intro hprompt
    have hsoon : s.Soon arrival ((max arrival (clock / nsPerSecond : Nat) + 1) * nsPerSecond) := by
      refine soon_run (s := rideChairlift clock flag running) ?_ (h.mono hprompt)
      simp only [Sleeping.Soon,rideChairlift,nsPerSecond]
      omega
    simp only [Sleeping.Soon,hr,Sleeping.time,nsPerSecond] at hsoon hlate hstart ⊢
    omega

/-- The passengers of a chair have all been given its departure time and so have one
`arrival_time`: none of them leaves the chair before it, and those who were in time and get the
processor leave in the same second. -/
theorem arrive_together {c₁ c₂ : Nat} {f₁ f₂ r₁ r₂ : Bool}
    {env₁ env₂ : SleepTrace → Sleeping → SleepEvent → Bool} {tr₁ tr₂ : SleepTrace}
    {s₁ s₂ : Sleeping} (h₁ : Lib.Run (sleepStep arrival) env₁ (rideChairlift c₁ f₁ r₁) tr₁ s₁)
    (h₂ : Lib.Run (sleepStep arrival) env₂ (rideChairlift c₂ f₂ r₂) tr₂ s₂)
    (ok₁ : s₁.pc = .returned true) (ok₂ : s₂.pc = .returned true) :
    arrival ≤ s₁.time ∧ arrival ≤ s₂.time ∧
      ((∀ tr s e, env₁ tr s e = true → prompt tr s e = true) →
        (∀ tr s e, env₂ tr s e = true → prompt tr s e = true) →
        ((c₁ / nsPerSecond : Nat) : Int) ≤ arrival → ((c₂ / nsPerSecond : Nat) : Int) ≤ arrival →
        s₁.time = s₂.time) := by
  obtain ⟨hlow₁,hup₁⟩ := ride_time h₁ ok₁
  obtain ⟨hlow₂,hup₂⟩ := ride_time h₂ ok₂
  refine ⟨hlow₁,hlow₂,fun hp₁ hp₂ he₁ he₂ => ?_⟩
  have ht₁ := hup₁ hp₁
  have ht₂ := hup₂ hp₂
  rw [max_eq_left he₁] at ht₁
  rw [max_eq_left he₂,← ht₁] at ht₂
  exact_mod_cast ht₂.symm

def brokenRide : List SleepEvent :=
  [.step,.step,.step,.tick 300000000,.signal,.step,.step,.tick 1000000000,.step,.step]

def quietRide : List SleepEvent := [.step,.step,.step,.tick 1000000000,.step,.step]

/-- Two passengers of a chair that arrives at second 101. -/
theorem arrive_together_broken : ∃ tr₁ tr₂ s₁ s₂,
    Lib.Run (sleepStep 101) prompt (rideChairlift 100200000000 true true) tr₁ s₁ ∧
    Lib.Run (sleepStep 101) prompt (rideChairlift 100700000000 true true) tr₂ s₂ ∧
    s₁.clock = 101500000000 ∧ s₂.clock = 101700000000 ∧ s₁.time = s₂.time := by
  obtain ⟨tr₁,s₁,hrun₁,htest₁⟩ : ∃ tr s,
      Lib.Run (sleepStep 101) prompt (rideChairlift 100200000000 true true) tr s ∧
        (s.pc == .returned true && s.clock == 101500000000) = true := Lib.exists_run brokenRide
    (fun _ (s : Sleeping) => s.pc == .returned true && s.clock == 101500000000) (by decide +kernel)
  obtain ⟨tr₂,s₂,hrun₂,htest₂⟩ : ∃ tr s,
      Lib.Run (sleepStep 101) prompt (rideChairlift 100700000000 true true) tr s ∧
        (s.pc == .returned true && s.clock == 101700000000) = true := Lib.exists_run quietRide
    (fun _ (s : Sleeping) => s.pc == .returned true && s.clock == 101700000000) (by decide +kernel)
  simp only [Bool.and_eq_true,beq_iff_eq] at htest₁ htest₂
  exact ⟨tr₁,tr₂,s₁,s₂,hrun₁,hrun₂,htest₁.2,htest₂.2,
    (arrive_together hrun₁ hrun₂ htest₁.1 htest₂.1).2.2 (fun _ _ _ h => h) (fun _ _ _ h => h)
      (by decide) (by decide)⟩

/-- The way down takes its time to within a second: `time(NULL)` is all a broken sleep is
measured by. -/
theorem descent_lasts {cfg : Config} {type : TouristType} {r : Nat}
    (h : Lib.Run (sleepStep arrival) env (descendTrail cfg type r clock flag running) tr s)
    (hr : s.pc = .returned true) :
    clock + nanos (timeSimToRealSeconds cfg (trailTimeSim cfg type r)) < s.clock + nsPerSecond ∧
      ((∀ tr s e, env tr s e = true → prompt tr s e = true) →
        s.clock < max (clock : Int)
          (clock + nanos (timeSimToRealSeconds cfg (trailTimeSim cfg type r))) + nsPerSecond) := by
  generalize hT : nanos (timeSimToRealSeconds cfg (trailTimeSim cfg type r)) = T
  have hreal : nanos (descendTrail cfg type r clock flag running).realSeconds = T := hT
  have hlate : s.Late arrival (T + (clock / nsPerSecond : Nat) * nsPerSecond) := by
    refine late_run (s := descendTrail cfg type r clock flag running) ?_ h
    simp only [Sleeping.Late,← hreal]
    exact le_rfl
  simp only [Sleeping.Late,hr,forall_const] at hlate
  constructor
  · simp only [nsPerSecond] at hlate ⊢
    omega
  · intro hprompt
    have hsoon : s.Soon arrival (max 0 T + ((clock / nsPerSecond : Nat) + 1) * nsPerSecond) := by
      refine soon_run (s := descendTrail cfg type r clock flag running) ?_ (h.mono hprompt)
      simp only [Sleeping.Soon,descendTrail,pauseableSleep,Sleeping.time,nsPerSecond] at hreal ⊢
      omega
    simp only [Sleeping.Soon,hr,nsPerSecond] at hsoon ⊢
    omega

def descentStart : Sleeping := descendTrail configDefaults .cyclist 0 900000000 true true

def brokenDescent : List SleepEvent :=
  [.step,.step,.tick 100000000,.signal,.step,.step,.tick 2333333333,.step,.step]

/-- A cyclist on its way from nine tenths of a second on, whose sleep a signal breaks at second 1,
is down nine tenths early. -/
theorem descent_lasts_broken : ∃ tr s,
    Lib.Run (sleepStep 0) prompt descentStart tr s ∧
      s.clock = 3333333333 ∧ (900000000 + 3333333333 : Int) < s.clock + nsPerSecond ∧
      (s.clock : Int) < max 900000000 (900000000 + 3333333333) + nsPerSecond := by
  obtain ⟨tr,s,hrun,htest⟩ : ∃ tr s,
      Lib.Run (sleepStep 0) prompt descentStart tr s ∧
        (s.pc == .returned true && s.clock == 3333333333) = true := Lib.exists_run brokenDescent
    (fun _ (s : Sleeping) => s.pc == .returned true && s.clock == 3333333333) (by decide +kernel)
  simp only [Bool.and_eq_true,beq_iff_eq] at htest
  have hT : nanos (timeSimToRealSeconds configDefaults (trailTimeSim configDefaults .cyclist 0)) =
      3333333333 := by decide +kernel
  obtain ⟨hlow,hhigh⟩ := descent_lasts hrun htest.1
  rw [hT] at hlow hhigh
  exact ⟨tr,s,hrun,htest.2,hlow,hhigh fun _ _ _ h => h⟩

def Sleeping.rank (s : Sleeping) : Nat :=
  match s.pc with
  | .now => 5
  | .start | .eintr => 4
  | .test => 3
  | .nanosleep => 2
  | .last => 1
  | .returned _ => 0

/-- Each signal sends the tourist round its loop once more. -/
def SleepEvent.credit : SleepEvent → Nat
  | .signal | .term => 2
  | _ => 0

def SleepEvent.isStep (e : SleepEvent) : Bool := e == .step

theorem rank_step (hs : sleepStep arrival s e = some s') :
    s'.rank + e.isStep.toNat ≤ s.rank + e.credit := by
  have hwake : s.wakeUp.rank ≤ s.rank + 2 := by
    unfold Sleeping.wakeUp
    split
    · rename_i hp
      simp [Sleeping.rank,hp]
    · omega
  cases e with
  | step =>
    cases hp : s.pc <;> simp only [sleepStep,Sleeping.next,hp] at hs
    case now | test | nanosleep =>
      split at hs <;> cases hs <;> simp [Sleeping.rank,hp,SleepEvent.isStep,SleepEvent.credit]
    case start | eintr | last =>
      cases hs
      simp [Sleeping.rank,hp,SleepEvent.isStep,SleepEvent.credit]
    case returned => cases hs
  | tick d =>
    cases hs
    exact le_rfl
  | signal =>
    cases hs
    exact hwake
  | term =>
    cases hs
    exact hwake
  | stop =>
    cases hs
    exact le_rfl

/-- A sleeping tourist either has a step to make or waits for the time it sleeps until. -/
theorem sleep_goes_on (h : ∀ ok, s.pc ≠ .returned ok) :
    (∃ s', s.next arrival = some s') ∨ s.pc = .nanosleep ∧ s.clock < s.wake := by
  cases hp : s.pc <;> simp only [Sleeping.next,hp]
  case now | test => split <;> exact .inl ⟨_,rfl⟩
  case start | eintr | last => exact .inl ⟨_,rfl⟩
  case nanosleep =>
    split
    · exact .inl ⟨_,rfl⟩
    · rename_i hlt
      exact .inr ⟨trivial,not_le.mp hlt⟩
  case returned ok => exact absurd hp (h ok)

/-- The tourist's own steps in a sleep are bounded by the signals it gets. -/
theorem sleep_steps (h : Lib.Run (sleepStep arrival) env s tr s') :
    tr.countP (fun q => q.2.isStep) ≤ s.rank + (tr.map fun q => q.2.credit).sum := by
  have hcount := h.count_le (fun _ => True) Sleeping.rank (fun _ e => e.isStep) SleepEvent.credit
    (fun _ _ _ _ _ _ hs => ⟨trivial,rank_step hs⟩) trivial
  omega

/-! ### What the ride loop sees of it -/

/-- The step of the ride loop is the last one of the sleep: none to wait for when the chair has
arrived already, and the two running flags afterwards. -/
theorem ride_step {n : Nat} {sys : Sys n} {i : Fin n} {x : Nat} {ok : Bool}
    (hp : (sys.tourists i).pc = .ride) (hflag : s.runningFlag = true)
    (hrun : s.running = sys.shm.running) (hx : x = 0 ↔ s.pc = .now)
    (hs : s.next arrival = some s') (ho : s'.pc = .returned ok) :
    touristMain sys i x = some (sys.walk i (if ok then .exitWait else .gone)) := by
  simp only [touristMain,hp]
  cases hpc : s.pc <;> simp only [Sleeping.next,hpc] at hs
  case now =>
    split at hs <;> cases hs
    · cases ho
    · cases ho
      simp [hx.mpr hpc]
  case last =>
    cases hs
    cases ho
    have hne : x ≠ 0 := fun h => by simp [hpc] at hx; exact hx h
    simp [hne,hflag,hrun]
  case test | nanosleep => split at hs <;> cases hs <;> cases ho
  case start | eintr =>
    cases hs
    cases ho
  case returned => cases hs

end Ropeway
