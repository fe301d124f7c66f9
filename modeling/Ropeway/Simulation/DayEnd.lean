import Ropeway.Simulation.Shutdown

/-! The end of the simulated day: the loop of `main` comes to see it, and the program ends. -/

namespace Ropeway

variable {n : Nat} {w w' : World n} {e : Event n} {u : Setup n} {tr : WorldTrace n}

def MainPlace.looping : MainPlace → Bool
  | .test | .reapTest | .reapClear | .reapWait | .overTest | .arm | .pause | .stop => true
  | _ => false

/-- No timer runs out before the process that has armed it is asleep in its `pause()`: neither
the second of `main` nor the 100 ms of a worker. -/
def alarmsHeld : WorldEnv n := fun tr w e =>
  timersHeld tr w e &&
    match e with
    | .mainSignal .alrm => w.main != .pause || w.asleep
    | _ => true

def World.dayOver (w : World n) : Bool := decide (w.sys.shm.simEndMinutes ≤ w.sys.shm.simMinutes)

/-- The timers are held, and the simulated time does not go back. -/
def afterHours : WorldEnv n := fun tr w e => alarmsHeld tr w e && w.dayOver

/-- The steps of `main` in its loop, with the signal that ends its `pause()`. -/
def World.loops (w : World n) : Event n → Bool
  | .main _ _ | .mainSleep => w.main.looping
  | .mainSignal .alrm => w.main == .pause && w.asleep
  | _ => false

def World.placeRank (w : World n) : Nat :=
  match w.main with
  | .arm => 9
  | .pause => if w.asleep then 7 else 8
  | .test => 6
  | .reapTest => 5
  | .reapClear => 4
  | .reapWait => 3
  | .overTest => 2
  | .stop => 1
  | _ => 0

/-- Every zombie costs a step more, and so does every object a handler has left to remove. -/
def World.loopRank (w : World n) : Nat :=
  if w.main.looping then w.placeRank + w.children.all.length + w.handler.length else 0

theorem main_armed {ok : Bool} {pid : Child} (h : w.mainStep ok pid = some w') (hp : w'.main = .pause) :
    w'.alarm = true := by
  cases hm : w.main with
  | arm =>
    simp only [World.mainStep,hm] at h
    cases h
    rfl
  | spawn rest | kill rest | rmid rest =>
    cases rest <;> simp only [World.mainStep,hm] at h
    all_goals
      repeat' split at h
      all_goals
        cases h
        cases hp
  | reapWait | wait =>
    simp only [World.mainStep,hm] at h
    split at h
    · cases h
      cases hp
    · obtain ⟨c,-,rfl⟩ := Option.map_eq_some_iff.mp h
      cases hp
  | reapTest =>
    simp only [World.mainStep,hm] at h
    cases h
    cases hg : w.gChildExited <;> simp [hg] at hp
  | _ =>
    simp only [World.mainStep,hm] at h
    repeat' split at h
    all_goals cases h
    all_goals cases hp

/-- Under the rule on the timers `main` does not lose the one of its `pause()`. -/
theorem run_main_armed (h : WorldRuns alarmsHeld u tr w) (hp : w.main = .pause) : w.alarm = true := by
  refine h.invariant (fun _ w => w.main = .pause → w.alarm = true) (by simp [Setup.world]) ?_ hp
  intro tr w e w' hi held hs hp
  cases he : e.ofMain with
  | false =>
    have hsame := others_main he hs
    rw [hsame.alarm]
    exact hi (hsame.main ▸ hp)
  | true =>
    cases e with
    | main ok pid =>
      simp only [World.step,World.mainNext] at hs
      split at hs
      · cases hs
        exact hi hp
      · exact main_armed hs hp
    | mainSleep =>
      simp only [World.step] at hs
      split at hs <;> cases hs
      exact hi hp
    | mainSignal sig =>
      obtain ⟨v,hv,rfl⟩ := Option.map_eq_some_iff.mp hs
      split at hp
      · -- A handler ends the `pause()`.
        unfold World.mainWoken at hp
        split at hp
        · cases hp
        · cases hp
        · exact absurd hp ‹_›
      · rename_i hawake
        rw [if_neg hawake]
        rcases handler_cases hv with ⟨rfl,-,rfl⟩ | ⟨rfl,-,rfl⟩ | ⟨rfl,rfl⟩
        · exact hi hp
        · simp only [alarmsHeld,Bool.and_eq_true,Bool.or_eq_true,bne_iff_ne] at held
          rcases held.2 with hne | hasleep
          · exact absurd hp hne
          · exact absurd hasleep hawake
        · exact hi hp
    | _ => cases he

/-- `main` in its loop always has a step. -/
theorem loop_moves (hl : w.main.looping = true) (harm : w.main = .pause → w.alarm = true) :
    ∃ e, w.loops e = true ∧ (w.step e).isSome = true := by
  cases hh : w.handler with
  | cons o rest => exact ⟨.main true .cashier,hl,by simp [World.step,World.mainNext,hh]⟩
  | nil =>
    cases hp : w.main <;> simp only [hp,MainPlace.looping,reduceCtorEq] at hl
    case pause =>
      cases ha : w.asleep with
      | true =>
        refine ⟨.mainSignal .alrm,by simp [World.loops,hp,ha],?_⟩
        simp [World.step,World.mainHandler,harm hp]
      | false =>
        refine ⟨.mainSleep,by simp [World.loops,hp,MainPlace.looping],?_⟩
        simp [World.step,World.blocked,hh,hp,ha]
    case reapWait =>
      by_cases hz : w.children.zombies = []
      · refine ⟨.main true .cashier,by simp [World.loops,hp,MainPlace.looping],?_⟩
        simp [World.step,World.mainNext,hh,World.mainStep,hp,hz]
      · obtain ⟨p,c,hpc⟩ := Lib.Children.exists_reap hz
        refine ⟨.main true p,by simp [World.loops,hp,MainPlace.looping],?_⟩
        simp [World.step,World.mainNext,hh,World.mainStep,hp,hz,hpc]
    all_goals
      refine ⟨.main true .cashier,by simp [World.loops,hp,MainPlace.looping],?_⟩
      simp only [World.step,World.mainNext,hh,World.mainStep,hp]
      repeat' split
      all_goals rfl

/-- How far `main` is from the end of its loop after a step: nothing but a signal takes it back. -/
def World.Counts (w : World n) (e : Event n) (w' : World n) : Prop :=
  (w'.main.looping = true ∨ w'.main.stopping = true) ∧ w'.loopRank + (w.loops e).toNat ≤ w.loopRank + e.credit

theorem loop_rank_eq (hl : w.main.looping = true) :
    w.loopRank = w.placeRank + w.children.all.length + w.handler.length := if_pos hl

theorem loop_rank_le (w : World n) : w.loopRank ≤ w.placeRank + w.children.all.length + w.handler.length := by
  unfold World.loopRank
  split
  · exact Nat.le_refl _
  · exact Nat.zero_le _

/-- One place further on, with nothing more to reap and to remove. -/
theorem loop_rank_lt (hl : w.main.looping = true) (hp : w'.placeRank < w.placeRank)
    (hc : w'.children = w.children) (hh : w'.handler = w.handler) : w'.loopRank + 1 ≤ w.loopRank := by
  have hle := loop_rank_le w'
  rw [hc,hh] at hle
  rw [loop_rank_eq hl]
  omega

theorem main_counts {ok : Bool} {pid : Child} (hl : w.main.looping = true) (hday : w.dayOver = true)
    (h : w.mainStep ok pid = some w') :
    (w'.main.looping = true ∨ w'.main.stopping = true) ∧ w'.loopRank + 1 ≤ w.loopRank := by
  have hend : w.sys.shm.simEndMinutes ≤ w.sys.shm.simMinutes := of_decide_eq_true hday
  cases hp : w.main with
  | overTest =>
    simp only [World.mainStep,hp,if_pos hend] at h
    cases h
    exact ⟨.inl rfl,loop_rank_lt hl (by simp [World.placeRank,hp]) rfl rfl⟩
  | stop =>
    simp only [World.mainStep,hp] at h
    cases h
    exact ⟨.inr rfl,loop_rank_lt hl (by simp [World.placeRank,hp]) rfl rfl⟩
  | pause =>
    simp only [World.mainStep,hp] at h
    cases h
  | test =>
    simp only [World.mainStep,hp] at h
    split at h <;> cases h
    · exact ⟨.inl rfl,loop_rank_lt hl (by simp [World.placeRank,hp]) rfl rfl⟩
    · exact ⟨.inl rfl,loop_rank_lt hl (by simp [World.placeRank,hp]) rfl rfl⟩
  | reapTest =>
    simp only [World.mainStep,hp] at h
    cases h
    cases hg : w.gChildExited with
    | true => exact ⟨.inl rfl,loop_rank_lt hl (by simp [World.placeRank,hp]) rfl rfl⟩
    | false => exact ⟨.inl rfl,loop_rank_lt hl (by simp [World.placeRank,hp]) rfl rfl⟩
  | reapClear =>
    simp only [World.mainStep,hp] at h
    cases h
    exact ⟨.inl rfl,loop_rank_lt hl (by simp [World.placeRank,hp]) rfl rfl⟩
  | reapWait =>
    simp only [World.mainStep,hp] at h
    split at h
    · cases h
      exact ⟨.inl rfl,loop_rank_lt hl (by simp [World.placeRank,hp]) rfl rfl⟩
    · obtain ⟨c,hc,rfl⟩ := Option.map_eq_some_iff.mp h
      have hlen := (Lib.Children.reap_all hc).length_eq
      simp only [List.length_cons] at hlen
      refine ⟨.inl rfl,?_⟩
      rw [loop_rank_eq hl,loop_rank_eq rfl]
      simp only [World.placeRank,hp]
      omega
  | arm =>
    simp only [World.mainStep,hp] at h
    cases h
    refine ⟨.inl rfl,loop_rank_lt hl ?_ rfl rfl⟩
    cases ha : w.asleep <;> simp [World.placeRank,hp]
  | _ =>
    rw [hp] at hl
    cases hl

/-- A handler that is entered, and the end of a `pause()`. -/
theorem signal_counts {sig : MainSignal} (hl : w.main.looping = true) (hs : w.step (.mainSignal sig) = some w') :
    w.Counts (.mainSignal sig) w' := by
  obtain ⟨v,hv,rfl⟩ := Option.map_eq_some_iff.mp hs
  have hhandler : v.main = w.main ∧ v.asleep = w.asleep ∧ v.children.all = w.children.all ∧
      v.handler.length = w.handler.length + (Event.mainSignal sig : Event n).credit := by
    rcases handler_cases hv with ⟨rfl,-,rfl⟩ | ⟨rfl,-,rfl⟩ | ⟨rfl,rfl⟩
    · exact ⟨rfl,rfl,rfl,rfl⟩
    · exact ⟨rfl,rfl,rfl,rfl⟩
    · exact ⟨rfl,rfl,rfl,by simp [Event.credit,Nat.add_comm]⟩
  obtain ⟨hm,ha,hc,hh⟩ := hhandler
  have hlv : v.main.looping = true := hm ▸ hl
  by_cases hpause : w.main = .pause ∧ w.asleep = true
  · -- `main` is asleep and wakes up.
    obtain ⟨hp,has⟩ := hpause
    have hloops : (w.loops (.mainSignal sig)).toNat ≤ 1 := Bool.toNat_le _
    rw [if_pos has]
    have hwoken : v.mainWoken = { v with main := .test, asleep := false } := by
      unfold World.mainWoken
      rw [hm,hp]
    rw [hwoken]
    refine ⟨.inl rfl,?_⟩
    rw [loop_rank_eq hl,loop_rank_eq rfl]
    simp only [World.placeRank,hp,has,if_true,hc,hh]
    omega
  · have hloops : w.loops (.mainSignal sig) = false := by
      cases sig with
      | alrm =>
        by_contra hon
        simp only [World.loops,Bool.not_eq_false,Bool.and_eq_true,beq_iff_eq] at hon
        exact hpause hon
      | _ => rfl
    have hsame : ∀ v' : World n, v'.main = w.main → (w.main = .pause → v'.asleep = w.asleep) →
        v'.children = v.children → v'.handler = v.handler → w.Counts (.mainSignal sig) v' := by
      intro v' hm' ha' hc' hh'
      refine ⟨.inl (hm' ▸ hl),?_⟩
      rw [hloops,loop_rank_eq hl,loop_rank_eq (hm' ▸ hl),hc',hc,hh',hh]
      have hplace : v'.placeRank = w.placeRank := by
        unfold World.placeRank
        rw [hm']
        split
        · rfl
        · rw [ha' ‹_›]
        all_goals rfl
      rw [hplace]
      simp only [Bool.toNat_false]
      omega
    split
    · rename_i has
      have hawake : v.mainWoken = { v with asleep := false } := by
        unfold World.mainWoken
        split
        · rename_i hp
          rw [hp] at hlv
          cases hlv
        · rename_i hp
          exact absurd ⟨hm.symm.trans hp,has⟩ hpause
        · rfl
      rw [hawake]
      refine hsame _ hm ?_ rfl rfl
      intro hp
      exact absurd ⟨hp,has⟩ hpause
    · exact hsame v hm (fun _ => ha) rfl rfl

theorem loop_counts (hl : w.main.looping = true) (hday : w.dayOver = true) (hs : w.step e = some w') :
    w.Counts e w' := by
  cases he : e.ofMain with
  | false =>
    have hsame := others_main he hs
    have hlen : w'.children.all.length = w.children.all.length := by
      rcases hsame.children with hc | ⟨p,-,hc⟩
      · rw [hc]
      · exact (Lib.Children.exit_all hc).length_eq
    have hloops : w.loops e = false := by
      cases e with
      | main | mainSleep | mainSignal => cases he
      | _ => rfl
    have hrank : w'.loopRank = w.loopRank := by
      unfold World.loopRank World.placeRank
      rw [hsame.main,hsame.asleep,hsame.handler,hlen]
    exact ⟨.inl (hsame.main ▸ hl),by rw [hrank,hloops]; exact Nat.le_add_right _ _⟩
  | true =>
    cases e with
    | main ok pid =>
      have hloops : w.loops (.main ok pid) = true := hl
      simp only [World.step,World.mainNext] at hs
      split at hs
      · rename_i o rest hh
        cases hs
        refine ⟨.inl hl,?_⟩
        rw [hloops,loop_rank_eq hl,hh]
        refine (Nat.add_le_add_right (loop_rank_le _) _).trans ?_
        simp only [World.placeRank,List.length_cons,Bool.toNat_true]
        omega
      · obtain ⟨hstop,hle⟩ := main_counts hl hday hs
        rw [World.Counts,hloops]
        exact ⟨hstop,hle⟩
    | mainSleep =>
      have hloops : w.loops .mainSleep = true := hl
      simp only [World.step] at hs
      split at hs
      · rename_i hgo
        obtain ⟨-,ha,hb⟩ := hgo
        have hp : w.main = .pause := by
          rcases hb with hp | ⟨hp,-⟩ | ⟨hp,-⟩
          · exact hp
          · rw [hp] at hl
            cases hl
          · rw [hp] at hl
            cases hl
        cases hs
        rw [World.Counts,hloops]
        exact ⟨.inl hl,loop_rank_lt hl (by simp [World.placeRank,hp,ha]) rfl rfl⟩
      · cases hs
    | mainSignal sig => exact signal_counts hl hs
    | _ => cases he

theorem run_timers (h : WorldRuns alarmsHeld u tr w) : WorldRuns timersHeld u tr w :=
  h.mono fun _ _ _ held => (Bool.and_eq_true _ _ ▸ held).1

theorem run_alarms {post : WorldTrace n} (h : WorldRuns alarmsHeld u tr w)
    (h' : Lib.Run World.step afterHours w post w') : WorldRuns alarmsHeld u (tr ++ post) w' := by
  have hrest : Lib.Run World.step alarmsHeld w post w' :=
    h'.mono fun _ _ _ held => (Bool.and_eq_true _ _ ▸ held).1
  exact h.append hrest

theorem looping_stopping {m : MainPlace} (hm : m.looping = true) : m.stopping = false := by
  cases m <;> first | rfl | cases hm

/-- The measure of the loop along a run. -/
theorem loop_run {l : WorldTrace n} (hm : w.main.looping = true ∨ w.main.stopping = true)
    (held : afterHours l w e = true) (hs : w.step e = some w') :
    (w'.main.looping = true ∨ w'.main.stopping = true) ∧
      w'.loopRank + (w.loops e).toNat ≤ w.loopRank + e.credit := by
  rcases hm with hl | hstop
  · simp only [afterHours,Bool.and_eq_true] at held
    exact loop_counts hl held.2 hs
  · have hstop' := stopping_stays hstop hs
    have hnot : ∀ v : World n, v.main.stopping = true → v.main.looping = false := by
      intro v hv
      by_contra hl
      rw [looping_stopping (by simpa using hl)] at hv
      cases hv
    have hloops : w.loops e = false := by
      have hoff := hnot w hstop
      unfold World.loops
      split
      · exact hoff
      · exact hoff
      · cases hp : w.main <;> rw [hp] at hstop <;> first | rfl | cases hstop
      · rfl
    refine ⟨.inr hstop',?_⟩
    simp [World.loopRank,hnot w' hstop',hloops]

/-- `main` can leave its loop by itself. -/
theorem loop_ends (h : WorldRuns alarmsHeld u tr w) (hl : w.main.looping = true) (hday : w.dayOver = true) :
    ∃ post w', Lib.Run World.step alarmsHeld w post w' ∧ w'.main.stopping = true := by
  have hstart : WorldRuns alarmsHeld u (tr ++ []) w := by simpa using h
  refine Lib.Run.completes (fun l v => WorldRuns alarmsHeld u (tr ++ l) v ∧ v.dayOver = true ∧
    (v.main.looping = true ∨ v.main.stopping = true)) World.loopRank (fun v => v.main.stopping = true) ?_
    ⟨hstart,hday,.inl hl⟩ .nil
  rintro l v ⟨hv,hover,hm⟩ hnot
  have hlv := hm.resolve_right hnot
  obtain ⟨e,he,hsome⟩ := loop_moves hlv (run_main_armed hv)
  obtain ⟨v',hs⟩ := Option.isSome_iff_exists.mp hsome
  have hof : e.ofMain = true := by
    cases e <;> first | rfl | cases he
  have held : alarmsHeld l v e = true := by
    cases e with
    | mainSignal sig =>
      cases sig with
      | alrm =>
        simp only [World.loops,Bool.and_eq_true] at he
        simp [alarmsHeld,timersHeld,he.2]
      | _ => rfl
    | main | mainSleep => rfl
    | _ => cases hof
  have hcredit : e.credit = 0 := by
    cases e with
    | mainSignal sig => cases sig <;> first | rfl | cases he
    | _ => rfl
  obtain ⟨hm',hlt⟩ := loop_counts hlv hover hs
  rw [he,hcredit] at hlt
  have hover' : v'.dayOver = true := by
    obtain ⟨b,c,hsys⟩ := (main_only hof hs).sys
    unfold World.dayOver
    rw [hsys]
    exact hover
  refine ⟨e,v',held,hs,⟨?_,hover',hm'⟩,hlt⟩
  rw [← List.append_assoc]
  exact hv.snoc held hs

/-- When the simulated time is over and stays so (`afterHours`), and no timer runs out before the
process that armed it sleeps (`alarmsHeld`), `main` leaves its loop in every such schedule: it has
`loopRank` steps left there and seven more for each SIGTERM or SIGINT (`credit`: the calls of its
handler), and always has the next one. From there the program can go on to its end. -/
theorem day_ends (h : WorldRuns alarmsHeld u tr w) (hl : w.main.looping = true) (hday : w.dayOver = true) :
    (∀ post w', Lib.Run World.step afterHours w post w' →
      post.countP (fun q => q.1.loops q.2) ≤ w.loopRank + (post.map fun q => q.2.credit).sum ∧
        (w'.main.stopping = true ∨ ∃ e, w'.loops e = true ∧ (w'.step e).isSome = true)) ∧
      ∃ post w', Lib.Run World.step alarmsHeld w post w' ∧ w'.main = .exited := by
  refine ⟨?_,?_⟩
  · intro post w' h'
    have hcount := h'.count_le (fun v => v.main.looping = true ∨ v.main.stopping = true)
      World.loopRank World.loops Event.credit ?_ (.inl hl)
    · obtain ⟨hm,hcount⟩ := hcount
      refine ⟨by omega,?_⟩
      rcases hm with hl' | hstop
      · exact .inr (loop_moves hl' (run_main_armed (run_alarms h h')))
      · exact .inl hstop
    · intro l v e v' hm held hs
      exact loop_run hm held hs
  · obtain ⟨post,v,hloop,hstop⟩ := loop_ends h hl hday
    have hmid : WorldRuns alarmsHeld u (tr ++ post) v := h.append hloop
    have henv : ∀ l (v : World n) e, v.own e = true → alarmsHeld l v e = true := by
      intro l v e he
      unfold alarmsHeld
      rw [own_held he]
      cases e with
      | mainSignal sig => cases he
      | _ => rfl
    obtain ⟨post',w',hend,hx⟩ := shutdown_ends henv (run_timers hmid) hstop
    exact ⟨post ++ post',w',hloop.append hend,hx⟩

/-- The only tourist is on its chair, the simulated time is over, and `main` has just armed its
timer. -/
def lateRide : List (Event 1) :=
  launch ++ spawnerSteps 6 ++ acts (rideAlone 0) ++ mains 4 ++ [.time 100000000]

theorem day_ends_ride : ∃ tr w, WorldRuns alarmsHeld (sample 1) tr w ∧ w.main = .pause ∧ w.dayOver = true ∧
    ∃ post w', Lib.Run World.step alarmsHeld w post w' ∧ w'.main = .exited := by
  have hr : worldReaches alarmsHeld (sample 1) lateRide (fun _ w => w.main == .pause && w.dayOver) = true := by
    decide +kernel
  obtain ⟨tr,w,h,ht⟩ := exists_world_run hr
  simp only [Bool.and_eq_true,beq_iff_eq] at ht
  exact ⟨tr,w,h,ht.1,ht.2,(day_ends h (by rw [ht.1]; rfl) ht.2).2⟩

/-- Without the rule on the timers the alarm may come before `main` is asleep, which then waits
for some other signal. -/
example : worldReaches anyEvent (sample 1) (lateRide ++ [.mainSignal .alrm, .mainSleep])
    (fun _ w => w.dayOver && w.main == .pause && w.asleep && !w.alarm && !w.children.sigchld) = true := by
  decide +kernel

end Ropeway
