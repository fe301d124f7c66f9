import Ropeway.Simulation.Roster
import Ropeway.Simulation.Rank
import Mathlib.Algebra.Order.BigOperators.Group.Finset

/-! What all the processes have left to do once the main process has set `running = 0`: no
step adds to it, and every step of a program takes something off. -/

namespace Ropeway
open Function (update)
open Ipc (Obj)

variable {n : Nat} {s s' : Sys n} {w w' : World n} {e : Event n} {u : Setup n} {tr : WorldTrace n}

def Sys.rank (s : Sys n) : Nat :=
  s.workerRank .lower + s.workerRank .upper + s.cashier.pc.rank + ∑ i, (s.tourists i).pc.rank

def MainPlace.rank : MainPlace → Nat
  | .kill rest => 11 + rest.length
  | .rmid rest => 4 + rest.length
  | .wait => 3
  | .report => 2
  | .destroy => 1
  | _ => 0

def World.unbooted (w : World n) : List Child := staff.filter (· ∉ w.booted)

/-- Of the children that are left, one that has not exited counts twice. -/
def World.rank (w : World n) : Nat :=
  w.sys.rank + w.timeServer.rank + w.gen.rank + w.handler.length + w.main.rank + w.unbooted.length +
    2 * w.children.living.length + w.children.zombies.length

/-- The steps of the workers, the cashier and the tourists; of the others those that a worker
needs to get through its `pause()`. -/
def Act.lowers (s : Sys n) : Act n → Bool
  | .worker _ _ | .cashier | .cashierFail _ | .tourist _ _ | .touristCont _ | .touristFail _ => true
  | .sleep r => (s.worker r).pc == .pause
  | .deliver r sig => (s.worker r).pc == .pause && wakes (s.worker r) sig
  | _ => false

theorem same_workers_rank (h : SameWorkers s s') (r : Role) : s'.workerRank r = s.workerRank r := by
  simp only [Sys.workerRank,h.worker,h.lower]

theorem tourist_sum {i : Fin n} (ho : ∀ j, j ≠ i → s'.tourists j = s.tourists j)
    (hlt : (s'.tourists i).pc.rank < (s.tourists i).pc.rank) :
    ∑ j, (s'.tourists j).pc.rank < ∑ j, (s.tourists j).pc.rank := by
  apply Finset.sum_lt_sum
  · intro j _
    by_cases hj : j = i
    · rw [hj]
      exact hlt.le
    · rw [ho j hj]
  · exact ⟨i,Finset.mem_univ i,hlt⟩

theorem walk_rank {i : Fin n} {pc : TouristPc} (hlt : pc.rank < (s.tourists i).pc.rank) :
    (s.walk i pc).rank < s.rank := by
  have hsum : ∑ j, ((s.walk i pc).tourists j).pc.rank < ∑ j, (s.tourists j).pc.rank := by
    refine tourist_sum (i := i) ?_ (by simpa using hlt)
    intro j hj
    simp [hj]
  have hw := same_workers_rank ((SameWorkers.refl s).walk i pc)
  simp only [Sys.rank,hw,Sys.walk_cashier] at hsum ⊢
  omega

/-- A worker's own record is all that changes. -/
theorem record_rank {r : Role} {k : Worker} {l : LowerLocals} (hl : r = .upper → l = s.lower) {d : Nat}
    (hle : ({ s with lower := l }.setWorker r k).workerRank r + d ≤ s.workerRank r) :
    ({ s with lower := l }.setWorker r k).rank + d ≤ s.rank := by
  have hother := set_rank_other (Role.other_ne r) s k l hl
  simp only [Sys.rank,Sys.setWorker_cashier,Sys.setWorker_tourists]
  cases r with
  | lower =>
    rw [Role.other] at hother
    omega
  | upper =>
    rw [Role.other] at hother
    omega

theorem worker_step_rank {r : Role} {x : Nat} (hown : ∀ r, ownPc r (s.worker r).pc = true)
    (hoff : s.shm.running = false) (h : workerStep s r x = some s') : s'.rank < s.rank := by
  have hself := worker_rank (hown r) hoff h
  have hother := other_rank (hown r) h
  have hv := worker_visitors h
  simp only [Sys.rank,hv.tourists,hv.cashier]
  cases r with
  | lower =>
    rw [Role.other] at hother
    omega
  | upper =>
    rw [Role.other] at hother
    omega

theorem handler_asleep {k k' : Worker} {sig : Signal} (h : handler k sig = some k') : k'.asleep = k.asleep := by
  cases sig <;> simp only [handler] at h
  case cont =>
    cases h
    rfl
  all_goals
    split at h <;> cases h
    rfl

theorem deliver_rank {r : Role} {sig : Signal} (hown : ownPc r (s.worker r).pc = true)
    (h : deliverSignal s r sig = some s') :
    s'.rank + (if (s.worker r).pc = .pause ∧ wakes (s.worker r) sig = true then 1 else 0) ≤ s.rank := by
  obtain ⟨k,hk,⟨hwake,rfl⟩ | ⟨hwake,al,rfl⟩⟩ := deliver_eq hown h
  · have hpc := (handler_frame hk).1
    have ha := handler_asleep hk
    rw [if_neg (by simp [hwake])]
    refine record_rank (l := s.lower) (fun _ => rfl) (Nat.le_of_eq ?_)
    cases r <;> simp [Sys.workerRank,Worker.rank,hpc,ha]
  · refine record_rank (l := s.lower) (fun _ => rfl) ?_
    simp only [hwake,and_true]
    exact wake_rank s r _ rfl

theorem act_rank {a : Act n} (hown : ∀ r, ownPc r (s.worker r).pc = true) (hoff : s.shm.running = false)
    (h : step s a = some s') : s'.rank + (a.lowers s).toNat ≤ s.rank := by
  cases a with
  | worker r x => exact worker_step_rank hown hoff h
  | sleep r =>
    simp only [step] at h
    split at h
    · rename_i hs
      cases h
      refine record_rank (l := s.lower) (fun _ => rfl) ?_
      by_cases hp : (s.worker r).pc = .pause
      · cases r <;> simp +arith [Sys.workerRank,Worker.rank,Act.lowers,hp,hs.2.2]
      · cases r <;> simp [Sys.workerRank,Worker.rank,Act.lowers,hp]
    · cases h
  | deliver r sig =>
    have hle := deliver_rank (hown r) h
    simp only [Act.lowers]
    convert hle using 2
    cases hw : wakes (s.worker r) sig <;> by_cases hp : (s.worker r).pc = .pause <;> simp [hp]
  | kill r sig =>
    obtain ⟨k,hk,rfl⟩ := Option.map_eq_some_iff.mp h
    refine record_rank (l := s.lower) (fun _ => rfl) ?_
    cases sig <;> cases hk <;> cases r <;> simp [Sys.workerRank,Worker.rank,Act.lowers]
  | cashier =>
    have hlt := cashier_rank hoff h
    have hw := same_workers_rank (cashier_same h)
    simp only [Sys.rank,hw,(cashier_only h).tourists,Act.lowers,Bool.toNat_true]
    omega
  | cashierFail pc =>
    obtain ⟨hpc,rfl⟩ := cashier_fail h
    have hlt := cashier_fail_rank hpc
    have hw := same_workers_rank ((SameWorkers.refl s).serve pc)
    simp only [Sys.rank,hw,Sys.serve_tourists,Sys.serve_cashier_pc,Act.lowers,Bool.toNat_true]
    omega
  | tourist i x =>
    have ho := tourist_only h
    have hsum := tourist_sum ho.others (tourist_rank hoff h)
    have hw := same_workers_rank (tourist_same h)
    simp only [Sys.rank,hw,ho.cashier,Act.lowers,Bool.toNat_true]
    omega
  | touristCont i =>
    simp only [step] at h
    split at h
    · obtain ⟨pc,hpc,rfl⟩ := Option.map_eq_some_iff.mp h
      exact walk_rank (tourist_cont_rank hpc)
    · cases h
  | touristFail i =>
    obtain ⟨pc,hpc,rfl⟩ := Option.map_eq_some_iff.mp h
    exact walk_rank (tourist_fail_rank hpc)
  | tick ms =>
    simp only [step] at h
    split at h
    · cases h
      exact Nat.le_refl _
    · cases h
  | close | shutdown =>
    cases h
    exact Nat.le_refl _

/-- The steps that take no signal from another process: those of the programs, the calls that
fail because their object is gone, and what gets a worker through its `pause()`. -/
def World.own (w : World n) : Event n → Bool
  | .main _ _ | .boot _ _ | .fail _ _ | .quit _ | .time _ | .spawner _ _ | .reaper _ _ | .exit _
  | .leave _ => true
  | .act (.worker _ _) | .act .cashier | .act (.tourist _ _) => true
  | .act (.cashierFail _) =>
    w.sys.cashier.pc == .top || !decide (w.answers (cashierCall w.sys.cashier.pc))
  | .act (.touristFail i) => !decide (w.answers (touristCall (w.sys.tourists i).pc))
  | .act (.sleep r) => (w.sys.worker r).pc == .pause
  | .act (.deliver r .alrm) => (w.sys.worker r).pc == .pause && (w.sys.worker r).asleep
  | _ => false

/-- SIGTERM or SIGINT makes `main` run its handler. -/
def Event.credit : Event n → Nat
  | .mainSignal .term => cleanupOrder.length
  | _ => 0

theorem own_lowers {a : Act n} (h : w.own (.act a) = true) : a.lowers w.sys = true := by
  cases a with
  | deliver r sig =>
    cases sig <;> simp only [World.own,Bool.false_eq_true] at h
    simp only [Bool.and_eq_true,beq_iff_eq] at h
    simp [Act.lowers,wakes,h.1,h.2]
  | sleep r => exact h
  | worker | cashier | cashierFail | tourist | touristFail => rfl
  | _ => simp [World.own] at h

theorem sys_only_rank {s : Sys n} {d : Nat} (h : s.rank + d ≤ w.sys.rank) :
    World.rank { w with sys := s } + d ≤ w.rank := by
  simp only [World.rank,World.unbooted]
  omega

theorem main_rank {ok : Bool} {pid : Child} (hm : w.main.stopping = true) (h : w.mainStep ok pid = some w') :
    w'.rank < w.rank := by
  cases hp : w.main <;> simp only [hp,MainPlace.stopping,reduceCtorEq] at hm
  case kill rest | rmid rest =>
    cases rest <;> simp only [World.mainStep,hp] at h <;> cases h <;>
      simp [World.rank,World.unbooted,hp,MainPlace.rank,Ipc.queues]
  case wait =>
    simp only [World.mainStep,hp] at h
    split at h
    · cases h
      simp [World.rank,World.unbooted,hp,MainPlace.rank]
    · obtain ⟨c,hc,rfl⟩ := Option.map_eq_some_iff.mp h
      have hlen := Lib.Children.reap_count hc
      simp only [World.rank,World.unbooted,hlen.1,hp]
      omega
  case report | destroy =>
    simp only [World.mainStep,hp] at h
    cases h
    simp [World.rank,World.unbooted,hp,MainPlace.rank]
  case exited =>
    simp only [World.mainStep,hp] at h
    cases h

theorem woken_stopping (hm : w.main.stopping = true) : w.mainWoken = { w with asleep := false } := by
  unfold World.mainWoken
  split
  · simp_all [MainPlace.stopping]
  · simp_all [MainPlace.stopping]
  · rfl

theorem main_signal_rank {sig : MainSignal} (hm : w.main.stopping = true)
    (h : w.step (.mainSignal sig) = some w') : w'.rank ≤ w.rank + (Event.mainSignal (n := n) sig).credit := by
  obtain ⟨v,hv,rfl⟩ := Option.map_eq_some_iff.mp h
  have hle : v.rank ≤ w.rank + (Event.mainSignal (n := n) sig).credit ∧ v.main = w.main := by
    rcases handler_cases hv with ⟨rfl,-,rfl⟩ | ⟨rfl,-,rfl⟩ | ⟨rfl,rfl⟩
    · exact ⟨Nat.le_refl _,rfl⟩
    · exact ⟨Nat.le_refl _,rfl⟩
    · refine ⟨?_,rfl⟩
      simp only [World.rank,World.unbooted,List.length_append,Event.credit]
      omega
  split
  · rw [woken_stopping (hle.2 ▸ hm)]
    exact hle.1
  · exact hle.1

theorem pc_rank_pos {pc : WorkerPc} (h : pc ≠ .exited) : 0 < pc.rank := by
  cases pc with
  | exited => exact absurd rfl h
  | ack p | trigger p | upper p => cases p <;> decide
  | lower p => cases p <;> simp [WorkerPc.rank,LowerPc.rank]
  | resume p => cases p <;> simp [WorkerPc.rank,ResumePc.rank]
  | _ => decide

theorem boot_rank {p : Child} {ok : Bool} (h : w.step (.boot p ok) = some w') : w'.rank < w.rank := by
  simp only [World.step] at h
  split at h
  · rename_i hb
    obtain ⟨-,hstaff,hnew,hlive⟩ := hb
    cases h
    unfold World.bootChild
    split
    · have hmem : p ∈ w.unbooted := by simp [World.unbooted,hstaff,hnew]
      have hfilter : staff.filter (· ∉ p :: w.booted) = w.unbooted.filter (· ≠ p) := by
        simp only [World.unbooted,List.filter_filter]
        congr 1
        funext q
        simp [not_or]
      have hlt : (w.unbooted.filter (· ≠ p)).length < w.unbooted.length := by
        rw [List.length_filter_lt_length_iff_exists]
        exact ⟨p,hmem,by simp⟩
      rw [← hfilter] at hlt
      simp only [World.rank]
      simp only [World.unbooted] at hlt ⊢
      omega
    · cases p with
      | timeServer =>
        have hpos : 0 < w.timeServer.rank := by
          cases hp : w.timeServer <;> simp [TimePc.rank]
          exact hlive hp
        change World.rank { w with timeServer := .exited } < w.rank
        simp only [World.rank,World.unbooted]
        rw [TimePc.rank]
        omega
      | cashier =>
        refine Nat.lt_of_succ_le (sys_only_rank (d := 1) ?_)
        have hpos : 0 < w.sys.cashier.pc.rank := by
          cases hp : w.sys.cashier.pc <;> simp [CashierPc.rank]
          exact hlive hp
        have hw := same_workers_rank ((SameWorkers.refl w.sys).serve .exited)
        simp only [Sys.rank,hw,Sys.serve_tourists,Sys.serve_cashier_pc]
        rw [CashierPc.rank]
        omega
      | worker r =>
        refine Nat.lt_of_succ_le (sys_only_rank (d := 1) ?_)
        refine record_rank (l := w.sys.lower) (fun _ => rfl) ?_
        have hpos : 0 < (w.sys.worker r).pc.rank := pc_rank_pos hlive
        have hle : (w.sys.worker r).pc.rank ≤ (w.sys.worker r).rank := Nat.le_add_right _ _
        cases r <;> simp [Sys.workerRank,Worker.rank,WorkerPc.rank,seatsLeft] at hle hpos ⊢ <;> omega
      | generator => simp [staff] at hstaff
  · cases h

theorem time_rank {ms : Nat} (hoff : w.sys.shm.running = false) (h : w.timeStep ms = some w') :
    w'.rank < w.rank := by
  cases hp : w.timeServer <;> simp only [World.timeStep,hp,reduceCtorEq] at h
  case firstUpdate | update =>
    obtain ⟨s,hs,rfl⟩ := Option.map_eq_some_iff.mp h
    have hrank : s.rank = w.sys.rank := by
      simp only [step] at hs
      split at hs <;> cases hs
      rfl
    simp [World.rank,World.unbooted,hp,hrank,TimePc.rank]
  case top =>
    rw [if_neg (by simp [hoff])] at h
    cases h
    simp [World.rank,World.unbooted,hp,TimePc.rank]
  case pause =>
    cases h
    simp [World.rank,World.unbooted,hp,TimePc.rank]

theorem gen_only_rank {g : Generator} (h : g.rank < w.gen.rank) : World.rank { w with gen := g } < w.rank := by
  simp only [World.rank,World.unbooted]
  omega

theorem step_counts {b : Bool} {k : Nat} (h : w'.rank < w.rank) : w'.rank + b.toNat ≤ w.rank + k := by
  have hb := Bool.toNat_le b
  omega

/-- No step adds to what is left but a signal for `main`, and every step of a program takes
something off. -/
theorem world_rank (hown : ∀ r, ownPc r (w.sys.worker r).pc = true) (hoff : w.sys.shm.running = false)
    (hm : w.main.stopping = true) (hg : w.gen.spawner = .create → w.gen.reaper = .absent)
    (h : w.step e = some w') : w'.rank + (w.own e).toNat ≤ w.rank + e.credit := by
  cases e with
  | main ok pid =>
    simp only [World.step,World.mainNext] at h
    split at h
    · rename_i hh
      cases h
      simp only [World.rank,World.unbooted,hh,List.length_cons,World.own,Event.credit,Bool.toNat_true]
      omega
    · exact step_counts (main_rank hm h)
  | mainSleep =>
    simp only [World.step] at h
    split at h <;> cases h
    simp only [World.own,Event.credit,Bool.toNat_false,Nat.add_zero]
    exact Nat.le_refl _
  | mainSignal sig =>
    simp only [World.own,Bool.toNat_false,Nat.add_zero]
    exact main_signal_rank hm h
  | boot p ok => exact step_counts (boot_rank h)
  | act a =>
    obtain ⟨-,hs⟩ := act_allowed h
    have hle := act_rank hown hoff hs
    have hown' : (w.own (.act a)).toNat ≤ (a.lowers w.sys).toNat := by
      cases ho : w.own (.act a) with
      | false => exact Nat.zero_le _
      | true => rw [own_lowers ho]
    simp only [World.step] at h
    split at h
    · obtain ⟨s,-,rfl⟩ := Option.map_eq_some_iff.mp h
      exact sys_only_rank (Nat.le_trans (Nat.add_le_add_left hown' _) hle)
    · cases h
  | fail r x =>
    simp only [World.step] at h
    split at h
    · obtain ⟨s,hs,rfl⟩ := Option.map_eq_some_iff.mp h
      obtain ⟨k,l,rfl,hl,-⟩ := worker_failure (hown r) hs
      exact sys_only_rank (d := 1) (record_rank hl (failure_rank (hown r) hs))
    · cases h
  | term p =>
    simp only [World.step] at h
    split at h
    · cases h
      cases p with
      | worker r =>
        simp only [World.termChild]
        by_cases ha : (w.sys.worker r).asleep = true
        · obtain ⟨al,he⟩ := interrupted_eq (hown r)
          rw [if_pos ha,he]
          have hle := wake_rank w.sys r { w.sys.worker r with
            pc := wakePc w.sys.lower (w.sys.worker r).pc, asleep := false, alarm := al } rfl
          exact sys_only_rank (d := 0) (record_rank (l := w.sys.lower) (fun _ => rfl) (Nat.le_of_add_right_le hle))
        · rw [if_neg ha]
          exact Nat.le_refl _
      | _ => exact Nat.le_refl _
    · cases h
  | quit r =>
    simp only [World.step] at h
    split at h
    · rename_i hq
      cases h
      have hlt := leave_rank hq.2.1
      cases r <;> exact sys_only_rank (d := 1) (record_rank (l := w.sys.lower) (fun _ => rfl) hlt)
    · cases h
  | time ms =>
    simp only [World.step] at h
    split at h
    · exact step_counts (time_rank hoff h)
    · cases h
  | spawner ok pid =>
    simp only [World.step] at h
    split at h
    · obtain ⟨g,hs,rfl⟩ := Option.map_eq_some_iff.mp h
      exact step_counts (gen_only_rank (spawn_rank hoff hg hs))
    · cases h
  | reaper own pid =>
    simp only [World.step] at h
    split at h
    · obtain ⟨g,hs,rfl⟩ := Option.map_eq_some_iff.mp h
      exact step_counts (gen_only_rank (reap_rank hs))
    · cases h
  | exit p =>
    simp only [World.step] at h
    split at h
    · obtain ⟨c,hc,rfl⟩ := Option.map_eq_some_iff.mp h
      have hlen := Lib.Children.exit_count hc
      simp only [World.rank,World.unbooted,World.own,Event.credit,Bool.toNat_true]
      omega
    · cases h
  | leave i =>
    simp only [World.step] at h
    split at h
    · obtain ⟨c,hc,rfl⟩ := Option.map_eq_some_iff.mp h
      exact step_counts (gen_only_rank (exit_rank hc))
    · cases h

theorem stopping_stays (hm : w.main.stopping = true) (h : w.step e = some w') : w'.main.stopping = true := by
  cases he : e.ofMain with
  | false =>
    rw [(others_main he h).main]
    exact hm
  | true =>
    cases e with
    | main ok pid =>
      simp only [World.step,World.mainNext] at h
      split at h
      · cases h
        exact hm
      · cases hp : w.main <;> simp only [hp,MainPlace.stopping,reduceCtorEq] at hm
        case kill rest | rmid rest => cases rest <;> simp only [World.mainStep,hp] at h <;> cases h <;> rfl
        case wait =>
          simp only [World.mainStep,hp] at h
          split at h
          · cases h
            rfl
          · obtain ⟨c,-,rfl⟩ := Option.map_eq_some_iff.mp h
            rfl
        all_goals
          simp only [World.mainStep,hp] at h
          cases h
          try rfl
    | mainSleep =>
      simp only [World.step] at h
      split at h <;> cases h
      exact hm
    | mainSignal sig =>
      obtain ⟨v,hv,rfl⟩ := Option.map_eq_some_iff.mp h
      have hsame : v.main = w.main := by
        rcases handler_cases hv with ⟨rfl,-,rfl⟩ | ⟨rfl,-,rfl⟩ | ⟨rfl,rfl⟩ <;> rfl
      split
      · rw [woken_stopping (hsame ▸ hm)]
        exact hsame ▸ hm
      · exact hsame ▸ hm
    | _ => cases he

end Ropeway
