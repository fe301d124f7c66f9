import Ropeway.Platform
import Ropeway.Holdings
import Mathlib.Tactic.Abel

/-! The platform gates bound what is between the platform queue and the chairs: a tourist
holds a gate from before it sends itself to the platform until it has read its
confirmation. -/

namespace Ropeway
variable {n : Nat} {s s' : Sys n} {a : Act n} {u : Setup n} {tr : List (Sys n × Act n)}

def noteDeparture (g : List Nat) (s : Sys n) : Act n → List Nat
  | .worker .lower _ =>
    match (s.worker .lower).pc with
    | .lower (.dispatchWait _) => if s.lower.pending = [] then g else g ++ [s.lower.pending.length]
    | _ => g
  | _ => g

def departures (tr : List (Sys n × Act n)) : List Nat := Lib.history noteDeparture [] tr

/-- At most as many tourists as there are platform gates are in `MQ_PLATFORM`, in the hand
of the lower worker, buffered without a confirmation or about to read one. -/
structure GatesBound (tr : List (Sys n × Act n)) (s : Sys n) : Prop where
  held : s.mqPlatform.length + (inHand s).length + (unsent s).length + s.mqBoarding.length ≤
    platformGates
  pending : s.lower.pending.length ≤ platformGates
  buffered : (s.worker .lower).pc = .lower .place →
    s.lower.buffer.pending = s.lower.pending ++ [⟨s.lower.msg.touristId, s.lower.msg.slotsNeeded⟩]
  departed : ∀ k ∈ departures tr, k ≤ platformGates

theorem held_card (s : Sys n) : (heldSet s).card =
    s.mqPlatform.length + (inHand s).length + (unsent s).length + s.mqBoarding.length := by
  simp only [heldSet,heldIds,Multiset.coe_card,List.length_append,List.length_map]
  omega

/-- Nobody is held twice, and everybody who is held waits for its confirmation. -/
structure Gated (s : Sys n) : Prop where
  nodup : (heldSet s).Nodup
  waits : ∀ k ∈ heldSet s, ∃ i : Fin n, k = touristId i ∧ (s.tourists i).pc = .boardReceive
  ids : ∀ i, (s.tourists i).data.id = touristId i
  pending : s.lower.pending.length ≤ platformGates

/-- The tourists that wait for their confirmation hold a gate each. -/
theorem gates_taken (h : Lending u tr s) :
    (Finset.univ.filter (fun i => (s.tourists i).pc = .boardReceive)).card ≤ platformGates := by
  have ht := h.total .platformGates (by simp [lent])
  have hgates : u.sem .platformGates = platformGates := by
    rw [sem_create_values u.created]
    rfl
  have hinj : Function.Injective (Process.tourist (n := n)) := by
    intro i j he
    cases he
    rfl
  have hsub : ∑ p ∈ (Finset.univ.filter (fun i => (s.tourists i).pc = .boardReceive)).map
      ⟨Process.tourist,hinj⟩, takes s p .platformGates ≤ ∑ p, takes s p .platformGates :=
    Finset.sum_le_sum_of_subset (Finset.subset_univ _)
  have hone : ∑ p ∈ (Finset.univ.filter (fun i => (s.tourists i).pc = .boardReceive)).map
      ⟨Process.tourist,hinj⟩, takes s p .platformGates =
        (Finset.univ.filter (fun i => (s.tourists i).pc = .boardReceive)).card := by
    rw [Finset.sum_map,Finset.card_eq_sum_ones]
    apply Finset.sum_congr rfl
    intro i hi
    simp [takes,touristTakes,lentAt,(Finset.mem_filter.mp hi).2,holdsPlatform]
  omega

theorem Gated.bound (h : Gated s) (hl : Lending u tr s) : (heldSet s).card ≤ platformGates := by
  have hsub : (heldSet s).toFinset ⊆
      (Finset.univ.filter (fun i => (s.tourists i).pc = .boardReceive)).image touristId := by
    intro k hk
    obtain ⟨i,rfl,hi⟩ := h.waits k (Multiset.mem_toFinset.mp hk)
    exact Finset.mem_image_of_mem _ (Finset.mem_filter.mpr ⟨Finset.mem_univ i,hi⟩)
  calc (heldSet s).card = (heldSet s).toFinset.card := (Multiset.toFinset_card_of_nodup h.nodup).symm
    _ ≤ _ := Finset.card_le_card hsub
    _ ≤ _ := Finset.card_image_le
    _ ≤ platformGates := gates_taken hl

/-- A step of somebody else loses at most the message in hand. -/
theorem held_still (h : Still a s s') : heldSet s' ≤ heldSet s := by
  have hhand : inHand s' = inHand s ∨ inHand s' = [] := by
    unfold inHand
    rw [h.lower]
    cases h.shift .lower with
    | same he => rw [he]; exact .inl rfl
    | calm before after => rw [hand_calm before,hand_calm after]; exact .inl rfl
    | enter he =>
      generalize (s'.worker .lower).pc = pc at he
      cases he with
      | lower hp | last hp => rw [hp]; exact .inl rfl
    | wake sent woken he =>
      rw [he]
      by_cases hp : (s.worker .lower).pc = .lower .recheckWait
      · rw [hp]
        exact .inr rfl
      · rw [hand_wake hp]
        exact .inl rfl
  refine Multiset.coe_le.mpr (List.Sublist.subperm ?_)
  simp only [heldIds,h.mqPlatform,h.mqBoarding,unsent_still h]
  rcases hhand with he | he
  · rw [he]
  · rw [he]
    simp

/-- The buffer grows by the tourist in hand or is emptied. -/
theorem lower_pending {p : LowerPc} {x : Nat} (hs : lowerWorkerMain s x p = some s') :
    s'.lower.pending.length ≤ s.lower.pending.length ∨
      p = .place ∧ s'.lower.pending.length ≤ s.lower.pending.length + 1 := by
  cases p with
  | receive =>
    obtain ⟨⟨m,q⟩,hm,rfl⟩ := Option.map_eq_some_iff.mp hs
    exact .inl le_rfl
  | requeueStop | requeue | checkRead | recheckRead | arm =>
    cases hs
    exact .inl le_rfl
  | place =>
    simp only [lowerWorkerMain] at hs
    repeat' split at hs
    all_goals
      cases hs
      refine .inr ⟨rfl,?_⟩
      first
        | exact Nat.le_succ _
        | (simp only [Sys.goto_lower,LowerLocals.buffer]; split <;> simp)
  | dispatchWait site =>
    simp only [lowerWorkerMain] at hs
    split at hs
    · cases hs
      cases site <;> exact .inl le_rfl
    · obtain ⟨-,rfl⟩ := sem_wait_map hs
      exact .inl le_rfl
  | dispatchSend site i =>
    simp only [lowerWorkerMain] at hs
    split at hs
    · cases hs
      exact .inl le_rfl
    · cases hs
      cases site <;> exact .inl (Nat.zero_le _)
  | checkWait | recheckWait =>
    obtain ⟨-,rfl⟩ := sem_wait_map hs
    exact .inl le_rfl
  | checkPost | recheckPost =>
    simp only [lowerWorkerMain] at hs
    split at hs
    all_goals
      cases hs
      exact .inl le_rfl

/-- Nobody new is held and no tourist has moved. -/
theorem Gated.keep (h : Gated s) (hle : heldSet s' ≤ heldSet s) (ht : s'.tourists = s.tourists)
    (hp : s'.lower.pending.length ≤ platformGates) : Gated s' := by
  refine ⟨Multiset.nodup_of_le hle h.nodup,?_,by rw [ht]; exact h.ids,hp⟩
  intro k hk
  rw [ht]
  exact h.waits k (Multiset.mem_of_le hle hk)

/-- With a tourist in hand there is room in the buffer. -/
theorem Gated.room (h : Gated s) (hl : Lending u tr s) (hp : (s.worker .lower).pc = .lower .place) :
    s.lower.pending.length < platformGates := by
  have hb := h.bound hl
  rw [held_card] at hb
  have hhand : (inHand s).length = 1 := by simp [inHand,hp,handAt]
  have hunsent : unsent s = s.lower.pending := by simp [unsent,hp,unsentAt]
  rw [hhand,hunsent] at hb
  omega

theorem Gated.lower {p : LowerPc} {x : Nat} (h : Gated s) (hl : Lending u tr s)
    (hp : (s.worker .lower).pc = .lower p) (hs : lowerWorkerMain s x p = some s') : Gated s' := by
  have hheld : heldSet s' = heldSet s := by
    apply lower_held hp ?_ hs
    rintro rfl _
    have hroom := h.room hl hp
    simp only [platformGates] at hroom
    omega
  apply h.keep hheld.le (lower_only hs).tourists
  rcases lower_pending hs with hle | ⟨rfl,hle⟩
  · exact hle.trans h.pending
  · have hroom := h.room hl hp
    omega

/-- A tourist is held from its own message to the platform on. -/
theorem held_board {i : Fin n} {d : TouristData} (hd : d.id = touristId i) :
    heldSet ({ s with mqPlatform := s.mqPlatform ++ [d.platformMsg] }.walk i .boardReceive) =
      touristId i ::ₘ heldSet s := by
  simp only [held_eq,inHand,unsent,TouristData.platformMsg,hd,Sys.walk_worker,Sys.walk_lower,
    Sys.walk_mqPlatform,Sys.walk_mqBoarding,List.map_append,List.map_cons,List.map_nil,
    ← Multiset.coe_add,← Multiset.cons_coe,Multiset.coe_nil,← Multiset.singleton_add]
  abel

/-- It is not any more once it has read its confirmation. -/
theorem held_confirmed {i : Fin n} {m : PlatformMsg} {q : List PlatformMsg}
    (hid : (s.tourists i).data.id = touristId i)
    (hm : receiveBoarding s (s.tourists i).data = some (m,q)) (t : Tourist) :
    heldSet s = touristId i ::ₘ heldSet ({ s with mqBoarding := q }.setTourist i t) := by
  have hpos : 0 < (s.tourists i).data.id := by
    rw [hid]
    exact Nat.succ_pos _
  obtain ⟨b,c,he,rfl,htype,-⟩ := Lib.msgrcv_split hpos hm
  rw [hid] at htype
  have hkey : m.mtype = touristId i := by exact_mod_cast htype
  simp only [held_eq,inHand,unsent,he,hkey,Sys.setTourist_worker,Sys.setTourist_lower,
    Sys.setTourist_mqPlatform,Sys.setTourist_mqBoarding,List.map_append,List.map_cons,
    ← Multiset.coe_add,← Multiset.cons_coe,← Multiset.singleton_add]
  abel

theorem Gated.tourist {i : Fin n} {x : Nat} (h : Gated s)
    (hs : touristMain s i x = some s') : Gated s' := by
  have ho := tourist_only hs
  have hw := tourist_same hs
  have hids := ho.ids h.ids
  have hpend : s'.lower.pending.length ≤ platformGates := by
    rw [hw.lower]
    exact h.pending
  -- Everybody else waits as before.
  have hothers : ∀ k ∈ heldSet s, k ≠ touristId i →
      ∃ j : Fin n, k = touristId j ∧ (s'.tourists j).pc = .boardReceive := by
    intro k hk hne
    obtain ⟨j,rfl,hj⟩ := h.waits k hk
    refine ⟨j,rfl,?_⟩
    rw [ho.others j (by rintro rfl; exact hne rfl)]
    exact hj
  by_cases hsend : (s.tourists i).pc = .boardSend
  · have hnot : touristId i ∉ heldSet s := by
      intro hmem
      obtain ⟨j,hj,hpc⟩ := h.waits _ hmem
      rw [← tourist_id_inj hj,hsend] at hpc
      cases hpc
    simp only [touristMain,hsend] at hs
    cases hs
    refine ⟨?_,?_,hids,hpend⟩
    · rw [held_board (h.ids i)]
      exact Multiset.nodup_cons.mpr ⟨hnot,h.nodup⟩
    · intro k hk
      rw [held_board (h.ids i)] at hk
      rcases Multiset.mem_cons.mp hk with rfl | hk
      · exact ⟨i,rfl,by simp⟩
      · exact hothers k hk (by rintro rfl; exact hnot hk)
  · by_cases hrecv : (s.tourists i).pc = .boardReceive
    · simp only [touristMain,hrecv] at hs
      obtain ⟨⟨m,q⟩,hm,rfl⟩ := Option.map_eq_some_iff.mp hs
      have hheld := held_confirmed (h.ids i) hm
      have hnodup := h.nodup
      rw [hheld] at hnodup
      obtain ⟨hnot,hrest⟩ := Multiset.nodup_cons.mp hnodup
      refine ⟨hrest,?_,hids,hpend⟩
      intro k hk
      refine hothers k ?_ ?_
      · rw [hheld]
        exact Multiset.mem_cons_of_mem hk
      · rintro rfl
        exact hnot hk
    · have hq := tourist_queues hs
      have hheld : heldSet s' = heldSet s := by
        refine held_same ?_ (hq.platform hsend) ?_ (hq.boarding hrecv)
        · simp [inHand,hw.worker,hw.lower]
        · simp [unsent,hw.worker,hw.lower]
      refine ⟨by rw [hheld]; exact h.nodup,?_,hids,hpend⟩
      intro k hk
      rw [hheld] at hk
      apply hothers k hk
      rintro rfl
      obtain ⟨j,hj,hpc⟩ := h.waits _ hk
      rw [← tourist_id_inj hj] at hpc
      exact hrecv hpc

theorem Gated.step (h : Gated s) (hl : Lending u tr s) (t : Traffic s s' a) : Gated s' := by
  cases t with
  | lower hp hs => exact h.lower hl hp hs
  | upper hp hs =>
    have ho := upper_only hs
    apply h.keep (held_upper ho).le ho.tourists
    rw [ho.lower]
    exact h.pending
  | tourist hs => exact h.tourist hs
  | @cont i pc hc he =>
    subst he
    have ho : TouristOnly i s (s.walk i pc) := .walk _ rfl rfl rfl rfl rfl
    refine ⟨h.nodup,?_,?_,h.pending⟩
    · intro k hk
      obtain ⟨j,rfl,hj⟩ := h.waits k hk
      refine ⟨j,rfl,?_⟩
      have hji : j ≠ i := by
        rintro rfl
        rw [hj] at hc
        cases hc
      rw [ho.others j hji]
      exact hj
    · exact ho.ids h.ids
  | still hs =>
    apply h.keep (held_still hs) hs.tourists
    rw [hs.lower]
    exact h.pending

theorem start_gated (u : Setup n) : Gated u.start := by
  have hnone : heldSet u.start = 0 := rfl
  refine ⟨by rw [hnone]; exact Multiset.nodup_zero,?_,fun _ => rfl,Nat.zero_le _⟩
  intro k hk
  rw [hnone] at hk
  exact absurd hk (Multiset.notMem_zero k)

/-- A chair takes off with the buffered tourists. -/
theorem departures_step (hp : s.lower.pending.length ≤ platformGates)
    (h : ∀ k ∈ departures tr, k ≤ platformGates) (a : Act n) :
    ∀ k ∈ departures (tr ++ [(s,a)]), k ≤ platformGates := by
  intro k hk
  simp only [departures,Lib.history_snoc] at hk
  unfold noteDeparture at hk
  repeat' split at hk
  all_goals try exact h k hk
  rcases List.mem_append.mp hk with hk | hk
  · exact h k hk
  · rw [List.mem_singleton.mp hk]
    exact hp

/-- The platform gates bound everything downstream of them. -/
theorem gates_bound (h : Runs [beforeShutdown] u tr s) : GatesBound tr s := by
  have hall : Gated s ∧ ∀ k ∈ departures tr, k ≤ platformGates := by
    have hruns : Runs [beforeShutdown] u tr s ∧ Running s ∧ Gated s ∧
        ∀ k ∈ departures tr, k ≤ platformGates := by
      refine h.invariant (fun tr s => Runs [beforeShutdown] u tr s ∧ Running s ∧ Gated s ∧
        ∀ k ∈ departures tr, k ≤ platformGates)
          ⟨.nil,start_running u,start_gated u,by simp [departures]⟩ ?_
      rintro tr s a s' ⟨hr,hrun,hg,hd⟩ allowed hstep
      obtain ⟨hrun',t⟩ := hrun.step (allow_mem (by simp) allowed) hstep
      exact ⟨hr.snoc allowed hstep,hrun',hg.step (run_lending hr) t,
        departures_step hg.pending hd a⟩
    exact hruns.2.2
  have hl := run_lending h
  have hheld := hall.1.bound hl
  rw [held_card] at hheld
  refine ⟨hheld,hall.1.pending,?_,hall.2⟩
  intro hp
  have hroom := hall.1.room hl hp
  simp only [platformGates] at hroom
  have hlt : s.lower.pending.length < 4 := by omega
  simp [LowerLocals.buffer,hlt]

def boardTogether (k : Nat) : List (Act n) :=
  (List.range k).flatMap reachPlatform ++ safe .lower (13 * k) ++ timeout ++ safe .lower 2

theorem gates_bound_full : ∃ tr s, Runs [beforeShutdown] (sample 4) tr s ∧
    departures tr = [3] ∧ s.mqBoarding.length = 1 ∧ GatesBound tr s := by
  have hr : reaches [beforeShutdown] (sample 4) (boardTogether 3)
      (fun tr s => departures tr == [3] && s.mqBoarding.length == 1) = true := by decide +kernel
  obtain ⟨tr,s,h,ht⟩ := exists_run hr
  simp only [Bool.and_eq_true,beq_iff_eq] at ht
  exact ⟨tr,s,h,ht.1,ht.2,gates_bound h⟩

/-- `g_pending_count` is reset after the last confirmation only: two tourists are counted
in the buffer and in `MQ_BOARDING` at once. -/
theorem confirmed_counted_twice : ¬∀ (n : Nat) (u : Setup n) tr s, Runs [beforeShutdown] u tr s →
    s.mqPlatform.length + (inHand s).length + s.lower.pending.length + s.mqBoarding.length ≤
      platformGates := by
  intro hall
  have hr : reaches [beforeShutdown] (sample 2) (boardTogether 2 ++ safe .lower 1)
      (fun _ s => s.lower.pending.length == 2 && s.mqBoarding.length == 2) = true := by
    decide +kernel
  obtain ⟨tr,s,h,ht⟩ := exists_run hr
  simp only [Bool.and_eq_true,beq_iff_eq] at ht
  have hle := hall 2 (sample 2) tr s h
  simp only [ht.1,ht.2,platformGates] at hle
  omega

end Ropeway
