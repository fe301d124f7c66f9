import Ropeway.Frames.Visitors

/-! The ticket exchange: requests and responses share one bounded queue. -/

namespace Ropeway
variable {n : Nat} {s s' : Sys n} {u : Setup n} {tr : List (Sys n × Act n)}

def beforeClosing : Env n := fun _ _ a =>
  match a with
  | .close => false
  | _ => true

/-- The queue is full of requests, the cashier is blocked sending a response, and so
is every tourist inside `tourist_buy_ticket`. -/
def TicketDeadlock (s : Sys n) : Prop :=
  s.mqCashier.length = s.mqCashierMax ∧ (∀ m ∈ s.mqCashier, m.mtype = msgCashierRequest) ∧
    s.cashier.pc = .send ∧ cashierMain s = none ∧
    ∀ i, (s.tourists i).pc = .buySend ∨ (s.tourists i).pc = .buyReceive →
      ∀ x, touristMain s i x = none

def cashierHand (s : Sys n) : List Nat :=
  match s.cashier.pc with
  | .recheck | .statsWait | .stats | .statsPost | .send | .refuse => [s.cashier.request.touristId]
  | _ => []

def exchange (s : Sys n) : List Nat := s.mqCashier.map CashierMsg.touristId ++ cashierHand s

/-- Every message of the exchange belongs to one tourist that waits for its
response. -/
structure Tickets (u : Setup n) (s : Sys n) : Prop where
  typed : ∀ m ∈ s.mqCashier, m.mtype = msgCashierRequest ∨ m.mtype = responseType m.touristId
  nodup : (exchange s).Nodup
  waiting : ∀ k ∈ exchange s, ∃ i, touristId i = k ∧ (s.tourists i).pc = .buyReceive
  ids : ∀ i, (s.tourists i).data.id = touristId i
  max : s.mqCashierMax = u.mqCashierMax

theorem Tickets.same (h : Tickets u s) (ht : s'.tourists = s.tourists)
    (hc : s'.cashier = s.cashier) (hq : s'.mqCashier = s.mqCashier)
    (hm : s'.mqCashierMax = s.mqCashierMax) : Tickets u s' := by
  have he : exchange s' = exchange s := by simp [exchange,cashierHand,hc,hq]
  refine ⟨?_,?_,?_,?_,hm.trans h.max⟩
  · rw [hq]
    exact h.typed
  · rw [he]
    exact h.nodup
  · rw [he,ht]
    exact h.waiting
  · rw [ht]
    exact h.ids

/-- A step that keeps the messages of the exchange, in any order. -/
theorem Tickets.perm (h : Tickets u s) (ht : s'.tourists = s.tourists)
    (hm : s'.mqCashierMax = s.mqCashierMax)
    (typed : ∀ m ∈ s'.mqCashier, m.mtype = msgCashierRequest ∨ m.mtype = responseType m.touristId)
    (he : (exchange s').Perm (exchange s)) : Tickets u s' := by
  refine ⟨typed,he.nodup_iff.mpr h.nodup,?_,by rw [ht]; exact h.ids,hm.trans h.max⟩
  intro k hk
  rw [ht]
  exact h.waiting k (he.mem_iff.mp hk)

/-- The cashier takes a request into its hand and puts a response in its place: the
exchange keeps its tourists. -/
theorem cashier_exchange (hs : cashierMain s = some s') : (exchange s').Perm (exchange s) := by
  cases hp : s.cashier.pc <;> simp only [cashierMain,hp] at hs
  case top | recheck =>
    repeat' split at hs
    all_goals
      cases hs
      simp [exchange,cashierHand,hp]
  case receive =>
    obtain ⟨⟨m,q⟩,hm,rfl⟩ := Option.map_eq_some_iff.mp hs
    obtain ⟨a,b,hq,rfl,-,-⟩ := Lib.msgrcv_split (by decide) hm
    simp only [exchange,cashierHand,hp,hq,List.map_append,List.map_cons,List.append_nil]
    exact (List.perm_append_singleton _ _).trans List.perm_middle.symm
  case statsWait =>
    obtain ⟨-,rfl⟩ := sem_wait_map hs
    simp [exchange,cashierHand,hp]
  case stats | statsPost =>
    cases hs
    simp [exchange,cashierHand,hp]
  case send | refuse =>
    obtain ⟨-,rfl⟩ := send_cashier_map hs
    simp [exchange,cashierHand,hp]
  case exited => cases hs

theorem Tickets.cashier (h : Tickets u s) (hs : cashierMain s = some s') : Tickets u s' := by
  have hframe := cashier_only hs
  refine h.perm hframe.tourists hframe.mqCashierMax ?_ (cashier_exchange hs)
  cases hp : s.cashier.pc <;> simp only [cashierMain,hp] at hs
  case top | recheck =>
    repeat' split at hs
    all_goals
      cases hs
      exact h.typed
  case receive =>
    obtain ⟨⟨m,q⟩,hm,rfl⟩ := Option.map_eq_some_iff.mp hs
    obtain ⟨a,b,hq,rfl,-,-⟩ := Lib.msgrcv_split (by decide) hm
    intro y hy
    apply h.typed y
    rw [hq]
    simp only [List.mem_append,List.mem_cons] at hy ⊢
    tauto
  case statsWait =>
    obtain ⟨-,rfl⟩ := sem_wait_map hs
    exact h.typed
  case stats | statsPost =>
    cases hs
    exact h.typed
  case send | refuse =>
    obtain ⟨-,rfl⟩ := send_cashier_map hs
    intro y hy
    simp only [Sys.serve_mqCashier,List.mem_append,List.mem_singleton] at hy
    rcases hy with hy | rfl
    · exact h.typed y hy
    · exact .inr rfl
  case exited => cases hs

theorem response_inj {j k : Nat} (h : responseType j = responseType k) : j = k := by
  unfold responseType at h
  omega

theorem response_ne_request (k : Nat) : responseType k ≠ msgCashierRequest := by
  unfold responseType msgCashierResponseBase msgCashierRequest
  omega

/-- Tourist `i` moves and the exchange keeps its messages; it was not waiting. -/
theorem Tickets.idle {i : Fin n} (h : Tickets u s) (ho : TouristOnly i s s')
    (hq : s'.mqCashier = s.mqCashier) (hp : (s.tourists i).pc ≠ .buyReceive) :
    Tickets u s' := by
  have he : exchange s' = exchange s := by simp [exchange,cashierHand,ho.cashier,hq]
  refine ⟨by rw [hq]; exact h.typed,by rw [he]; exact h.nodup,?_,?_,ho.mqCashierMax.trans h.max⟩
  · intro k hk
    rw [he] at hk
    obtain ⟨j,hj,hpc⟩ := h.waiting k hk
    have hne : j ≠ i := by
      rintro rfl
      exact hp hpc
    exact ⟨j,hj,by rw [ho.others j hne]; exact hpc⟩
  · exact ho.ids h.ids

theorem exchange_send {i : Fin n} (pc : TouristPc) (hid : (s.tourists i).data.id = touristId i) :
    (exchange ({ s with mqCashier := s.mqCashier ++ [(s.tourists i).data.request] }.walk i
      pc)).Perm (touristId i :: exchange s) := by
  have hreq : (s.tourists i).data.request.touristId = touristId i := hid
  simp only [exchange,cashierHand,Sys.walk_cashier,Sys.walk_mqCashier,List.map_append,
    List.map_cons,List.map_nil,hreq,List.append_assoc,List.singleton_append]
  exact List.perm_middle

theorem Tickets.send {i : Fin n} (h : Tickets u s) (hp : (s.tourists i).pc = .buySend) :
    Tickets u ({ s with mqCashier := s.mqCashier ++ [(s.tourists i).data.request] }.walk i
      .buyReceive) := by
  have hnew : touristId i ∉ exchange s := by
    intro hk
    obtain ⟨j,hj,hpc⟩ := h.waiting _ hk
    rw [tourist_id_inj hj,hp] at hpc
    cases hpc
  have he := exchange_send .buyReceive (h.ids i)
  refine ⟨?_,he.nodup_iff.mpr (List.nodup_cons.mpr ⟨hnew,h.nodup⟩),?_,?_,h.max⟩
  · intro m hm
    simp only [Sys.walk_mqCashier,List.mem_append,List.mem_singleton] at hm
    rcases hm with hm | rfl
    · exact h.typed m hm
    · exact .inl rfl
  · intro k hk
    rcases List.mem_cons.mp (he.mem_iff.mp hk) with rfl | hk
    · exact ⟨i,rfl,by simp⟩
    · obtain ⟨j,hj,hpc⟩ := h.waiting k hk
      have hne : j ≠ i := by
        rintro rfl
        rw [hp] at hpc
        cases hpc
      exact ⟨j,hj,by simpa [hne] using hpc⟩
  · intro j
    by_cases hj : j = i
    · subst hj
      simpa using h.ids j
    · simpa [hj] using h.ids j

theorem exchange_receive {i : Fin n} {m : CashierMsg} {a b : List CashierMsg}
    (hs : s.mqCashier = a ++ m :: b) (hid : m.touristId = touristId i)
    (hc : s'.cashier = s.cashier) (hq : s'.mqCashier = a ++ b) :
    (exchange s).Perm (touristId i :: exchange s') := by
  simp only [exchange,cashierHand,hc,hq,hs,List.map_append,List.map_cons,hid,List.append_assoc,
    List.cons_append]
  exact List.perm_middle

/-- Tourist `i` takes its response out of the queue and goes on. -/
theorem Tickets.receive {i : Fin n} {m : CashierMsg} {q : List CashierMsg} (h : Tickets u s)
    (hm : receiveTicket s (s.tourists i).data = some (m,q)) (ho : TouristOnly i s s')
    (hq : s'.mqCashier = q) : Tickets u s' := by
  obtain ⟨a,b,hs,rfl,htype,-⟩ :=
    Lib.msgrcv_split (by unfold responseType msgCashierResponseBase; omega) hm
  have hmem : m ∈ s.mqCashier := by simp [hs]
  have hid : m.touristId = touristId i := by
    rcases h.typed m hmem with ht | ht
    · exact absurd (htype.symm.trans ht) (response_ne_request _)
    · rw [htype,h.ids i] at ht
      exact (response_inj ht).symm
  have he := exchange_receive hs hid ho.cashier hq
  have hnd := List.nodup_cons.mp (he.nodup_iff.mp h.nodup)
  refine ⟨?_,hnd.2,?_,?_,ho.mqCashierMax.trans h.max⟩
  · intro y hy
    apply h.typed y
    rw [hq] at hy
    rw [hs]
    simp only [List.mem_append,List.mem_cons] at hy ⊢
    tauto
  · intro k hk
    obtain ⟨j,hj,hpc⟩ := h.waiting k (he.mem_iff.mpr (List.mem_cons_of_mem _ hk))
    have hne : j ≠ i := by
      rintro rfl
      rw [hj] at hnd
      exact hnd.1 hk
    exact ⟨j,hj,by rw [ho.others j hne]; exact hpc⟩
  · exact ho.ids h.ids

theorem Tickets.tourist {i : Fin n} {x : Nat} (h : Tickets u s)
    (hs : touristMain s i x = some s') : Tickets u s' := by
  have ho := tourist_only hs
  by_cases h1 : (s.tourists i).pc = .buySend
  · simp only [touristMain,h1] at hs
    obtain ⟨-,rfl⟩ := send_cashier_map hs
    exact h.send h1
  · by_cases h2 : (s.tourists i).pc = .buyReceive
    · simp only [touristMain,h2] at hs
      obtain ⟨⟨m,q⟩,hm,rfl⟩ := Option.map_eq_some_iff.mp hs
      apply h.receive hm ho
      dsimp only
      split <;> rfl
    · exact h.idle ho ((tourist_queues hs).cashier h1 h2) h2

theorem start_tickets (u : Setup n) : Tickets u u.start := by
  refine ⟨?_,?_,?_,fun _ => rfl,rfl⟩ <;> simp [Setup.start,exchange,cashierHand]

theorem run_tickets {rules : List (Env n)} (hr : beforeShutdown ∈ rules)
    (h : Runs rules u tr s) : Tickets u s := by
  refine run_invariant (fun _ s => Tickets u s) (start_tickets u) ?_ h
  intro tr s a s' hown hi allowed hstep
  cases hv : a.visitor with
  | false =>
    have hsame := visitors_same hown hv hstep
    exact hi.same hsame.tourists hsame.cashier hsame.mqCashier hsame.mqCashierMax
  | true =>
    cases a with
    | cashier => exact hi.cashier hstep
    | tourist i x => exact hi.tourist hstep
    | touristCont i =>
      simp only [step] at hstep
      split at hstep
      · obtain ⟨pc,hpc,rfl⟩ := Option.map_eq_some_iff.mp hstep
        apply hi.idle (.walk pc rfl rfl rfl rfl rfl) rfl
        intro hb
        rw [hb] at hpc
        cases hpc
      · cases hstep
    | touristFail | cashierFail =>
      have hno := allow_mem hr allowed
      simp [beforeShutdown] at hno
    | _ => cases hv

/-- A deadlock takes more tourists than the queue has places: each request in it and
the one in the cashier's hand belong to different tourists. -/
theorem Tickets.deadlock_lt (h : Tickets u s) (hd : TicketDeadlock s) : u.mqCashierMax < n := by
  obtain ⟨hfull,-,hsend,-,-⟩ := hd
  have hlen : (exchange s).length = u.mqCashierMax + 1 := by
    simp [exchange,cashierHand,hsend,hfull,h.max]
  have hsub : exchange s ⊆ (List.finRange n).map touristId := by
    intro k hk
    obtain ⟨i,rfl,-⟩ := h.waiting k hk
    exact List.mem_map_of_mem (List.mem_finRange i)
  have hle := (h.nodup.subperm hsub).length_le
  rw [hlen] at hle
  simp at hle
  omega

structure Filled (u : Setup n) (k : Nat) (s : Sys n) : Prop where
  len : s.mqCashier.length = k
  requests : ∀ m ∈ s.mqCashier, m.mtype = msgCashierRequest
  max : s.mqCashierMax = u.mqCashierMax
  idle : s.cashier.pc = .top
  stats : 0 < s.sem .stats
  running : s.shm.running = true
  notClosing : s.shm.closing = false
  rest : ∀ i, k ≤ i.val → (s.tourists i).pc = .buySend

theorem start_filled (u : Setup n) : Filled u 0 u.start := by
  have hsem := sem_create_values u.created
  refine ⟨rfl,by simp [Setup.start],rfl,rfl,?_,rfl,rfl,fun _ _ => rfl⟩
  simp [Setup.start,hsem,semValues]

theorem send_cashier_room (hroom : s.mqCashier.length < s.mqCashierMax) (m : CashierMsg) :
    sendCashier s m = some { s with mqCashier := s.mqCashier ++ [m] } := if_pos hroom

theorem Filled.next {i : Fin n} {k : Nat} (h : Filled u k s) (hi : i.val = k)
    (hk : k < u.mqCashierMax) :
    ∃ s', step s (.tourist i 0) = some s' ∧ Filled u (k + 1) s' := by
  have hp := h.rest i (by omega)
  have hroom : s.mqCashier.length < s.mqCashierMax := by rw [h.len,h.max]; exact hk
  have hstep : step s (.tourist i 0) = some ({ s with
      mqCashier := s.mqCashier ++ [(s.tourists i).data.request] }.walk i .buyReceive) := by
    simp only [step,touristMain,hp,send_cashier_room hroom,Option.map_some]
  refine ⟨_,hstep,?_⟩
  refine ⟨by simp [h.len],?_,h.max,h.idle,h.stats,h.running,h.notClosing,?_⟩
  · intro m hm
    simp only [Sys.walk_mqCashier,List.mem_append,List.mem_singleton] at hm
    rcases hm with hm | rfl
    · exact h.requests m hm
    · rfl
  · intro j hj
    have hne : j ≠ i := by
      rintro rfl
      omega
    simpa [hne] using h.rest j (by omega)

abbrev exchangeRules : List (Env n) := [beforeShutdown,beforeClosing]

theorem exists_filled (u : Setup n) {k : Nat} (hk : k ≤ u.mqCashierMax) (hn : k ≤ n) :
    ∃ tr s, Runs exchangeRules u tr s ∧ Filled u k s := by
  induction k with
  | zero => exact ⟨[],u.start,.nil,start_filled u⟩
  | succ k ih =>
    obtain ⟨tr,s,hrun,hf⟩ := ih (by omega) (by omega)
    obtain ⟨s',hs,hf'⟩ := hf.next (i := ⟨k,by omega⟩) rfl (by omega)
    exact ⟨_,s',hrun.snoc rfl hs,hf'⟩

/-- With the queue full of requests and a response to send, everybody is blocked. -/
theorem deadlock_of_full (hfull : s.mqCashier.length = s.mqCashierMax)
    (hreq : ∀ m ∈ s.mqCashier, m.mtype = msgCashierRequest) (hp : s.cashier.pc = .send) :
    TicketDeadlock s := by
  have hsend : ∀ m, sendCashier s m = none := fun m => if_neg (by omega)
  refine ⟨hfull,hreq,hp,by simp [cashierMain,hp,hsend],?_⟩
  rintro i (hi | hi) x
  · simp [touristMain,hi,hsend]
  · have hnone : receiveTicket s (s.tourists i).data = none := by
      apply Lib.msgrcv_none (by unfold responseType msgCashierResponseBase; omega)
      intro m hm he
      exact response_ne_request _ (he.symm.trans (hreq m hm))
    simp [touristMain,hi,hnone]

/-- The cashier has received a request, its place has been taken, and it goes on to
send its response. -/
structure Caught (s : Sys n) : Prop where
  full : s.mqCashier.length = s.mqCashierMax
  requests : ∀ m ∈ s.mqCashier, m.mtype = msgCashierRequest
  pc : s.cashier.pc = .recheck
  stats : 0 < s.sem .stats
  notClosing : s.shm.closing = false

theorem Caught.deadlock (h : Caught s) (hrun : Runs exchangeRules u tr s) :
    ∃ tr s, Runs exchangeRules u tr s ∧ TicketDeadlock s := by
  let c := { s.cashier with
    pc := .statsWait
    validUntil := calculateTicketValidity s.shm s.cashier.request.ticketType }
  let s1 : Sys n := { s with cashier := c }
  let s2 : Sys n := { s1 with sem := Function.update s1.sem .stats (s1.sem .stats - 1) }.serve .stats
  let s3 : Sys n := { s2 with shm := s2.shm.sell s2.cashier.request }.serve .statsPost
  let s4 : Sys n := (semPost s3 .stats 1).serve .send
  have h1 : step s .cashier = some s1 := by
    simp [step,cashierMain,h.pc,h.notClosing,s1,c]
  have hw : semWait s1 .stats 1 =
      some { s1 with sem := Function.update s1.sem .stats (s1.sem .stats - 1) } := if_pos h.stats
  have h2 : step s1 .cashier = some s2 := by
    show (semWait s1 .stats 1).map (·.serve .stats) = some s2
    rw [hw]
    rfl
  have h3 : step s2 .cashier = some s3 := rfl
  have h4 : step s3 .cashier = some s4 := rfl
  refine ⟨_,s4,(((hrun.snoc rfl h1).snoc rfl h2).snoc rfl h3).snoc rfl h4,?_⟩
  exact deadlock_of_full h.full h.requests rfl

theorem Filled.caught {i : Fin n} (h : Filled u u.mqCashierMax s) (hi : i.val = u.mqCashierMax)
    (hrun : Runs exchangeRules u tr s) : ∃ tr s, Runs exchangeRules u tr s ∧ Caught s := by
  have hp := h.rest i (by omega)
  cases hq : s.mqCashier with
  | nil =>
    have hlen := h.len
    have hpos := u.holdsOne
    simp [hq] at hlen
    omega
  | cons m q =>
    have hlen : q.length + 1 = u.mqCashierMax := by simpa [hq] using h.len
    have hm : m.mtype = msgCashierRequest := h.requests m (by simp [hq])
    let s1 : Sys n := s.serve .receive
    let s2 : Sys n := { s1 with mqCashier := q, cashier := { s1.cashier with pc := .recheck, request := m } }
    let s3 : Sys n := { s2 with mqCashier := q ++ [(s.tourists i).data.request] }.walk i .buyReceive
    have h1 : step s .cashier = some s1 := by
      simp [step,cashierMain,h.idle,h.running,h.notClosing,s1]
    have h2 : step s1 .cashier = some s2 := by
      have hr : Lib.msgrcv CashierMsg.mtype s1.mqCashier msgCashierRequest = some (m,q) := by
        rw [Lib.msgrcv_type (by decide)]
        simp [s1,hq,Lib.takeFirst,hm]
      show (Lib.msgrcv CashierMsg.mtype s1.mqCashier msgCashierRequest).map _ = some s2
      rw [hr]
      rfl
    have h3 : step s2 (.tourist i 0) = some s3 := by
      have hroom : s2.mqCashier.length < s2.mqCashierMax := by
        show q.length < s.mqCashierMax
        rw [h.max]
        omega
      have hp2 : (s2.tourists i).pc = .buySend := hp
      simp only [step,touristMain,hp2,send_cashier_room hroom,Option.map_some]
      rfl
    refine ⟨_,s3,((hrun.snoc rfl h1).snoc rfl h2).snoc rfl h3,?_⟩
    refine ⟨?_,?_,rfl,h.stats,h.notClosing⟩
    · show (q ++ [(s.tourists i).data.request]).length = s.mqCashierMax
      rw [h.max]
      simp [hlen]
    · intro y hy
      rcases List.mem_append.mp hy with hy | hy
      · exact h.requests y (by simp [hq,hy])
      · rw [List.mem_singleton.mp hy]
        rfl

/-- The exchange is free of deadlock exactly when the queue can hold a request of
every tourist. -/
theorem ticket_deadlock_free_iff (u : Setup n) :
    (∀ tr s, Runs [beforeShutdown,beforeClosing] u tr s → ¬TicketDeadlock s) ↔
      n ≤ u.mqCashierMax := by
  constructor
  · intro hfree
    by_contra hlt
    obtain ⟨tr,s,hrun,hf⟩ := exists_filled u (Nat.le_refl u.mqCashierMax) (by omega)
    obtain ⟨tr',s',hrun',hc⟩ := hf.caught (i := ⟨u.mqCashierMax,by omega⟩) rfl hrun
    obtain ⟨tr'',s'',hrun'',hd⟩ := hc.deadlock hrun'
    exact hfree tr'' s'' hrun'' hd
  · intro hle tr s hrun hd
    have hlt := (run_tickets (by simp) hrun).deadlock_lt hd
    omega

def narrow : Setup 2 := { sample 2 with mqCashierMax := 1, holdsOne := by decide }

/-- The second request takes the place of the first while the cashier is busy. -/
theorem narrow_queue_deadlocks : ∃ tr s,
    Runs [beforeShutdown,beforeClosing] narrow tr s ∧ TicketDeadlock s := by
  have hr : reaches [beforeShutdown,beforeClosing] narrow
      (walks 0 1 ++ List.replicate 2 .cashier ++ walks 1 1 ++ List.replicate 4 .cashier)
      (fun _ s => s.mqCashier.length == s.mqCashierMax &&
        s.mqCashier.all (fun m => m.mtype == msgCashierRequest) && s.cashier.pc == .send) =
      true := by decide +kernel
  obtain ⟨tr,s,h,ht⟩ := exists_run hr
  simp only [Bool.and_eq_true,beq_iff_eq,List.all_eq_true] at ht
  exact ⟨tr,s,h,deadlock_of_full ht.1.1 ht.1.2 ht.2⟩

end Ropeway
