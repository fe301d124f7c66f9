import Ropeway.Tickets
import Ropeway.Lib.Table

/-! The sale of a ticket: one request, one response, one entry in the statistics. -/

namespace Ropeway
open Function (update)
variable {n : Nat} {s s' : Sys n} {u : Setup n} {tr : List (Sys n × Act n)} {a : Act n}

/-- The segment with everything blanked that concerns neither tickets nor the report. -/
def SharedState.figures (m : SharedState) : SharedState :=
  { m with
    running := true
    closing := false
    emergencyStop := false
    emergencyWaiters := 0
    lowerStationCount := 0 }

def SharedState.tariff (m : SharedState) : Int × Int × Int × Int :=
  (m.simEndMinutes, m.ticketT1Duration, m.ticketT2Duration, m.ticketT3Duration)

theorem validity_eq {m m' : SharedState} (h : m.tariff = m'.tariff)
    (hc : m.currentSimTimeMs = m'.currentSimTimeMs) (k : Option TicketType) :
    calculateTicketValidity m k = calculateTicketValidity m' k := by
  simp only [SharedState.tariff,Prod.mk.injEq] at h
  obtain ⟨h1,h2,h3,h4⟩ := h
  unfold calculateTicketValidity SharedState.simMinutes
  rw [h1,h2,h3,h4,hc]

structure SameSales (m m' : SharedState) : Prop where
  tariff : m'.tariff = m.tariff
  total : m'.totalTourists = m.totalTourists
  byTicket : m'.touristsByTicket = m.touristsByTicket

theorem SameSales.refl (m : SharedState) : SameSales m m := ⟨rfl,rfl,rfl⟩

theorem SameSales.of_figures {m m' : SharedState} (h : m'.figures = m.figures) : SameSales m m' :=
  ⟨congrArg (·.tariff) h,congrArg (·.totalTourists) h,congrArg (·.touristsByTicket) h⟩

theorem figures_now {m m' : SharedState} (h : m'.figures = m.figures) :
    m'.currentSimTimeMs = m.currentSimTimeMs := congrArg (·.currentSimTimeMs) h

theorem tourist_figures {i : Fin n} {x : Nat} (h : touristMain s i x = some s')
    (h1 : (s.tourists i).pc ≠ .recordEntry) (h2 : (s.tourists i).pc ≠ .updateStats) :
    s'.shm.figures = s.shm.figures := by
  cases hp : (s.tourists i).pc <;> simp only [touristMain,hp] at h
  case recordEntry => exact absurd hp h1
  case updateStats => exact absurd hp h2
  case gone => cases h
  case buySend =>
    obtain ⟨-,rfl⟩ := send_cashier_map h
    rfl
  case buyReceive =>
    obtain ⟨⟨m,q⟩,-,rfl⟩ := Option.map_eq_some_iff.mp h
    dsimp only
    split <;> rfl
  case boardReceive =>
    obtain ⟨⟨m,q⟩,-,rfl⟩ := Option.map_eq_some_iff.mp h
    rfl
  case recordWait | closingWait | gateWait | stationWait | countWait | leaveWait | platformWait |
      departWait | boardWait | clearWait | clearSleep | exitWait | updateWait =>
    obtain ⟨-,rfl⟩ := sem_wait_map h
    rfl
  case loopTop | descend =>
    repeat' split at h
    all_goals
      cases h
      rfl
  all_goals
    cases h
    rfl

/-- A tourist never touches the tariff or the counts of tickets. -/
theorem tourist_sales {i : Fin n} {x : Nat} (h : touristMain s i x = some s') :
    s'.shm.currentSimTimeMs = s.shm.currentSimTimeMs ∧ SameSales s.shm s'.shm := by
  by_cases h1 : (s.tourists i).pc = .recordEntry
  · simp only [touristMain,h1] at h
    cases h
    simp only [SharedState.recordEntry,Sys.walk_shm]
    split <;> exact ⟨rfl,rfl,rfl,rfl⟩
  · by_cases h2 : (s.tourists i).pc = .updateStats
    · simp only [touristMain,h2] at h
      cases h
      exact ⟨rfl,rfl,rfl,rfl⟩
    · have hf := tourist_figures h h1 h2
      exact ⟨figures_now hf,.of_figures hf⟩

theorem cashier_figures (h : cashierMain s = some s') (hp : s.cashier.pc ≠ .stats) :
    s'.shm = s.shm := by
  cases hpc : s.cashier.pc <;> simp only [cashierMain,hpc] at h
  case stats => exact absurd hpc hp
  case exited => cases h
  case top | recheck =>
    repeat' split at h
    all_goals
      cases h
      rfl
  case receive =>
    obtain ⟨⟨m,q⟩,-,rfl⟩ := Option.map_eq_some_iff.mp h
    rfl
  case statsWait =>
    obtain ⟨-,rfl⟩ := sem_wait_map h
    rfl
  case statsPost =>
    cases h
    rfl
  case send | refuse =>
    obtain ⟨-,rfl⟩ := send_cashier_map h
    rfl

theorem worker_figures {r : Role} {x : Nat} (h : workerStep s r x = some s') :
    s'.shm.figures = s.shm.figures := by
  cases worker_acts h with
  | calm _ hs =>
    obtain ⟨b,c,hshm⟩ := hs.shm
    rw [hshm]
    rfl
  | lower _ hs => rw [(lower_only hs).shm]
  | upper _ hs => rw [(upper_only hs).shm]

/-- The clock, the cashier and the tourists are the ones that change a figure. -/
theorem others_figures (hown : ∀ r, ownPc r (s.worker r).pc = true) (ha : a.visitor = false)
    (ht : ∀ ms, a ≠ .tick ms) (h : step s a = some s') : s'.shm.figures = s.shm.figures := by
  cases a with
  | cashier | cashierFail | tourist | touristCont | touristFail => cases ha
  | worker r x => exact worker_figures h
  | sleep | deliver | kill =>
    obtain ⟨r,w,rfl,-⟩ := signal_record hown rfl (by simp) h
    rfl
  | tick ms => exact absurd rfl (ht ms)
  | close | shutdown =>
    cases h
    rfl

/-- What the generator gave a tourist and the cashier sold it: its data without the
expiry and the rides. -/
def TouristData.badge (d : TouristData) : TouristData :=
  { d with ticketValidUntil := 0, ridesCompleted := 0 }

theorem tourist_badge {i : Fin n} {x : Nat} (h : touristMain s i x = some s')
    (hr : (s.tourists i).pc ≠ .buyReceive) :
    (s'.tourists i).data.badge = (s.tourists i).data.badge ∧
      (s'.tourists i).data.ticketValidUntil = (s.tourists i).data.ticketValidUntil := by
  cases hp : (s.tourists i).pc <;> simp only [touristMain,hp] at h
  case buyReceive => exact absurd hp hr
  case gone => cases h
  case buySend =>
    obtain ⟨-,rfl⟩ := send_cashier_map h
    simp
  case boardReceive =>
    obtain ⟨⟨m,q⟩,-,rfl⟩ := Option.map_eq_some_iff.mp h
    simp
  case recordWait | closingWait | gateWait | stationWait | countWait | leaveWait | platformWait |
      departWait | boardWait | clearWait | clearSleep | exitWait | updateWait =>
    obtain ⟨-,rfl⟩ := sem_wait_map h
    simp
  case loopTop | descend =>
    repeat' split at h
    all_goals
      cases h
      simp [TouristData.badge]
  all_goals
    cases h
    simp

def Cashier.ticket (c : Cashier) : CashierMsg :=
  { c.request with
    mtype := responseType c.request.touristId
    ticketValidUntil := c.validUntil }

def Cashier.refusal (c : Cashier) : CashierMsg :=
  { c.request with
    mtype := responseType c.request.touristId
    ticketType := none }

/-- The request of one tourist: the simulated time at which it was sent, the responses
of the cashier, how often the group was counted, and the simulated time at which
`tourist_buy_ticket` returned 0. -/
structure Purchase where
  asked : Option Nat
  answers : List CashierMsg
  counted : Nat
  got : Option Nat

def Purchase.blank : Purchase := ⟨none, [], 0, none⟩

def notePurchase (g : Nat → Purchase) (s : Sys n) : Act n → Nat → Purchase
  | .tourist i _ =>
    let k := (s.tourists i).data.id
    match (s.tourists i).pc with
    | .buySend => update g k { g k with asked := some s.shm.currentSimTimeMs }
    | .buyReceive =>
      if ((receiveTicket s (s.tourists i).data).bind (·.1.ticketType)).isSome then
        update g k { g k with got := some s.shm.currentSimTimeMs }
      else g
    | _ => g
  | .cashier =>
    let k := s.cashier.request.touristId
    match s.cashier.pc with
    | .stats => update g k { g k with counted := (g k).counted + 1 }
    | .send => update g k { g k with answers := (g k).answers ++ [s.cashier.ticket] }
    | .refuse => update g k { g k with answers := (g k).answers ++ [s.cashier.refusal] }
    | _ => g
  | _ => g

def purchases (tr : List (Sys n × Act n)) : Nat → Purchase :=
  Lib.history notePurchase (fun _ => .blank) tr

def Setup.validity (u : Setup n) (i : Fin n) (c : Nat) : Int :=
  calculateTicketValidity { SharedState.init u.cfg with currentSimTimeMs := c }
    (some (u.args i).ticketType)

def Setup.party (u : Setup n) (i : Fin n) : Nat := 1 + (u.args i).kidCount

/-- Every tourist gets its own ticket. -/
structure OwnTicket (u : Setup n) (tr : List (Sys n × Act n)) (s : Sys n) : Prop where
  cashier : ∀ m q, s.cashier.pc = .receive →
    Lib.msgrcv CashierMsg.mtype s.mqCashier msgCashierRequest = some (m,q) →
      ∀ k, m ∉ (purchases tr k).answers
  tourist : ∀ i m q, (s.tourists i).pc = .buyReceive →
    receiveTicket s (s.tourists i).data = some (m,q) →
      m ∈ (purchases tr (touristId i)).answers ∧
        ∀ k, m ∈ (purchases tr k).answers → k = touristId i
  once : ∀ i : Fin n, (purchases tr (touristId i)).answers.length ≤ 1
  answered : ∀ i : Fin n, (purchases tr (touristId i)).answers ≠ [] →
    (purchases tr (touristId i)).asked.isSome = true
  bought : ∀ (i : Fin n) (t' : Nat), (purchases tr (touristId i)).got = some t' →
    (s.tourists i).data.ticketType = (u.args i).ticketType ∧
      (∃ t c, (purchases tr (touristId i)).asked = some t ∧ t ≤ c ∧ c ≤ t' ∧
        (s.tourists i).data.ticketValidUntil = u.validity i c) ∧
      (purchases tr (touristId i)).counted = 1
  total : s.shm.totalTourists = ∑ i : Fin n, (purchases tr (touristId i)).counted * u.party i
  byTicket : ∀ k, s.shm.touristsByTicket k =
    ∑ i : Fin n, if (u.args i).ticketType = k then (purchases tr (touristId i)).counted * u.party i else 0

def Setup.request (u : Setup n) (i : Fin n) : CashierMsg := ((u.args i).data (touristId i)).request

/-- The request of tourist `i` has been sent and not been answered; its group has been
counted `c` times. -/
structure Open (u : Setup n) (g : Nat → Purchase) (now : Nat) (i : Fin n) (c : Nat) : Prop where
  asked : ∃ t, (g (touristId i)).asked = some t ∧ t ≤ now
  answers : (g (touristId i)).answers = []
  counted : (g (touristId i)).counted = c
  got : (g (touristId i)).got = none

def Priced (u : Setup n) (g : Nat → Purchase) (now : Nat) (i : Fin n) (v : Int) : Prop :=
  ∃ t c, (g (touristId i)).asked = some t ∧ t ≤ c ∧ c ≤ now ∧ v = u.validity i c

inductive Letter (u : Setup n) (g : Nat → Purchase) (now : Nat) (m : CashierMsg) : Prop
  | request {i : Fin n} (h : m = u.request i) (waiting : Open u g now i 0)
  | refusal {i : Fin n} (id : m.touristId = touristId i) (type : m.mtype = responseType (touristId i))
      (ticket : m.ticketType = none) (asked : (g (touristId i)).asked.isSome = true)
      (answers : (g (touristId i)).answers = [m]) (got : (g (touristId i)).got = none)
  | ticket {i : Fin n} (id : m.touristId = touristId i) (type : m.mtype = responseType (touristId i))
      (ticket : m.ticketType = some (u.args i).ticketType)
      (priced : Priced u g now i m.ticketValidUntil)
      (answers : (g (touristId i)).answers = [m]) (counted : (g (touristId i)).counted = 1)
      (got : (g (touristId i)).got = none)

/-- How often the group in the hand of the cashier has been counted, and whether its
ticket has been priced. -/
def stageOf : CashierPc → Option (Nat × Bool)
  | .recheck | .refuse => some (0, false)
  | .statsWait | .stats => some (0, true)
  | .statsPost | .send => some (1, true)
  | _ => none

def Serving (u : Setup n) (g : Nat → Purchase) (now : Nat) (c : Cashier) : Prop :=
  ∀ k b, stageOf c.pc = some (k,b) → ∃ i, c.request = u.request i ∧ Open u g now i k ∧
    (b = true → Priced u g now i c.validUntil)

def buying : TouristPc → Bool
  | .buySend | .buyReceive => true
  | _ => false

structure Selling (u : Setup n) (g : Nat → Purchase) (s : Sys n) : Prop where
  badge : ∀ i : Fin n, (s.tourists i).data.badge = ((u.args i).data (touristId i)).badge
  letters : ∀ m ∈ s.mqCashier, Letter u g s.shm.currentSimTimeMs m
  serving : Serving u g s.shm.currentSimTimeMs s.cashier
  nodup : (exchange s).Nodup
  fresh : ∀ i : Fin n, (s.tourists i).pc = .buySend → g (touristId i) = .blank ∧ touristId i ∉ exchange s
  once : ∀ i : Fin n, (g (touristId i)).answers.length ≤ 1
  answered : ∀ i : Fin n, (g (touristId i)).answers ≠ [] → (g (touristId i)).asked.isSome = true
  bought : ∀ (i : Fin n) (t' : Nat), (g (touristId i)).got = some t' → buying (s.tourists i).pc = false ∧
    Priced u g t' i (s.tourists i).data.ticketValidUntil ∧ (g (touristId i)).counted = 1
  keys : ∀ k m, m ∈ (g k).answers → m.mtype = responseType k
  tariff : s.shm.tariff = (SharedState.init u.cfg).tariff
  total : s.shm.totalTourists = ∑ i : Fin n, (g (touristId i)).counted * u.party i
  byTicket : ∀ k, s.shm.touristsByTicket k =
    ∑ i : Fin n, if (u.args i).ticketType = k then (g (touristId i)).counted * u.party i else 0

variable {g g' : Nat → Purchase} {now now' : Nat} {m : CashierMsg} {i : Fin n}

theorem Open.keep {c : Nat} (h : Open u g now i c) (hg : g' (touristId i) = g (touristId i))
    (hle : now ≤ now') : Open u g' now' i c := by
  obtain ⟨t,ht,hn⟩ := h.asked
  exact ⟨⟨t,by rw [hg]; exact ht,hn.trans hle⟩,by rw [hg]; exact h.answers,
    by rw [hg]; exact h.counted,by rw [hg]; exact h.got⟩

theorem Priced.keep {v : Int} (h : Priced u g now i v)
    (hg : (g' (touristId i)).asked = (g (touristId i)).asked) (hle : now ≤ now') :
    Priced u g' now' i v := by
  obtain ⟨t,c,ht,h1,h2,h3⟩ := h
  exact ⟨t,c,by rw [hg]; exact ht,h1,h2.trans hle,h3⟩

theorem Letter.keep (h : Letter u g now m) (hg : g' m.touristId = g m.touristId)
    (hle : now ≤ now') : Letter u g' now' m := by
  cases h with
  | @request i he waiting =>
    have hid : m.touristId = touristId i := by rw [he]; rfl
    rw [hid] at hg
    exact .request he (waiting.keep hg hle)
  | refusal id type ticket asked answers got =>
    rw [id] at hg
    exact .refusal id type ticket (by rw [hg]; exact asked) (by rw [hg]; exact answers)
      (by rw [hg]; exact got)
  | ticket id type ticket priced answers counted got =>
    rw [id] at hg
    exact .ticket id type ticket (priced.keep (by rw [hg]) hle) (by rw [hg]; exact answers)
      (by rw [hg]; exact counted) (by rw [hg]; exact got)

theorem hand_of_stage {k : Nat} {b : Bool} (h : stageOf s.cashier.pc = some (k,b)) :
    cashierHand s = [s.cashier.request.touristId] := by
  unfold cashierHand
  cases hp : s.cashier.pc <;> rw [hp] at h <;> first | rfl | cases h

theorem hand_empty (h : stageOf s.cashier.pc = none) : cashierHand s = [] := by
  unfold cashierHand
  cases hp : s.cashier.pc <;> rw [hp] at h <;> first | rfl | cases h

theorem Serving.keep (h : Serving u g now s.cashier) (hg : ∀ k ∈ cashierHand s, g' k = g k)
    (hle : now ≤ now') : Serving u g' now' s.cashier := by
  intro k b hk
  obtain ⟨i,hr,ho,hp⟩ := h k b hk
  have hi : g' (touristId i) = g (touristId i) := by
    apply hg _
    rw [hand_of_stage hk,hr]
    exact List.mem_singleton.mpr rfl
  exact ⟨i,hr,ho.keep hi hle,fun hb => (hp hb).keep (by rw [hi]) hle⟩

/-- Everything about tickets is as before, at the same or a later time. -/
theorem Selling.same (h : Selling u g s) (ht : s'.tourists = s.tourists)
    (hc : s'.cashier = s.cashier) (hq : s'.mqCashier = s.mqCashier)
    (hle : s.shm.currentSimTimeMs ≤ s'.shm.currentSimTimeMs)
    (hf : SameSales s.shm s'.shm) : Selling u g s' := by
  have he : exchange s' = exchange s := by simp [exchange,cashierHand,hc,hq]
  refine ⟨?_,?_,?_,?_,?_,h.once,h.answered,?_,h.keys,hf.tariff.trans h.tariff,?_,?_⟩
  · rw [ht]
    exact h.badge
  · rw [hq]
    intro m hm
    exact (h.letters m hm).keep rfl hle
  · rw [hc]
    exact h.serving.keep (fun _ _ => rfl) hle
  · rw [he]
    exact h.nodup
  · rw [he,ht]
    exact h.fresh
  · rw [ht]
    exact h.bought
  · rw [hf.total]
    exact h.total
  · rw [hf.byTicket]
    exact h.byTicket

/-- One tourist goes on outside `tourist_buy_ticket`. -/
theorem Selling.elsewhere (h : Selling u g s) (ho : ∀ j, j ≠ i → s'.tourists j = s.tourists j)
    (hc : s'.cashier = s.cashier) (hq : s'.mqCashier = s.mqCashier)
    (hb : buying (s'.tourists i).pc = false)
    (hd : (s'.tourists i).data.badge = (s.tourists i).data.badge)
    (hv : (s'.tourists i).data.ticketValidUntil = (s.tourists i).data.ticketValidUntil)
    (hle : s'.shm.currentSimTimeMs = s.shm.currentSimTimeMs)
    (hf : SameSales s.shm s'.shm) : Selling u g s' := by
  have he : exchange s' = exchange s := by simp [exchange,cashierHand,hc,hq]
  refine ⟨?_,?_,?_,?_,?_,h.once,h.answered,?_,h.keys,hf.tariff.trans h.tariff,?_,?_⟩
  · intro j
    by_cases hj : j = i
    · subst hj
      rw [hd]
      exact h.badge j
    · rw [ho j hj]
      exact h.badge j
  · rw [hq,hle]
    exact h.letters
  · rw [hc,hle]
    exact h.serving
  · rw [he]
    exact h.nodup
  · intro j hj
    by_cases hji : j = i
    · subst hji
      rw [hj] at hb
      cases hb
    · rw [he]
      rw [ho j hji] at hj
      exact h.fresh j hj
  · intro j t' hg
    obtain ⟨h1,h2,h3⟩ := h.bought j t' hg
    by_cases hji : j = i
    · subst hji
      exact ⟨hb,by rw [hv]; exact h2,h3⟩
    · rw [ho j hji]
      exact ⟨h1,h2,h3⟩
  · rw [hf.total]
    exact h.total
  · rw [hf.byTicket]
    exact h.byTicket

/-- A tourist that has left `tourist_buy_ticket` does not come back to it. -/
theorem tourist_buying {x : Nat} (h : touristMain s i x = some s')
    (hb : buying (s.tourists i).pc = false) : buying (s'.tourists i).pc = false := by
  cases hp : (s.tourists i).pc <;> simp only [touristMain,hp] at h
  case buySend | buyReceive =>
    rw [hp] at hb
    cases hb
  case gone => cases h
  case boardReceive =>
    obtain ⟨⟨m,q⟩,-,rfl⟩ := Option.map_eq_some_iff.mp h
    simp [buying]
  case recordWait | closingWait | gateWait | stationWait | countWait | leaveWait | platformWait |
      departWait | boardWait | clearWait | clearSleep | exitWait | updateWait =>
    obtain ⟨t,hw,rfl⟩ := Option.map_eq_some_iff.mp h
    simp [buying]
  case loopTop | descend =>
    repeat' split at h
    all_goals
      cases h
      simp [buying]
  all_goals
    cases h
    simp only [Sys.walk_tourists,Sys.setTourist_tourists,Function.update_self]
    repeat' split
    all_goals rfl

theorem failure_buying {d : TouristData} {pc pc' : TouristPc} (h : touristFailure d pc = some pc') :
    buying pc' = false := by
  cases pc <;> simp only [touristFailure,reduceCtorEq,Option.some.injEq] at h
  all_goals
    subst h
    repeat' split
    all_goals rfl

theorem cont_buying {pc pc' : TouristPc} (h : touristInterrupted pc = some pc') :
    buying pc' = false := by
  cases pc <;> cases h <;> rfl

theorem Selling.id (h : Selling u g s) (i : Fin n) : (s.tourists i).data.id = touristId i :=
  congrArg TouristData.id (h.badge i)

theorem Selling.request (h : Selling u g s) (i : Fin n) :
    (s.tourists i).data.request = u.request i := by
  have hr : (s.tourists i).data.badge.request = ((u.args i).data (touristId i)).badge.request :=
    congrArg TouristData.request (h.badge i)
  exact hr

theorem letter_mem (h : m ∈ s.mqCashier) : m.touristId ∈ exchange s :=
  List.mem_append_left _ (List.mem_map_of_mem h)

/-- A step in the course of the request of tourist `i` leaves every other tourist's
alone. -/
theorem Selling.renew (h : Selling u g s) (p : Purchase)
    (hbadge : ∀ j, (s'.tourists j).data.badge = (s.tourists j).data.badge)
    (hothers : ∀ j, j ≠ i → s'.tourists j = s.tourists j)
    (hnow : s'.shm.currentSimTimeMs = s.shm.currentSimTimeMs)
    (htariff : s'.shm.tariff = s.shm.tariff)
    (hletters : ∀ m ∈ s'.mqCashier, m ∈ s.mqCashier ∧ m.touristId ≠ touristId i ∨
      Letter u (update g (touristId i) p) s.shm.currentSimTimeMs m)
    (hserving : Serving u (update g (touristId i) p) s.shm.currentSimTimeMs s'.cashier)
    (hnodup : (exchange s').Nodup)
    (hsub : ∀ k ∈ exchange s', k = touristId i ∨ k ∈ exchange s)
    (hpc : (s'.tourists i).pc ≠ .buySend) (honce : p.answers.length ≤ 1)
    (hasked : p.answers ≠ [] → p.asked.isSome = true)
    (hgot : ∀ t', p.got = some t' → buying (s'.tourists i).pc = false ∧
      Priced u (update g (touristId i) p) t' i (s'.tourists i).data.ticketValidUntil ∧ p.counted = 1)
    (hkeys : ∀ m ∈ p.answers, m.mtype = responseType (touristId i))
    (htotal : s'.shm.totalTourists =
      ∑ j : Fin n, (update g (touristId i) p (touristId j)).counted * u.party j)
    (hby : ∀ k, s'.shm.touristsByTicket k = ∑ j : Fin n, if (u.args j).ticketType = k then
      (update g (touristId i) p (touristId j)).counted * u.party j else 0) :
    Selling u (update g (touristId i) p) s' := by
  have hrest : ∀ j, j ≠ i → update g (touristId i) p (touristId j) = g (touristId j) := by
    intro j hj
    exact Function.update_of_ne (fun he => hj (tourist_id_inj he)) _ _
  refine ⟨fun j => (hbadge j).trans (h.badge j),?_,by rw [hnow]; exact hserving,hnodup,?_,?_,?_,?_,
    ?_,htariff.trans h.tariff,htotal,hby⟩
  · intro m hm
    rw [hnow]
    rcases hletters m hm with ⟨hold,hne⟩ | hnew
    · exact (h.letters m hold).keep (Function.update_of_ne hne _ _) le_rfl
    · exact hnew
  · intro j hj
    by_cases hji : j = i
    · subst hji
      exact absurd hj hpc
    · rw [hothers j hji] at hj
      obtain ⟨hblank,hnew⟩ := h.fresh j hj
      refine ⟨by rw [hrest j hji]; exact hblank,?_⟩
      intro hk
      rcases hsub _ hk with he | he
      · exact hji (tourist_id_inj he)
      · exact hnew he
  · intro j
    by_cases hji : j = i
    · rw [hji,Function.update_self]
      exact honce
    · rw [hrest j hji]
      exact h.once j
  · intro j
    by_cases hji : j = i
    · rw [hji,Function.update_self]
      exact hasked
    · rw [hrest j hji]
      exact h.answered j
  · intro j t'
    by_cases hji : j = i
    · subst hji
      rw [Function.update_self]
      exact hgot t'
    · rw [hrest j hji,hothers j hji]
      intro hj
      obtain ⟨h1,h2,h3⟩ := h.bought j t' hj
      exact ⟨h1,h2.keep (by rw [hrest j hji]) le_rfl,h3⟩
  · intro k m hm
    by_cases hk : k = touristId i
    · subst hk
      rw [Function.update_self] at hm
      exact hkeys m hm
    · rw [Function.update_of_ne hk] at hm
      exact h.keys k m hm

/-- The sums of the statistics, when counting has not changed. -/
theorem counted_same {p : Purchase} (hp : p.counted = (g (touristId i)).counted) (w : Fin n → Nat → Nat) :
    ∑ j : Fin n, w j (update g (touristId i) p (touristId j)).counted =
      ∑ j : Fin n, w j (g (touristId j)).counted := by
  apply Finset.sum_congr rfl
  intro j _
  by_cases hj : touristId j = touristId i
  · rw [hj,Function.update_self,hp]
  · rw [Function.update_of_ne hj]

theorem Selling.total_same (h : Selling u g s) {p : Purchase}
    (hp : p.counted = (g (touristId i)).counted) : s.shm.totalTourists =
      ∑ j : Fin n, (update g (touristId i) p (touristId j)).counted * u.party j := by
  rw [counted_same hp fun j c => c * u.party j]
  exact h.total

theorem Selling.ticket_same (h : Selling u g s) {p : Purchase}
    (hp : p.counted = (g (touristId i)).counted) (k : TicketType) :
    s.shm.touristsByTicket k = ∑ j : Fin n, if (u.args j).ticketType = k then
      (update g (touristId i) p (touristId j)).counted * u.party j else 0 := by
  rw [counted_same hp fun j c => if (u.args j).ticketType = k then c * u.party j else 0]
  exact h.byTicket k

theorem Selling.ask (h : Selling u g s) (hp : (s.tourists i).pc = .buySend) (x : Nat) :
    Selling u (notePurchase g s (.tourist i x))
      ({ s with mqCashier := s.mqCashier ++ [(s.tourists i).data.request] }.walk i .buyReceive) := by
  obtain ⟨hblank,hnew⟩ := h.fresh i hp
  have hid := h.id i
  have hg : notePurchase g s (.tourist i x) =
      update g (touristId i) ⟨some s.shm.currentSimTimeMs, [], 0, none⟩ := by
    simp only [notePurchase,hp,hid,hblank,Purchase.blank]
  have hperm := exchange_send .buyReceive hid
  rw [hg]
  refine h.renew _ ?_ ?_ rfl rfl ?_ ?_ ?_ ?_ (by simp) (by simp) (by simp) (by simp) (by simp)
    (h.total_same (by rw [hblank]; rfl)) (h.ticket_same (by rw [hblank]; rfl))
  · intro j
    by_cases hj : j = i
    · subst hj
      simp
    · simp [hj]
  · intro j hj
    simp [hj]
  · intro m hm
    rcases List.mem_append.mp hm with hm | hm
    · refine .inl ⟨hm,?_⟩
      intro he
      exact hnew (he ▸ letter_mem hm)
    · rw [List.mem_singleton.mp hm,h.request i]
      refine .inr (.request (i := i) rfl ?_)
      exact ⟨⟨_,by rw [Function.update_self],le_rfl⟩,by rw [Function.update_self],
        by rw [Function.update_self],by rw [Function.update_self]⟩
  · refine h.serving.keep ?_ le_rfl
    intro k hk
    refine Function.update_of_ne ?_ _ _
    rintro rfl
    exact hnew (List.mem_append_right _ hk)
  · exact hperm.nodup_iff.mpr (List.nodup_cons.mpr ⟨hnew,h.nodup⟩)
  · intro k hk
    exact List.mem_cons.mp (hperm.mem_iff.mp hk)

/-- What a tourist receives is the one response to its own request. -/
structure Response (u : Setup n) (g : Nat → Purchase) (now : Nat) (i : Fin n) (m : CashierMsg) :
    Prop where
  id : m.touristId = touristId i
  type : m.mtype = responseType (touristId i)
  answers : (g (touristId i)).answers = [m]
  asked : (g (touristId i)).asked.isSome = true
  got : (g (touristId i)).got = none
  sold : ∀ k, m.ticketType = some k → k = (u.args i).ticketType ∧
    Priced u g now i m.ticketValidUntil ∧ (g (touristId i)).counted = 1

theorem Letter.response (h : Letter u g now m) (ht : m.mtype = responseType (touristId i)) :
    Response u g now i m := by
  cases h with
  | request he _ =>
    rw [he] at ht
    exact absurd ht.symm (response_ne_request _)
  | refusal id type ticket asked answers got =>
    have hi := tourist_id_inj (response_inj (type.symm.trans ht))
    subst hi
    exact ⟨id,type,answers,asked,got,by simp [ticket]⟩
  | ticket id type ticket priced answers counted got =>
    have hi := tourist_id_inj (response_inj (type.symm.trans ht))
    subst hi
    have hasked := priced
    obtain ⟨t,c,hasked,-⟩ := hasked
    refine ⟨id,type,answers,by rw [hasked]; rfl,got,?_⟩
    intro k hk
    rw [ticket] at hk
    cases hk
    exact ⟨rfl,priced,counted⟩

theorem Selling.response (h : Selling u g s) {q : List CashierMsg}
    (hm : receiveTicket s (s.tourists i).data = some (m,q)) :
    Response u g s.shm.currentSimTimeMs i m ∧
      ∃ a b, s.mqCashier = a ++ m :: b ∧ q = a ++ b := by
  unfold receiveTicket at hm
  rw [h.id i] at hm
  obtain ⟨a,b,hs,hq,ht,-⟩ :=
    Lib.msgrcv_split (by unfold responseType msgCashierResponseBase; omega) hm
  have hmem : m ∈ s.mqCashier := by simp [hs]
  exact ⟨(h.letters m hmem).response ht,a,b,hs,hq⟩

/-- The response leaves the exchange, and with it the tourist. -/
theorem Selling.take (h : Selling u g s) {a b : List CashierMsg} {p : Purchase}
    (hp : (s.tourists i).pc = .buyReceive) (hs : s.mqCashier = a ++ m :: b)
    (hr : Response u g s.shm.currentSimTimeMs i m) (ho : TouristOnly i s s')
    (hq : s'.mqCashier = a ++ b) (hbadge : (s'.tourists i).data.badge = (s.tourists i).data.badge)
    (hshm : s'.shm = s.shm) (hb : buying (s'.tourists i).pc = false)
    (hans : p.answers = (g (touristId i)).answers) (hask : p.asked = (g (touristId i)).asked)
    (hcount : p.counted = (g (touristId i)).counted)
    (hgot : ∀ t', p.got = some t' →
      Priced u (update g (touristId i) p) t' i (s'.tourists i).data.ticketValidUntil ∧
        p.counted = 1) : Selling u (update g (touristId i) p) s' := by
  have hperm := exchange_receive hs hr.id ho.cashier hq
  have hnd := List.nodup_cons.mp (hperm.nodup_iff.mp h.nodup)
  have hothers : ∀ k ∈ exchange s', k ≠ touristId i := by
    rintro k hk rfl
    exact hnd.1 hk
  refine h.renew p ?_ ho.others (by rw [hshm]) (by rw [hshm]) ?_ ?_ hnd.2 ?_ ?_ ?_ ?_
    (fun t' ht => ⟨hb,hgot t' ht⟩) ?_ (by rw [hshm]; exact h.total_same hcount)
    (by rw [hshm]; exact h.ticket_same hcount)
  · intro j
    by_cases hj : j = i
    · subst hj
      exact hbadge
    · rw [ho.others j hj]
  · intro y hy
    refine .inl ⟨?_,hothers _ (letter_mem hy)⟩
    rw [hq] at hy
    rw [hs]
    simp only [List.mem_append,List.mem_cons] at hy ⊢
    tauto
  · rw [ho.cashier]
    refine h.serving.keep ?_ le_rfl
    intro k hk
    refine Function.update_of_ne (hothers k ?_) _ _
    have hsame : cashierHand s' = cashierHand s := by simp [cashierHand,ho.cashier]
    exact List.mem_append_right _ (hsame ▸ hk)
  · intro k hk
    exact .inr (hperm.mem_iff.mpr (List.mem_cons_of_mem _ hk))
  · intro hbuy
    rw [hbuy] at hb
    cases hb
  · rw [hans,hr.answers]
    exact le_rfl
  · intro _
    rw [hask]
    exact hr.asked
  · intro y hy
    rw [hans] at hy
    exact h.keys _ y hy

theorem Selling.receive (h : Selling u g s) {q : List CashierMsg} {x : Nat}
    (hp : (s.tourists i).pc = .buyReceive)
    (hm : receiveTicket s (s.tourists i).data = some (m,q))
    (hs : touristMain s i x = some s') : Selling u (notePurchase g s (.tourist i x)) s' := by
  have ho := tourist_only hs
  obtain ⟨hr,a,b,hsplit,rfl⟩ := h.response hm
  simp only [touristMain,hp,hm,Option.map_some,Option.some.injEq] at hs
  cases hk : m.ticketType with
  | none =>
    simp only [hk] at hs
    subst hs
    have hg : notePurchase g s (.tourist i x) = update g (touristId i) (g (touristId i)) := by
      simp [notePurchase,hp,hm,hk]
    rw [hg]
    apply h.take hp hsplit hr ho rfl (by simp) rfl (by simp [buying]) rfl rfl rfl
    intro t' ht
    rw [hr.got] at ht
    cases ht
  | some k =>
    simp only [hk] at hs
    subst hs
    obtain ⟨hkind,hpriced,hcounted⟩ := hr.sold k hk
    have hbadge := h.badge i
    have hg : notePurchase g s (.tourist i x) = update g (touristId i)
        { g (touristId i) with got := some s.shm.currentSimTimeMs } := by
      simp only [notePurchase,hp,hm,hk,h.id i,Option.bind_some,Option.isSome_some,if_true]
    rw [hg]
    refine h.take hp hsplit hr ho rfl ?_ rfl (by simp [buying]) rfl rfl rfl ?_
    · have htype : (s.tourists i).data.ticketType = (u.args i).ticketType :=
        congrArg TouristData.ticketType hbadge
      rw [hkind,← htype]
      simp [TouristData.badge]
    · intro t' ht
      cases ht
      refine ⟨?_,hcounted⟩
      simp only [Sys.setTourist_tourists,Function.update_self]
      exact hpriced.keep (by rw [Function.update_self]) le_rfl

/-- The cashier goes on with the request in its hand, or takes or drops one. -/
theorem Selling.serve (h : Selling u g s) (hs : s'.tourists = s.tourists) (hshm : s'.shm = s.shm)
    (hletters : ∀ m ∈ s'.mqCashier, m ∈ s.mqCashier)
    (hserving : Serving u g s.shm.currentSimTimeMs s'.cashier) (hnodup : (exchange s').Nodup)
    (hsub : ∀ k ∈ exchange s', k ∈ exchange s) : Selling u g s' := by
  refine ⟨by rw [hs]; exact h.badge,?_,by rw [hshm]; exact hserving,hnodup,?_,h.once,h.answered,
    by rw [hs]; exact h.bought,h.keys,by rw [hshm]; exact h.tariff,by rw [hshm]; exact h.total,
    by rw [hshm]; exact h.byTicket⟩
  · intro m hm
    rw [hshm]
    exact h.letters m (hletters m hm)
  · intro i hi
    rw [hs] at hi
    obtain ⟨hblank,hnew⟩ := h.fresh i hi
    exact ⟨hblank,fun hk => hnew (hsub _ hk)⟩

/-- The counts of the purchases once that of `i` is counted. -/
theorem counted_update (g : Nat → Purchase) (i j : Fin n) :
    (update g (touristId i) { g (touristId i) with counted := 1 } (touristId j)).counted =
      update (fun j => (g (touristId j)).counted) i 1 j := by
  by_cases hj : j = i
  · subst hj
    simp
  · have hne : touristId j ≠ touristId i := fun he => hj (tourist_id_inj he)
    simp [hj,hne]

/-- The tourist whose request is in the hand is not about to send it. -/
theorem Selling.sent (h : Selling u g s) (hk : touristId i ∈ exchange s) :
    (s.tourists i).pc ≠ .buySend := by
  intro hp
  exact (h.fresh i hp).2 hk

theorem Selling.count (h : Selling u g s) (hp : s.cashier.pc = .stats) :
    Selling u (notePurchase g s .cashier)
      ({ s with shm := s.shm.sell s.cashier.request }.serve .statsPost) := by
  obtain ⟨i,hr,ho,hpriced⟩ := h.serving 0 true (by rw [hp]; rfl)
  have hid : s.cashier.request.touristId = touristId i := by rw [hr]; rfl
  have hhand : cashierHand s = [touristId i] := by rw [hand_of_stage (by rw [hp]; rfl),hid]
  have hg : notePurchase g s .cashier = update g (touristId i)
      { g (touristId i) with counted := 1 } := by
    simp only [notePurchase,hp,hid,ho.counted]
  have hex : exchange ({ s with shm := s.shm.sell s.cashier.request }.serve .statsPost) =
      exchange s := by simp [exchange,cashierHand,hp]
  have hmem : touristId i ∈ exchange s := List.mem_append_right _ (by simp [hhand])
  have hparty : 1 + s.cashier.request.kidCount = u.party i := by rw [hr]; rfl
  have hticket : s.cashier.request.ticketType = some (u.args i).ticketType := by rw [hr]; rfl
  have hsum : ∀ w : Fin n → Nat → Nat, w i 0 = 0 →
      ∑ j : Fin n, w j (update g (touristId i) { g (touristId i) with counted := 1 }
        (touristId j)).counted = ∑ j : Fin n, w j (g (touristId j)).counted + w i 1 := by
    intro w hw
    have hup := Lib.sum_update_at w (fun j => (g (touristId j)).counted) i 1
    simp only [← counted_update,ho.counted,hw] at hup
    exact hup
  rw [hg]
  refine h.renew _ (fun _ => rfl) (fun _ _ => rfl) rfl rfl ?_ ?_ (by rw [hex]; exact h.nodup)
    (fun k hk => .inr (hex ▸ hk)) (h.sent hmem) (h.once i) (h.answered i) ?_ (h.keys _) ?_ ?_
  · intro m hm
    refine .inl ⟨hm,?_⟩
    intro he
    have hnd := h.nodup
    rw [exchange,hhand,List.nodup_append] at hnd
    exact hnd.2.2 _ (List.mem_map_of_mem hm) _ (List.mem_singleton_self _) he
  · intro k b hk
    cases hk
    refine ⟨i,hr,⟨?_,?_,?_,?_⟩,fun _ => (hpriced rfl).keep (by rw [Function.update_self]) le_rfl⟩
    · rw [Function.update_self]
      exact ho.asked
    · rw [Function.update_self]
      exact ho.answers
    · rw [Function.update_self]
    · rw [Function.update_self]
      exact ho.got
  · intro t' ht
    rw [ho.got] at ht
    cases ht
  · rw [hsum (fun j c => c * u.party j) (by simp)]
    simp only [Sys.serve_shm,SharedState.sell,hparty,h.total,Nat.one_mul]
  · intro k
    rw [hsum (fun j c => if (u.args j).ticketType = k then c * u.party j else 0) (by simp)]
    simp only [Sys.serve_shm,SharedState.sell,hparty,hticket,Nat.one_mul]
    by_cases hk : (u.args i).ticketType = k
    · subst hk
      simp [h.byTicket]
    · have hne : k ≠ (u.args i).ticketType := fun he => hk he.symm
      simp [hk,hne,h.byTicket]

/-- The cashier sends a response for the request in its hand. -/
theorem Selling.answer (h : Selling u g s) {k : Nat} {b : Bool} (hst : stageOf s.cashier.pc = some (k,b))
    (hr : s.cashier.request = u.request i) (ho : Open u g s.shm.currentSimTimeMs i k)
    (hid : m.touristId = touristId i) (htype : m.mtype = responseType (touristId i))
    (hletter : Letter u (update g (touristId i) { g (touristId i) with answers := [m] })
      s.shm.currentSimTimeMs m) :
    Selling u (update g (touristId i) { g (touristId i) with answers := [m] })
      ({ s with mqCashier := s.mqCashier ++ [m] }.serve .top) := by
  have hreq : s.cashier.request.touristId = touristId i := by rw [hr]; rfl
  have hhand : cashierHand s = [touristId i] := by rw [hand_of_stage hst,hreq]
  have hex : exchange ({ s with mqCashier := s.mqCashier ++ [m] }.serve .top) = exchange s := by
    have htop : cashierHand ({ s with mqCashier := s.mqCashier ++ [m] }.serve .top) = [] := rfl
    simp [exchange,hhand,hid,htop]
  have hmem : touristId i ∈ exchange s := List.mem_append_right _ (by simp [hhand])
  refine h.renew _ (fun _ => rfl) (fun _ _ => rfl) rfl rfl ?_ ?_ (by rw [hex]; exact h.nodup)
    (fun k hk => .inr (hex ▸ hk)) (h.sent hmem) le_rfl ?_ ?_ ?_ (h.total_same rfl) (h.ticket_same rfl)
  · intro y hy
    rcases List.mem_append.mp hy with hy | hy
    · refine .inl ⟨hy,?_⟩
      intro he
      have hnd := h.nodup
      rw [exchange,hhand,List.nodup_append] at hnd
      exact hnd.2.2 _ (List.mem_map_of_mem hy) _ (List.mem_singleton_self _) he
    · rw [List.mem_singleton.mp hy]
      exact .inr hletter
  · intro k b hk
    cases hk
  · intro _
    obtain ⟨t,ht,-⟩ := ho.asked
    rw [ht]
    rfl
  · intro t' ht
    rw [ho.got] at ht
    cases ht
  · intro y hy
    rw [List.mem_singleton.mp hy]
    exact htype

/-- The expiry the cashier computes is that of the present moment. -/
theorem Selling.priced {k : Nat} (h : Selling u g s) (hr : s.cashier.request = u.request i)
    (ho : Open u g s.shm.currentSimTimeMs i k) : Priced u g s.shm.currentSimTimeMs i
      (calculateTicketValidity s.shm s.cashier.request.ticketType) := by
  obtain ⟨t,ht,hle⟩ := ho.asked
  refine ⟨t,s.shm.currentSimTimeMs,ht,hle,le_rfl,?_⟩
  have hticket : s.cashier.request.ticketType = some (u.args i).ticketType := by rw [hr]; rfl
  have hnow : { SharedState.init u.cfg with
      currentSimTimeMs := s.shm.currentSimTimeMs }.tariff = (SharedState.init u.cfg).tariff := rfl
  simp only [hticket]
  exact validity_eq (h.tariff.trans hnow.symm) rfl _

theorem Selling.sold (h : Selling u g s) (hp : s.cashier.pc = .send)
    (hs : (sendCashier s s.cashier.ticket).map (·.serve .top) = some s') :
    Selling u (notePurchase g s .cashier) s' := by
  obtain ⟨i,hr,ho,hpr⟩ := h.serving 1 true (by rw [hp]; rfl)
  have hid : s.cashier.request.touristId = touristId i := by rw [hr]; rfl
  have hg : notePurchase g s .cashier = update g (touristId i)
      { g (touristId i) with answers := [s.cashier.ticket] } := by
    simp only [notePurchase,hp,hid,ho.answers,List.nil_append]
  obtain ⟨-,rfl⟩ := send_cashier_map hs
  have htype : s.cashier.ticket.mtype = responseType (touristId i) := by rw [← hid]; rfl
  rw [hg]
  apply h.answer (m := s.cashier.ticket) (by rw [hp]; rfl) hr ho hid htype
  refine .ticket (i := i) hid htype ?_ ((hpr rfl).keep (by rw [Function.update_self]) le_rfl)
    (by rw [Function.update_self]) (by rw [Function.update_self]; exact ho.counted)
    (by rw [Function.update_self]; exact ho.got)
  show s.cashier.request.ticketType = _
  rw [hr]
  rfl

theorem Selling.refused (h : Selling u g s) (hp : s.cashier.pc = .refuse)
    (hs : (sendCashier s s.cashier.refusal).map (·.serve .top) = some s') :
    Selling u (notePurchase g s .cashier) s' := by
  obtain ⟨i,hr,ho,-⟩ := h.serving 0 false (by rw [hp]; rfl)
  have hid : s.cashier.request.touristId = touristId i := by rw [hr]; rfl
  have hg : notePurchase g s .cashier = update g (touristId i)
      { g (touristId i) with answers := [s.cashier.refusal] } := by
    simp only [notePurchase,hp,hid,ho.answers,List.nil_append]
  obtain ⟨-,rfl⟩ := send_cashier_map hs
  have htype : s.cashier.refusal.mtype = responseType (touristId i) := by rw [← hid]; rfl
  rw [hg]
  apply h.answer (m := s.cashier.refusal) (by rw [hp]; rfl) hr ho hid htype
  obtain ⟨t,ht,-⟩ := ho.asked
  exact .refusal (i := i) hid htype rfl (by rw [Function.update_self,ht]; rfl)
    (by rw [Function.update_self]) (by rw [Function.update_self]; exact ho.got)

theorem Selling.cashier (h : Selling u g s) (hs : cashierMain s = some s') :
    Selling u (notePurchase g s .cashier) s' := by
  have hperm := cashier_exchange hs
  have hnodup := hperm.nodup_iff.mpr h.nodup
  have hsub : ∀ k ∈ exchange s', k ∈ exchange s := fun k hk => hperm.mem_iff.mp hk
  cases hp : s.cashier.pc <;> simp only [cashierMain,hp] at hs
  case exited => cases hs
  case top =>
    have hg : notePurchase g s .cashier = g := by simp only [notePurchase,hp]
    rw [hg]
    repeat' split at hs
    all_goals
      cases hs
      refine h.serve rfl rfl (fun _ hm => hm) ?_ hnodup hsub
      intro k b hk
      cases hk
  case receive =>
    have hg : notePurchase g s .cashier = g := by simp only [notePurchase,hp]
    obtain ⟨⟨m,q⟩,hm,rfl⟩ := Option.map_eq_some_iff.mp hs
    obtain ⟨a,b,hq,rfl,ht,-⟩ := Lib.msgrcv_split (by decide) hm
    rw [hg]
    refine h.serve rfl rfl ?_ ?_ hnodup hsub
    · intro y hy
      rw [hq]
      simp only [List.mem_append,List.mem_cons] at hy ⊢
      tauto
    · intro k b hk
      cases hk
      cases h.letters m (by simp [hq]) with
      | request he waiting => exact ⟨_,he,waiting,fun hb => by cases hb⟩
      | refusal _ type | ticket _ type =>
        rw [type] at ht
        exact absurd ht (response_ne_request _)
  case recheck =>
    have hg : notePurchase g s .cashier = g := by simp only [notePurchase,hp]
    obtain ⟨i,hr,ho,-⟩ := h.serving 0 false (by rw [hp]; rfl)
    rw [hg]
    split at hs
    · cases hs
      refine h.serve rfl rfl (fun _ hm => hm) ?_ hnodup hsub
      intro k b hk
      cases hk
      exact ⟨i,hr,ho,fun hb => by cases hb⟩
    · cases hs
      refine h.serve rfl rfl (fun _ hm => hm) ?_ hnodup hsub
      intro k b hk
      cases hk
      exact ⟨i,hr,ho,fun _ => h.priced hr ho⟩
  case statsWait =>
    have hg : notePurchase g s .cashier = g := by simp only [notePurchase,hp]
    obtain ⟨i,hr,ho,hpr⟩ := h.serving 0 true (by rw [hp]; rfl)
    obtain ⟨-,rfl⟩ := sem_wait_map hs
    rw [hg]
    refine h.serve rfl rfl (fun _ hm => hm) ?_ hnodup hsub
    intro k b hk
    cases hk
    exact ⟨i,hr,ho,hpr⟩
  case stats =>
    cases hs
    exact h.count hp
  case statsPost =>
    have hg : notePurchase g s .cashier = g := by simp only [notePurchase,hp]
    obtain ⟨i,hr,ho,hpr⟩ := h.serving 1 true (by rw [hp]; rfl)
    cases hs
    rw [hg]
    refine h.serve rfl rfl (fun _ hm => hm) ?_ hnodup hsub
    intro k b hk
    cases hk
    exact ⟨i,hr,ho,hpr⟩
  case send => exact h.sold hp hs
  case refuse => exact h.refused hp hs

theorem Selling.tourist {x : Nat} (h : Selling u g s) (hs : touristMain s i x = some s') :
    Selling u (notePurchase g s (.tourist i x)) s' := by
  have ho := tourist_only hs
  by_cases h1 : (s.tourists i).pc = .buySend
  · simp only [touristMain,h1] at hs
    obtain ⟨-,rfl⟩ := send_cashier_map hs
    exact h.ask h1 x
  · by_cases h2 : (s.tourists i).pc = .buyReceive
    · cases hm : receiveTicket s (s.tourists i).data with
      | none => simp [touristMain,h2,hm] at hs
      | some p => exact h.receive h2 hm hs
    have hp : buying (s.tourists i).pc = false := by
      cases hpc : (s.tourists i).pc <;> first | rfl | contradiction
    have hg : notePurchase g s (.tourist i x) = g := by
      unfold notePurchase
      dsimp only
      split
      · exact absurd ‹_› h1
      · exact absurd ‹_› h2
      · rfl
    have hbadge := tourist_badge hs h2
    rw [hg]
    exact h.elsewhere ho.others ho.cashier ((tourist_queues hs).cashier h1 h2) (tourist_buying hs hp)
      hbadge.1 hbadge.2 (tourist_sales hs).1 (tourist_sales hs).2

theorem start_selling (u : Setup n) : Selling u (fun _ => .blank) u.start := by
  have hempty : exchange u.start = [] := rfl
  refine ⟨fun _ => rfl,by simp [Setup.start],?_,by simp [hempty],?_,fun _ => Nat.zero_le 1,
    fun _ h => absurd rfl h,?_,?_,rfl,?_,?_⟩
  · intro k b hk
    cases hk
  · intro i _
    exact ⟨rfl,by simp [hempty]⟩
  · intro i t' ht
    cases ht
  · intro k m hm
    cases hm
  · simp [Purchase.blank,Setup.start,SharedState.init]
  · simp [Purchase.blank,Setup.start,SharedState.init]

/-- A tourist goes on after a failing call. -/
theorem Selling.walk (h : Selling u g s) {pc : TouristPc} (hb : buying pc = false) :
    Selling u g (s.walk i pc) :=
  h.elsewhere (i := i) (fun j hj => by simp [hj]) rfl rfl (by simpa using hb) (by simp) (by simp) rfl
    (.refl _)

theorem Selling.drop (h : Selling u g s) {pc : CashierPc} (hf : pc ∈ cashierFailures s.cashier.pc) :
    Selling u g (s.serve pc) := by
  have hnone : stageOf pc = none := by
    cases hp : s.cashier.pc <;> rw [hp] at hf <;> simp [cashierFailures] at hf
    all_goals rcases hf with rfl | rfl <;> rfl
  have hhand : cashierHand (s.serve pc) = [] := hand_empty hnone
  have hex : exchange (s.serve pc) = s.mqCashier.map CashierMsg.touristId := by
    simp [exchange,hhand]
  refine h.serve rfl rfl (fun _ hm => hm) ?_ ?_ ?_
  · intro k b hk
    rw [show (s.serve pc).cashier.pc = pc from rfl,hnone] at hk
    cases hk
  · rw [hex]
    exact (List.nodup_append.mp h.nodup).1
  · intro k hk
    rw [hex] at hk
    exact List.mem_append_left _ hk

theorem Selling.step (hown : ∀ r, ownPc r (s.worker r).pc = true) (h : Selling u g s)
    (hs : step s a = some s') : Selling u (notePurchase g s a) s' := by
  cases hv : a.visitor with
  | false =>
    have hsame := visitors_same hown hv hs
    have hg : notePurchase g s a = g := by
      cases a <;> first | rfl | cases hv
    rw [hg]
    by_cases ht : ∃ ms, a = .tick ms
    · obtain ⟨ms,rfl⟩ := ht
      simp only [Ropeway.step] at hs
      split at hs
      · rename_i hle
        cases hs
        exact h.same rfl rfl rfl hle ⟨rfl,rfl,rfl⟩
      · cases hs
    · have hf := others_figures hown hv (fun ms he => ht ⟨ms,he⟩) hs
      exact h.same hsame.tourists hsame.cashier hsame.mqCashier (figures_now hf).ge (.of_figures hf)
  | true =>
    cases a with
    | cashier => exact h.cashier hs
    | cashierFail pc =>
      obtain ⟨hf,rfl⟩ := cashier_fail hs
      exact h.drop hf
    | tourist i x => exact h.tourist hs
    | touristCont i =>
      simp only [Ropeway.step] at hs
      split at hs
      · obtain ⟨pc,hpc,rfl⟩ := Option.map_eq_some_iff.mp hs
        exact h.walk (cont_buying hpc)
      · cases hs
    | touristFail i =>
      obtain ⟨pc,hpc,rfl⟩ := Option.map_eq_some_iff.mp hs
      exact h.walk (failure_buying hpc)
    | _ => cases hv

theorem run_selling {rules : List (Env n)} (h : Runs rules u tr s) : Selling u (purchases tr) s := by
  refine run_invariant (fun tr s => Selling u (purchases tr) s) (start_selling u) ?_ h
  intro tr s a s' hown hi _ hs
  have hnew : purchases (tr ++ [(s,a)]) = notePurchase (purchases tr) s a := by simp [purchases]
  rw [hnew]
  exact hi.step hown hs

/-- However the tourists, the cashier and the closing interleave, every tourist gets its
own ticket. -/
theorem own_ticket (h : Runs [] u tr s) : OwnTicket u tr s := by
  have hi := run_selling h
  refine ⟨?_,?_,hi.once,hi.answered,?_,hi.total,hi.byTicket⟩
  · intro m q _ hm k hk
    obtain ⟨a,b,-,-,ht,-⟩ := Lib.msgrcv_split (by decide) hm
    rw [hi.keys k m hk] at ht
    exact response_ne_request k ht
  · intro i m q _ hm
    have hr := (hi.response hm).1
    refine ⟨by rw [hr.answers]; exact List.mem_singleton_self m,?_⟩
    intro k hk
    have hkey := hi.keys k m hk
    rw [hr.type] at hkey
    exact (response_inj hkey).symm
  · intro i t' ht
    obtain ⟨-,⟨t,c,h1,h2,h3,h4⟩,hcount⟩ := hi.bought i t' ht
    exact ⟨congrArg TouristData.ticketType (hi.badge i),⟨t,c,h1,h2,h3,h4⟩,hcount⟩

theorem own_ticket_sold : ∃ tr s, Runs [] (sample 2) tr s ∧
    (purchases tr 1).got.isSome = true ∧ OwnTicket (sample 2) tr s := by
  have hr : reaches [] (sample 2) (walks 0 1 ++ walks 1 1 ++ List.replicate 7 .cashier ++ walks 0 1)
      (fun tr _ => (purchases tr 1).got.isSome) = true := by decide +kernel
  obtain ⟨tr,s,h,ht⟩ := exists_run hr
  exact ⟨tr,s,h,ht,own_ticket h⟩

end Ropeway
