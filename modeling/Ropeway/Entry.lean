import Ropeway.Generator
import Ropeway.Sales
import Ropeway.Holdings

/-! The way into the station: a tourist takes an entry gate and then, all at once, a slot
of `SEM_LOWER_STATION` for itself and each of its kids. -/

namespace Ropeway
open Function (update)
variable {n : Nat} {s s' : Sys n} {u : Setup n} {tr : List (Sys n × Act n)} {i : Fin n}

/-- The tourist waits for more slots than the station has. -/
def neverEnters (u : Setup n) (t : Tourist) : Prop :=
  t.pc = .stationWait ∧ u.sem .lowerStation < t.data.stationSlots

instance (u : Setup n) (t : Tourist) : Decidable (neverEnters u t) :=
  inferInstanceAs (Decidable (_ ∧ _))

/-- The entry is not locked: with the station empty everybody who waits for it can go in,
and the gates are not all held by tourists that never will. -/
structure EntryOpen (u : Setup n) (s : Sys n) : Prop where
  proceed : (∀ i, holdsStation (s.tourists i).pc = false) → ∀ i, (s.tourists i).pc = .stationWait →
    (s.tourists i).data.stationSlots ≤ s.sem .lowerStation
  gates : (Finset.univ.filter (fun i => touristTakes (s.tourists i) .entryGates = 1 ∧
    neverEnters u (s.tourists i))).card < entryGates

/-- The simulation the configuration and the random numbers give. -/
structure Simulates (cfg : Config) (f : Nat → Nat) (u : Setup cfg.totalTourists.toNat) : Prop where
  config : u.cfg = cfg
  args : ∀ i, (spawned cfg f)[i.val]?.bind touristParseArgs = some (u.args i)

/-- Whatever the random numbers and the schedule, the entry is not locked. -/
def NeverLocked (cfg : Config) : Prop :=
  ∀ (f : Nat → Nat) (u : Setup cfg.totalTourists.toNat), Simulates cfg f u →
    ∀ tr s, Runs [] u tr s → EntryOpen u s

theorem slots_of_run (h : Runs [] u tr s) (i : Fin n) :
    (s.tourists i).data.stationSlots = 1 + (u.args i).kidCount :=
  congrArg TouristData.stationSlots ((run_selling h).badge i)

/-- An empty station has all its slots. -/
theorem empty_station (h : Runs [] u tr s) (hempty : ∀ i, holdsStation (s.tourists i).pc = false) :
    s.sem .lowerStation = u.sem .lowerStation := by
  have ht := (run_lending h).total .lowerStation List.mem_cons_self
  have hzero : ∀ p, takes s p .lowerStation = 0 := by
    intro p
    cases p with
    | worker r => rfl
    | cashier => cases hp : s.cashier.pc <;> simp [takes,hp,cashierTakes]
    | tourist i => simp [takes,touristTakes,lentAt,hempty i]
  rw [Finset.sum_eq_zero fun p _ => hzero p] at ht
  exact ht

theorem spawned_kids {cfg : Config} {f : Nat → Nat} {u : Setup cfg.totalTourists.toNat}
    (h : Simulates cfg f u) (i : Fin cfg.totalTourists.toNat) :
    1 + (u.args i).kidCount ≤ largestGroup cfg := by
  obtain ⟨t,ht,hp⟩ := Option.bind_eq_some_iff.mp (h.args i)
  have hsound := generated_sound cfg _ f t (List.mem_of_getElem? ht)
  rw [(parsed_args hp).1]
  exact hsound.group

theorem open_of_room {cfg : Config} (hroom : largestGroup cfg ≤ toUShort cfg.stationCapacity) :
    NeverLocked cfg := by
  intro f u hu tr s h
  have hcap : u.sem .lowerStation = toUShort cfg.stationCapacity := by
    rw [sem_create_values u.created,hu.config]
    rfl
  have hslots : ∀ i, (s.tourists i).data.stationSlots ≤ u.sem .lowerStation := by
    intro i
    rw [slots_of_run h i,hcap]
    exact (spawned_kids hu i).trans hroom
  refine ⟨?_,?_⟩
  · intro hempty i _
    rw [empty_station h hempty]
    exact hslots i
  · have hnone : Finset.univ.filter (fun i => touristTakes (s.tourists i) .entryGates = 1 ∧
        neverEnters u (s.tourists i)) = ∅ := by
      apply Finset.filter_eq_empty_iff.mpr
      rintro i _ ⟨-,-,hlt⟩
      exact absurd (hslots i) (by omega)
    rw [hnone,Finset.card_empty]
    exact (by decide : 0 < entryGates)

def Reached (u : Setup n) (s : Sys n) : Prop := ∃ tr, Runs [] u tr s

theorem Reached.step {a : Act n} (h : Reached u s) (hs : step s a = some s') : Reached u s' := by
  obtain ⟨tr,hr⟩ := h
  exact ⟨_,hr.snoc rfl hs⟩

/-- One tourist has come to the given place with its ticket, with the cashier where it is
and the semaphores as they are; nobody else has started. -/
structure ComeTo (u : Setup n) (i : Fin n) (p : TouristPc) (c : CashierPc) (f : Sem → Nat)
    (s : Sys n) : Prop where
  reached : Reached u s
  place : (s.tourists i).pc = p
  badge : (s.tourists i).data.badge = ((u.args i).data (touristId i)).badge
  rides : (s.tourists i).data.ridesCompleted = 0
  read : p = .closingPost → (s.tourists i).closing = false
  others : ∀ j, j ≠ i → (s.tourists j).pc = .buySend
  running : s.shm.running = true
  closing : s.shm.closing = false
  sem : s.sem = f
  cashier : s.cashier.pc = c
  request : stageOf c ≠ none → s.cashier.request = u.request i
  room : s.mqCashierMax = u.mqCashierMax

variable {p q : TouristPc} {c d : CashierPc} {f g : Sem → Nat}

/-- The tourist goes on, and has read no closing flag. -/
theorem ComeTo.walk {t : Sys n} {x : Nat} (h : ComeTo u i p c f s)
    (hs : touristMain s i x = some (t.walk i q)) (ht : t.tourists = s.tourists)
    (hr : t.shm.running = s.shm.running) (hc : t.shm.closing = s.shm.closing)
    (hg : t.sem = g) (hb : t.cashier = s.cashier) (hm : t.mqCashierMax = s.mqCashierMax)
    (hq : q ≠ .closingPost) : ∃ s', ComeTo u i q c g s' := by
  refine ⟨_,h.reached.step (a := .tourist i x) hs,by simp,?_,?_,fun he => absurd he hq,?_,
    hr.trans h.running,hc.trans h.closing,hg,(congrArg Cashier.pc hb).trans h.cashier,?_,
    hm.trans h.room⟩
  · simp only [Sys.walk_tourists,Function.update_self,ht]
    exact h.badge
  · simp only [Sys.walk_tourists,Function.update_self,ht]
    exact h.rides
  · intro j hj
    simp only [Sys.walk_tourists,Function.update_of_ne hj,ht]
    exact h.others j hj
  · intro hne
    exact (congrArg Cashier.request hb).trans (h.request hne)

theorem ComeTo.wait {x : Nat} {k : Sem} (h : ComeTo u i p c f s)
    (hs : touristMain s i x = (semWait s k 1).map (·.walk i q)) (hk : 1 ≤ f k)
    (hq : q ≠ .closingPost) : ∃ s', ComeTo u i q c (update f k (f k - 1)) s' := by
  have hw : semWait s k 1 = some { s with sem := update f k (f k - 1) } := by
    unfold semWait
    rw [h.sem,if_pos hk]
  rw [hw] at hs
  exact h.walk hs rfl rfl rfl rfl rfl rfl hq

theorem ComeTo.post {x : Nat} {k : Sem} (h : ComeTo u i p c f s)
    (hs : touristMain s i x = some ((semPost s k 1).walk i q)) (hq : q ≠ .closingPost) :
    ∃ s', ComeTo u i q c (update f k (f k + 1)) s' := by
  have hg : (semPost s k 1).sem = update f k (f k + 1) := by
    rw [← h.sem]
    rfl
  exact h.walk hs rfl rfl rfl hg rfl rfl hq

/-- `tourist_is_station_closing` reads the flag, which is not set. -/
theorem ComeTo.look (h : ComeTo u i .closingRead c f s) : ∃ s', ComeTo u i .closingPost c f s' := by
  have hs : touristMain s i 0 = some (s.setTourist i { s.tourists i with
      pc := .closingPost, closing := s.shm.closing }) := by
    simp only [touristMain,h.place]
  refine ⟨_,h.reached.step (a := .tourist i 0) hs,by simp,by simpa using h.badge,
    by simpa using h.rides,fun _ => by simpa using h.closing,?_,h.running,h.closing,h.sem,h.cashier,
    h.request,h.room⟩
  intro j hj
  simpa [hj] using h.others j hj

theorem restored (f : Sem → Nat) (k : Sem) (h : 1 ≤ f k) :
    update (update f k (f k - 1)) k (update f k (f k - 1) k + 1) = f := by
  rw [Function.update_self,Nat.sub_add_cancel h,Function.update_idem,Function.update_eq_self]

theorem come_record (h : ComeTo u i .recordWait c f s) (hk : 1 ≤ f .stats) :
    ∃ s', ComeTo u i .loopTop c f s' := by
  obtain ⟨s₁,h₁⟩ := h.wait (x := 0) (q := .recordEntry) (by simp only [touristMain,h.place]) hk
    (by decide)
  have hrec : touristMain s₁ i 0 =
      some ({ s₁ with shm := s₁.shm.recordEntry (s₁.tourists i).data }.walk i .recordPost) := by
    simp only [touristMain,h₁.place]
  have hshm : (s₁.shm.recordEntry (s₁.tourists i).data).running = s₁.shm.running ∧
      (s₁.shm.recordEntry (s₁.tourists i).data).closing = s₁.shm.closing := by
    unfold SharedState.recordEntry
    split <;> exact ⟨rfl,rfl⟩
  obtain ⟨s₂,h₂⟩ := h₁.walk hrec rfl hshm.1 hshm.2 h₁.sem rfl rfl (by decide)
  obtain ⟨s₃,h₃⟩ := h₂.post (x := 0) (k := .stats) (q := .loopTop)
    (by simp only [touristMain,h₂.place]) (by decide)
  rw [restored f .stats hk] at h₃
  exact ⟨s₃,h₃⟩

theorem come_station (h : ComeTo u i .loopTop c f s) (hticket : (u.args i).ticketType = .single)
    (hk : 1 ≤ f .state) (hgate : 1 ≤ f .entryGates) : ∃ g s', ComeTo u i .stationWait c g s' := by
  have hsingle : (s.tourists i).data.ticketType = .single :=
    (congrArg TouristData.ticketType h.badge).trans hticket
  have htop : touristMain s i 0 = some (s.walk i .closingWait) := by
    simp [touristMain,h.place,h.running,touristIsTicketValid,hsingle,h.rides]
  obtain ⟨s₁,h₁⟩ := h.walk htop rfl rfl rfl h.sem rfl rfl (by decide)
  obtain ⟨s₂,h₂⟩ := h₁.wait (x := 0) (k := .state) (q := .closingRead)
    (by simp only [touristMain,h₁.place]) hk (by decide)
  obtain ⟨s₃,h₃⟩ := h₂.look
  have hpost : touristMain s₃ i 0 = some ((semPost s₃ .state 1).walk i
      (if (s₃.tourists i).data.isVip then .stationWait else .gateWait)) := by
    simp [touristMain,h₃.place,h₃.read rfl]
  by_cases hvip : (s₃.tourists i).data.isVip = true
  · rw [if_pos hvip] at hpost
    obtain ⟨s₄,h₄⟩ := h₃.post hpost (by decide)
    exact ⟨_,s₄,h₄⟩
  · rw [if_neg hvip] at hpost
    obtain ⟨s₄,h₄⟩ := h₃.post hpost (by decide)
    rw [restored f .state hk] at h₄
    obtain ⟨s₅,h₅⟩ := h₄.wait (x := 0) (k := .entryGates) (q := .stationWait)
      (by simp only [touristMain,h₄.place]) hgate (by decide)
    exact ⟨_,s₅,h₅⟩

structure AtCounter (u : Setup n) (i : Fin n) (p : TouristPc) (c : CashierPc) (f : Sem → Nat)
    (ms : List CashierMsg) (s : Sys n) : Prop extends ComeTo u i p c f s where
  queue : s.mqCashier = ms

theorem AtCounter.serve {ms ms' : List CashierMsg} (h : AtCounter u i p c f ms s)
    (hs : cashierMain s = some s') (ht : s'.tourists = s.tourists)
    (hr : s'.shm.running = s.shm.running) (hc : s'.shm.closing = s.shm.closing) (hg : s'.sem = g)
    (hd : s'.cashier.pc = d) (hb : stageOf d ≠ none → s'.cashier.request = u.request i)
    (hm : s'.mqCashierMax = s.mqCashierMax) (hq : s'.mqCashier = ms') :
    ∃ s', AtCounter u i p d g ms' s' := by
  refine ⟨s',⟨h.reached.step (a := .cashier) hs,by rw [ht]; exact h.place,by rw [ht]; exact h.badge,
    by rw [ht]; exact h.rides,fun hp => by rw [ht]; exact h.read hp,by rw [ht]; exact h.others,
    hr.trans h.running,hc.trans h.closing,hg,hd,hb,hm.trans h.room⟩,hq⟩

theorem counter_served (h : AtCounter u i p .top f [u.request i] s) (hk : 1 ≤ f .stats) :
    ∃ v s', AtCounter u i p .top f [{ u.request i with
      mtype := responseType (touristId i), ticketValidUntil := v }] s' := by
  have htop : cashierMain s = some (s.serve .receive) := by
    simp [cashierMain,h.cashier,h.running,h.closing]
  obtain ⟨s₁,h₁⟩ := h.serve (d := .receive) htop rfl rfl rfl h.sem rfl (by simp [stageOf]) rfl h.queue
  have hrcv : Lib.msgrcv CashierMsg.mtype s₁.mqCashier msgCashierRequest = some (u.request i,[]) := by
    rw [h₁.queue]
    rfl
  have htake : cashierMain s₁ = some { s₁ with
      mqCashier := [], cashier := { s₁.cashier with pc := .recheck, request := u.request i } } := by
    simp [cashierMain,h₁.cashier,hrcv]
  obtain ⟨s₂,h₂⟩ : ∃ s', AtCounter u i p .recheck f [] s' :=
    h₁.serve htake rfl rfl rfl h₁.sem rfl (fun _ => rfl) rfl rfl
  have hcheck : cashierMain s₂ = some { s₂ with cashier := { s₂.cashier with
      pc := .statsWait
      validUntil := calculateTicketValidity s₂.shm s₂.cashier.request.ticketType } } := by
    simp [cashierMain,h₂.cashier,h₂.closing]
  obtain ⟨s₃,h₃⟩ := h₂.serve (d := .statsWait) hcheck rfl rfl rfl h₂.sem rfl
    (fun _ => h₂.request (by simp [stageOf])) rfl h₂.queue
  have hwait : cashierMain s₃ =
      some ({ s₃ with sem := update f .stats (f .stats - 1) }.serve .stats) := by
    simp [cashierMain,h₃.cashier,semWait,h₃.sem,hk]
  obtain ⟨s₄,h₄⟩ : ∃ s', AtCounter u i p .stats (update f .stats (f .stats - 1)) [] s' :=
    h₃.serve hwait rfl rfl rfl rfl rfl (fun _ => h₃.request (by simp [stageOf])) rfl h₃.queue
  have hsell : cashierMain s₄ =
      some ({ s₄ with shm := s₄.shm.sell s₄.cashier.request }.serve .statsPost) := by
    simp only [cashierMain,h₄.cashier]
  obtain ⟨s₅,h₅⟩ := h₄.serve (d := .statsPost) hsell rfl rfl rfl h₄.sem rfl
    (fun _ => h₄.request (by simp [stageOf])) rfl h₄.queue
  have hpost : cashierMain s₅ = some ((semPost s₅ .stats 1).serve .send) := by
    simp only [cashierMain,h₅.cashier]
  have hsem : ((semPost s₅ .stats 1).serve .send).sem = f := by
    rw [← restored f .stats hk,← h₅.sem]
    rfl
  obtain ⟨s₆,h₆⟩ := h₅.serve (d := .send) hpost rfl rfl rfl hsem rfl
    (fun _ => h₅.request (by simp [stageOf])) rfl h₅.queue
  have hlt : s₆.mqCashier.length < s₆.mqCashierMax := by
    rw [h₆.queue,h₆.room]
    exact u.holdsOne
  have hsend : cashierMain s₆ = some ({ s₆ with mqCashier := s₆.mqCashier ++ [s₆.cashier.ticket] }.serve
      .top) := by
    simp only [cashierMain,h₆.cashier,sendCashier,if_pos hlt]
    rfl
  have hqueue : s₆.mqCashier ++ [s₆.cashier.ticket] = [{ u.request i with
      mtype := responseType (touristId i), ticketValidUntil := s₆.cashier.validUntil }] := by
    rw [h₆.queue,Cashier.ticket,h₆.request (by simp [stageOf])]
    rfl
  exact ⟨_,h₆.serve hsend rfl rfl rfl h₆.sem rfl (by simp [stageOf]) rfl hqueue⟩

theorem come_bought (u : Setup n) (i : Fin n) : ∃ s, ComeTo u i .recordWait .top u.sem s := by
  have hstats : 1 ≤ u.sem .stats := by
    rw [sem_create_values u.created]
    exact le_rfl
  have hask : touristMain u.start i 0 =
      some ({ u.start with mqCashier := [u.request i] }.walk i .buyReceive) := by
    have hlt : u.start.mqCashier.length < u.start.mqCashierMax := u.holdsOne
    have hp : (u.start.tourists i).pc = .buySend := rfl
    simp only [touristMain,hp,sendCashier,if_pos hlt]
    rfl
  have h₁ : AtCounter u i .buyReceive .top u.sem [u.request i]
      ({ u.start with mqCashier := [u.request i] }.walk i .buyReceive) := by
    refine ⟨⟨Reached.step (a := .tourist i 0) ⟨[],.nil⟩ hask,by simp,?_,?_,?_,?_,rfl,rfl,rfl,rfl,?_,rfl⟩,rfl⟩
    · simp only [Sys.walk_tourists,Function.update_self]
      rfl
    · simp only [Sys.walk_tourists,Function.update_self]
      rfl
    · intro he
      cases he
    · intro j hj
      simp only [Sys.walk_tourists,Function.update_of_ne hj]
      rfl
    · intro hne
      exact absurd rfl hne
  obtain ⟨v,s₂,h₂⟩ := counter_served h₁ hstats
  have hid : (s₂.tourists i).data.id = touristId i := congrArg TouristData.id h₂.badge
  have htype : (s₂.tourists i).data.ticketType = (u.args i).ticketType :=
    congrArg TouristData.ticketType h₂.badge
  have hrcv : receiveTicket s₂ (s₂.tourists i).data = some ({ u.request i with
      mtype := responseType (touristId i), ticketValidUntil := v },[]) := by
    unfold receiveTicket
    rw [h₂.queue,hid,Lib.msgrcv_type (by unfold responseType msgCashierResponseBase; omega)]
    simp [Lib.takeFirst]
  have hget : touristMain s₂ i 0 = some ({ s₂ with mqCashier := [] }.setTourist i { s₂.tourists i with
      pc := .recordWait
      data := { (s₂.tourists i).data with
        ticketType := (u.args i).ticketType, ticketValidUntil := v } }) := by
    simp only [touristMain,h₂.place,hrcv]
    rfl
  refine ⟨_,h₂.reached.step (a := .tourist i 0) hget,by simp,?_,by simpa using h₂.rides,?_,?_,
    h₂.running,h₂.closing,h₂.sem,h₂.cashier,h₂.request,h₂.room⟩
  · rw [← h₂.badge]
    simp [TouristData.badge,htype]
  · intro he
    cases he
  · intro j hj
    simpa [hj] using h₂.others j hj

/-- A tourist with a single ticket gets as far as the station on its own. -/
theorem come_alone (u : Setup n) (i : Fin n) (hticket : (u.args i).ticketType = .single) :
    ∃ c g s, ComeTo u i .stationWait c g s := by
  have hsem := sem_create_values u.created
  obtain ⟨s₁,h₁⟩ := come_bought u i
  obtain ⟨s₂,h₂⟩ := come_record h₁ (by rw [hsem]; exact le_rfl)
  obtain ⟨g,s₃,h₃⟩ := come_station h₂ hticket (by rw [hsem]; exact le_rfl)
    (by rw [hsem]; exact (by decide : 1 ≤ entryGates))
  exact ⟨_,g,s₃,h₃⟩

/-- Every stream of random numbers gives a simulation. -/
theorem exists_simulation {cfg : Config} (hv : configValidate cfg = true)
    (hc : ipcSemCreate cfg = some (semValues cfg)) (f : Nat → Nat) :
    ∃ u : Setup cfg.totalTourists.toNat, Simulates cfg f u := by
  have hargs : ∀ i : Fin cfg.totalTourists.toNat, ∃ a,
      (spawned cfg f)[i.val]?.bind touristParseArgs = some a := by
    intro i
    have hlt : i.val < (spawned cfg f).length := by
      rw [spawned,generated_length]
      exact i.isLt
    have hsound := generated_sound cfg _ f _ (List.getElem_mem hlt)
    obtain ⟨a,ha⟩ := Option.isSome_iff_exists.mp hsound.accepted
    exact ⟨a,by rw [List.getElem?_eq_getElem hlt]; exact ha⟩
  choose args hargs using hargs
  exact ⟨⟨cfg,hv,semValues cfg,hc,1,Nat.one_pos,args⟩,rfl,hargs⟩

/-- Otherwise a first tourist with the largest group waits for ever in an empty station. -/
theorem locked_of_small {cfg : Config} (hv : configValidate cfg = true)
    (hc : ipcSemCreate cfg = some (semValues cfg))
    (hsmall : toUShort cfg.stationCapacity < largestGroup cfg) : ¬NeverLocked cfg := by
  intro hopen
  obtain ⟨u,hu⟩ := exists_simulation hv hc largestFirst
  have hpos : 0 < cfg.totalTourists.toNat := by
    have htourists := (accepted hv).totalTourists
    omega
  obtain ⟨hgroup,hticket⟩ := largest_first cfg
  have hfirst : (spawned cfg largestFirst)[0]? = some (nextTourist cfg largestFirst).1 := by
    obtain ⟨k,hk⟩ := Nat.exists_eq_succ_of_ne_zero hpos.ne'
    unfold spawned
    rw [hk]
    rfl
  have hspec : touristParseArgs (nextTourist cfg largestFirst).1 = some (u.args ⟨0,hpos⟩) := by
    have ha := hu.args ⟨0,hpos⟩
    rw [hfirst] at ha
    exact ha
  obtain ⟨hkids,hkind⟩ := parsed_args hspec
  obtain ⟨c,g,s,hcome⟩ := come_alone u ⟨0,hpos⟩ (hkind.trans hticket)
  obtain ⟨tr,hr⟩ := hcome.reached
  have hempty : ∀ j, holdsStation (s.tourists j).pc = false := by
    intro j
    by_cases hj : j = ⟨0,hpos⟩
    · rw [hj,hcome.place]
      rfl
    · rw [hcome.others j hj]
      rfl
  have hle := (hopen largestFirst u hu tr s hr).proceed hempty ⟨0,hpos⟩ hcome.place
  rw [empty_station hr hempty,slots_of_run hr,hkids,hgroup,sem_create_values u.created,hu.config] at hle
  exact absurd hle (Nat.not_le.mpr hsmall)

/-- An accepted configuration keeps the entry open if and only if the station has room for
the largest group its percentages admit. -/
theorem never_locked_iff (cfg : Config) (hv : configValidate cfg = true)
    (hc : (ipcSemCreate cfg).isSome = true) :
    NeverLocked cfg ↔ largestGroup cfg ≤ toUShort cfg.stationCapacity := by
  obtain ⟨v,hcreated⟩ := Option.isSome_iff_exists.mp hc
  rw [sem_create_values hcreated] at hcreated
  refine ⟨?_,open_of_room⟩
  intro hopen
  by_contra hn
  exact locked_of_small hv hcreated (Nat.not_le.mp hn) hopen

theorem never_locked_default : configValidate configDefaults = true ∧
    (ipcSemCreate configDefaults).isSome = true ∧ NeverLocked configDefaults := by
  have hv : configValidate configDefaults = true := by decide
  have hc : (ipcSemCreate configDefaults).isSome = true := by decide
  exact ⟨hv,hc,(never_locked_iff configDefaults hv hc).mpr (by decide)⟩

/-- Two slots are accepted, and a family of three never gets them. -/
theorem locked_two_slots : configValidate { configDefaults with stationCapacity := 2 } = true ∧
    (ipcSemCreate { configDefaults with stationCapacity := 2 }).isSome = true ∧
      ¬NeverLocked { configDefaults with stationCapacity := 2 } := by
  have hv : configValidate { configDefaults with stationCapacity := 2 } = true := by decide
  have hc : (ipcSemCreate { configDefaults with stationCapacity := 2 }).isSome = true := by decide
  obtain ⟨v,hcreated⟩ := Option.isSome_iff_exists.mp hc
  rw [sem_create_values hcreated] at hcreated
  exact ⟨hv,hc,locked_of_small hv hcreated (by decide)⟩

end Ropeway
