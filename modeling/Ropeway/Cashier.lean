import Ropeway.State

/-! `processes/cashier.c`: the sale loop. -/

namespace Ropeway

variable {n : Nat}

def calculateTicketValidity (m : SharedState) : Option TicketType → Int
  | some .single => m.simEndMinutes
  | some .timeT1 => Lib.toInt32 (m.simMinutes + m.ticketT1Duration)
  | some .timeT2 => Lib.toInt32 (m.simMinutes + m.ticketT2Duration)
  | some .timeT3 => Lib.toInt32 (m.simMinutes + m.ticketT3Duration)
  | some .daily => m.simEndMinutes
  | none => m.simEndMinutes

/-- The statistics update of a sale: parent and kids are separate tourists. -/
def SharedState.sell (m : SharedState) (q : CashierMsg) : SharedState :=
  { m with
    totalTourists := m.totalTourists + (1 + q.kidCount)
    touristsByTicket := match q.ticketType with
      | some t => Function.update m.touristsByTicket t (m.touristsByTicket t + (1 + q.kidCount))
      | none => m.touristsByTicket }

/-- `msgsnd` on `MQ_CASHIER`; `none` while the queue is full. -/
def sendCashier (s : Sys n) (m : CashierMsg) : Option (Sys n) :=
  if s.mqCashier.length < s.mqCashierMax then some { s with mqCashier := s.mqCashier ++ [m] }
  else none

theorem send_cashier_some {s t : Sys n} {m : CashierMsg} (h : sendCashier s m = some t) :
    s.mqCashier.length < s.mqCashierMax ∧ t = { s with mqCashier := s.mqCashier ++ [m] } := by
  unfold sendCashier at h
  split at h
  · rename_i hroom
    cases h
    exact ⟨hroom,rfl⟩
  · cases h

/-- A message that is followed by `f`. -/
theorem send_cashier_map {s s' : Sys n} {m : CashierMsg} {f : Sys n → Sys n}
    (h : (sendCashier s m).map f = some s') :
    s.mqCashier.length < s.mqCashierMax ∧ s' = f { s with mqCashier := s.mqCashier ++ [m] } := by
  obtain ⟨t,hw,rfl⟩ := Option.map_eq_some_iff.mp h
  obtain ⟨hroom,rfl⟩ := send_cashier_some hw
  exact ⟨hroom,rfl⟩

def responseType (id : Nat) : Nat := msgCashierResponseBase + id

def cashierMain (s : Sys n) : Option (Sys n) :=
  match s.cashier.pc with
  | .top =>
    if !s.shm.running then some (s.serve .exited)
    else if s.shm.closing then some (s.serve .exited)
    else some (s.serve .receive)
  | .receive =>
    (Lib.msgrcv CashierMsg.mtype s.mqCashier msgCashierRequest).map (fun (m,q) =>
      { s with mqCashier := q, cashier := { s.cashier with pc := .recheck, request := m } })
  | .recheck =>
    if s.shm.closing then some (s.serve .refuse)
    else some { s with cashier := { s.cashier with
      pc := .statsWait
      validUntil := calculateTicketValidity s.shm s.cashier.request.ticketType } }
  | .statsWait => (semWait s .stats 1).map (·.serve .stats)
  | .stats => some ({ s with shm := s.shm.sell s.cashier.request }.serve .statsPost)
  | .statsPost => some ((semPost s .stats 1).serve .send)
  | .send =>
    (sendCashier s { s.cashier.request with
      mtype := responseType s.cashier.request.touristId
      ticketValidUntil := s.cashier.validUntil }).map (·.serve .top)
  | .refuse =>
    (sendCashier s { s.cashier.request with
      mtype := responseType s.cashier.request.touristId
      ticketType := none }).map (·.serve .top)
  | .exited => none

/-- Where a failing call leaves the cashier. A handler makes `msgrcv` and `msgsnd` fail
with EINTR and the loop goes on; once the queue has been removed it ends. The wait for
`SEM_STATS` fails when the set has been removed. At the top SIGTERM has cleared
`g_running`. -/
def cashierFailures : CashierPc → List CashierPc
  | .top => [.exited]
  | .receive | .send | .refuse => [.top, .exited]
  | .statsWait => [.top]
  | _ => []

end Ropeway
