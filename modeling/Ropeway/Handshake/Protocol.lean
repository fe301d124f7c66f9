import Ropeway.WorkerEmergency

/-! The emergency protocol by itself. Two parties share a lock, a flag and a
mailbox; what else the workers do is one phase, `loop`. -/

namespace Ropeway.Handshake

/-- Where a party stands. The first row is the start of an emergency, with the way
back after a failed wait, the second the acknowledgement, the third the resume. -/
inductive Phase
  | loop | trying | stamping | setting | raising | calling | retreating
  | stopping | waiting | answering | clearing | cleared
  | offering | listening | closing | closed
  deriving DecidableEq, Repr

inductive Event
  | offered (r : Role) | taken (r : Role) | answered (r : Role)
  | heard (r : Role) | resumed (r : Role)
  deriving DecidableEq, Repr

/-- The protocol state with its history: `held` says which party is between its
successful try and its release of the lock, `opened` which one has raised the flag
and not yet offered to resume. -/
structure Protocol where
  lock : Nat
  stop : Bool
  mq : List WorkerMsg
  phase : Role → Phase
  signalled : Role → Bool
  pending : Role → Bool
  initiator : Role → Bool
  held : Role → Bool
  opened : Role → Bool
  log : List Event

open Function (update)

def Protocol.receive (v : Protocol) (r : Role) : Option (WorkerMsg × List WorkerMsg) :=
  Lib.msgrcv WorkerMsg.mtype v.mq r.dest

/-- What may go wrong in one turn: a party enters the acknowledgement without
having seen its signal, because it lost the try for the lock or read the flag; the
flag is raised while the other party is about to clear it; a signal comes from
outside; the wait of a party before raising the flag fails. -/
structure Faults where
  stray : Prop
  late : Prop
  outside : Prop
  fails : Role → Prop

inductive Move (f : Faults) (r : Role) (v : Protocol) : Protocol → Prop
  | rest : Move f r v v
  | alarm (h : v.phase r = .loop) : Move f r v { v with phase := update v.phase r .trying }
  | win (h : v.phase r = .trying) (free : 0 < v.lock) :
      Move f r v { v with
        lock := v.lock - 1
        phase := update v.phase r .stamping
        held := update v.held r true }
  | stamp (h : v.phase r = .stamping) :
      Move f r v { v with
        phase := update v.phase r .setting
        initiator := update v.initiator r true }
  | ready (h : v.phase r = .setting) : Move f r v { v with phase := update v.phase r .raising }
  | raise (h : v.phase r = .raising) (ok : v.phase r.other = .clearing → f.late) :
      Move f r v { v with
        stop := true
        phase := update v.phase r .calling
        opened := update v.opened r true }
  | call (h : v.phase r = .calling) :
      Move f r v { v with
        phase := update v.phase r .loop
        pending := update v.pending r.other true }
  | retreat (h : v.phase r = .retreating) :
      Move f r v { v with
        lock := v.lock + 1
        phase := update v.phase r .loop
        held := update v.held r false }
  | heed (h : v.phase r = .loop) (sig : v.signalled r = true) :
      Move f r v { v with
        phase := update v.phase r .stopping
        signalled := update v.signalled r false
        initiator := update v.initiator r false }
  | stray (ok : f.stray) (h : v.phase r = .loop ∨ v.phase r = .trying) :
      Move f r v { v with
        phase := update v.phase r .stopping
        initiator := update v.initiator r false }
  | mark (h : v.phase r = .stopping) :
      Move f r v { v with stop := true, phase := update v.phase r .waiting }
  | take {m : WorkerMsg} {q : List WorkerMsg} (h : v.phase r = .waiting)
      (got : v.receive r = some (m,q)) :
      Move f r v { v with
        mq := q
        phase := update v.phase r .answering
        log := v.log ++ [.taken r] }
  | answer (h : v.phase r = .answering) :
      Move f r v { v with
        mq := v.mq ++ [.to r.other .iAmReady]
        phase := update v.phase r .clearing
        log := v.log ++ [.answered r] }
  | clear (h : v.phase r = .clearing) :
      Move f r v { v with stop := false, phase := update v.phase r .cleared }
  | back (h : v.phase r = .cleared) : Move f r v { v with phase := update v.phase r .loop }
  | enter (h : v.phase r = .loop) (init : v.initiator r = true) :
      Move f r v { v with phase := update v.phase r .offering }
  | offer (h : v.phase r = .offering) :
      Move f r v { v with
        mq := v.mq ++ [.to r.other .readyToResume]
        phase := update v.phase r .listening
        opened := update v.opened r false
        log := v.log ++ [.offered r] }
  | hear {m : WorkerMsg} {q : List WorkerMsg} (h : v.phase r = .listening)
      (got : v.receive r = some (m,q)) :
      Move f r v { v with
        mq := q
        phase := update v.phase r .closing
        log := v.log ++ [.heard r] }
  | reopen (h : v.phase r = .closing) : Move f r v { v with stop := false }
  | release (h : v.phase r = .closing) :
      Move f r v { v with
        lock := v.lock + 1
        phase := update v.phase r .closed
        held := update v.held r false
        log := v.log ++ [.resumed r] }
  | finish (h : v.phase r = .closed) :
      Move f r v { v with
        phase := update v.phase r .loop
        initiator := update v.initiator r false }

theorem Move.of_eq {f : Faults} {r : Role} {v w w' : Protocol} (m : Move f r v w)
    (e : w = w') : Move f r v w' := e ▸ m

theorem Move.still {f : Faults} {r : Role} {v v' : Protocol} (e : v' = v) :
    Move f r v v' := e ▸ .rest

def Protocol.handled (v : Protocol) (r : Role) : Protocol :=
  { v with pending := update v.pending r false, signalled := update v.signalled r true }

/-- A party moves, a SIGUSR1 becomes pending for it from outside, its handler runs,
or a signal makes its wait before raising the flag fail. -/
inductive Turn (f : Faults) (v : Protocol) : Protocol → Prop
  | move {v' : Protocol} (r : Role) (h : Move f r v v') : Turn f v v'
  | signal (ok : f.outside) (r : Role) :
      Turn f v { v with pending := update v.pending r true }
  | handle (r : Role) (h : v.pending r = true) : Turn f v (v.handled r)
  | fail {w : Protocol} (r : Role) (ok : f.fails r) (h : v.phase r = .setting)
      (hw : w = v ∨ v.pending r = true ∧ w = v.handled r) :
      Turn f v { w with phase := update v.phase r .retreating }

def start : Protocol where
  lock := 1
  stop := false
  mq := []
  phase := fun _ => .loop
  signalled := fun _ => false
  pending := fun _ => false
  initiator := fun _ => false
  held := fun _ => false
  opened := fun _ => false
  log := []

end Ropeway.Handshake
