import StateMachine.Machine

/-!
Sessions: a machine together with what it shares with the rest of the world, and the trace of all that
happens to it.
-/
namespace StateMachine

/-- One step in the life of a machine. The trace of a run accounts for every change of the machine: its
state and journal change by `applied`, its depth by `applied` and `settled`, its data by `wrote`, and what
is pending by `accepted`, `taken` and `dropped`. -/
inductive Event (D P : Type) where
  | accepted (submission : Submission P)
  | deferred (event : EventId) (waiting : Nat)
  | taken
  | dispatched (submission : Submission P) (depth : Nat)
  | refused (failure : Failure)
  | applied (transition : Transition)
  | actionBegan (event : EventId) (payload : P) (state : StateId)
  | actionEnded (event : EventId) (result : Except Cause Unit)
  | entryBegan (state : StateId) (snapshot : D)
  | entryEnded (state : StateId) (result : Except Cause Unit)
  | wrote (update : D → D)
  | raised (token : Token)
  | settled (event : EventId) (outcome : Except Failure Unit)
  | dropped (count : Nat)

/-- The clock shows an instant at every reading. -/
structure World (D P σ : Type) where
  clock : Nat → Instant
  readings : Nat
  flags : Flags
  shared : σ
  trace : List (Event D P)

structure Session (D P σ : Type) where
  machine : Machine D P σ
  world : World D P σ

namespace Session

variable {D P σ : Type}

def now (session : Session D P σ) : Instant := session.world.clock session.world.readings

def tick (session : Session D P σ) : Session D P σ :=
  { session with world := { session.world with readings := session.world.readings + 1 } }

def emit (session : Session D P σ) (event : Event D P) : Session D P σ :=
  { session with world := { session.world with trace := session.world.trace ++ [event] } }

def share (session : Session D P σ) (update : σ → σ) : Session D P σ :=
  { session with world := { session.world with shared := update session.world.shared } }

def cancel (session : Session D P σ) (token : Token) : Session D P σ :=
  { session with world := { session.world with flags := session.world.flags.cancel token } }.emit (.raised token)

def write (session : Session D P σ) (update : D → D) : Session D P σ :=
  { session with machine := { session.machine with data := update session.machine.data } }.emit (.wrote update)

def view (session : Session D P σ) (token : Token) : View where
  table := session.machine.table
  state := session.machine.current
  depth := session.machine.depth
  token := token
  cancelled := session.world.flags.isCancelled token
  now := session.now

def enqueue (session : Session D P σ) (submission : Submission P) : Session D P σ :=
  { session with machine := { session.machine with
      pending := session.machine.pending ++ [submission] } }.emit (.accepted submission)

/-- The submissions but for the first, which has been taken. -/
def dequeue (session : Session D P σ) (rest : List (Submission P)) : Session D P σ :=
  { session with machine := { session.machine with pending := rest } }.emit .taken

def dropPending (session : Session D P σ) : Session D P σ :=
  match session.machine.pending with
  | [] => session
  | pending => { session with machine := { session.machine with pending := [] } }.emit (.dropped pending.length)

def setDraining (session : Session D P σ) (draining : Bool) : Session D P σ :=
  { session with machine := { session.machine with draining } }

/-- The machine goes into a state, and into the journal if that is kept. -/
def apply (session : Session D P σ) (event : EventId) (target : StateId) (time : Instant) :
    Session D P σ :=
  let machine := session.machine
  let transition : Transition := ⟨machine.current, target, event, machine.depth, time⟩
  let journal := if machine.policy.recordHistory then machine.journal.record transition else machine.journal
  { session with machine := { machine with
      current := target, journal, depth := machine.depth + 1 } }.emit (.applied transition)

def settle (session : Session D P σ) (event : EventId) (outcome : Except Failure Unit) : Session D P σ :=
  { session with machine := { session.machine with
      depth := session.machine.depth - 1 } }.emit (.settled event outcome)

end Session

end StateMachine
