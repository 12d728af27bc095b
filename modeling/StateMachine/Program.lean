import StateMachine.Key
import StateMachine.Token

/-!
Programs of callbacks. A callback runs to its end, and on the way it may look at the machine, trigger
events on it and cancel tokens. Only the action of an event has access to the data of the machine.
-/
namespace StateMachine

inductive Role where
  | action
  | entry
  deriving DecidableEq

/-- What a callback sees of the machine it runs on. The token is the one that its own triggers carry. -/
structure View where
  table : Table
  state : StateId
  depth : Nat
  token : Token
  cancelled : Bool
  now : Instant

namespace View

def stateName (view : View) : String := view.table.stateLabel view.state

def expired (view : View) : Bool := view.token.isExpired view.now

def canTrigger (view : View) (key : EventKey) : Bool := view.table.canTrigger view.state key

end View

/-- A callback as a tree of steps, each of which goes on with what it learns. `D` is the data of the
machine, `P` the payload of events, and `σ` whatever callbacks share apart from the machine. -/
inductive Program (D P σ : Type) : Role → Type where
  | done {role : Role} (result : Except Cause Unit) : Program D P σ role
  | look {role : Role} (next : View → Program D P σ role) : Program D P σ role
  | share {role : Role} (update : σ → σ) (next : σ → Program D P σ role) : Program D P σ role
  | read (next : D → Program D P σ .action) : Program D P σ .action
  | write (update : D → D) (next : Program D P σ .action) : Program D P σ .action
  | cancel {role : Role} (token : Token) (next : Program D P σ role) : Program D P σ role
  | trigger {role : Role} (key : EventKey) (payload : P) (next : Except Failure Unit → Program D P σ role) :
    Program D P σ role

/-- An action is run with the payload of its event. -/
abbrev Action (D P σ : Type) := P → Program D P σ .action

/-- An entry is run with the data as it is when the state is entered. -/
abbrev Entry (D P σ : Type) := D → Program D P σ .entry

end StateMachine
