import StateMachine.Callbacks
import StateMachine.Journal
import StateMachine.Policy
import StateMachine.Program
import StateMachine.Table.Graph
import StateMachine.Text.Quoted

namespace StateMachine

/-- A trigger that has been issued: its event, payload and token. -/
structure Submission (P : Type) where
  event : EventId
  payload : P
  token : Token

/-- The depth is the number of triggers whose callbacks are running. Submissions wait in `pending` while
the machine is draining them. -/
structure Machine (D P σ : Type) where
  table : Table
  current : StateId
  data : D
  callbacks : Callbacks (Action D P σ) (Entry D P σ)
  policy : Policy
  journal : Journal
  depth : Nat
  pending : List (Submission P)
  draining : Bool

namespace Machine

variable {D P σ : Type}

def new (table : Table) (data : D) (policy : Policy) : Machine D P σ where
  table := table
  current := .initial
  data := data
  callbacks := .empty table.events.length table.states.length
  policy := policy
  journal := {}
  depth := 0
  pending := []
  draining := false

/-- Sets or clears the action of an event. -/
def setAction (machine : Machine D P σ) (key : EventKey) (action : Option (Action D P σ)) :
    Except Failure (Machine D P σ) := do
  let event ← machine.table.findEvent key
  return { machine with callbacks := (machine.callbacks.putAction event action).1 }

def setEntry (machine : Machine D P σ) (key : StateKey) (entry : Option (Entry D P σ)) :
    Except Failure (Machine D P σ) := do
  let state ← machine.table.findState key
  return { machine with callbacks := (machine.callbacks.putEntry state entry).1 }

def stateName (machine : Machine D P σ) : String := machine.table.stateLabel machine.current

def isIn (machine : Machine D P σ) (name : String) : Bool :=
  machine.table.stateId? name = some machine.current

def isTerminal (machine : Machine D P σ) : Bool := machine.table.isTerminal machine.current

def canTrigger (machine : Machine D P σ) (key : EventKey) : Bool :=
  machine.table.canTrigger machine.current key

/-- The token that callbacks of a trigger hand on to their own triggers. -/
def forwarded (machine : Machine D P σ) (token : Token) : Token :=
  match machine.policy.forwarding with
  | .propagate => token
  | .detach => .unbounded

def describe (machine : Machine D P σ) (describeData : D → String) : String :=
  "Machine \x7b name: " ++ Text.quoted machine.table.name ++ ", state: " ++ Text.quoted machine.stateName ++
    ", data: " ++ describeData machine.data ++ ", hooks: " ++ machine.callbacks.describe ++
    ", options: " ++ machine.policy.describe ++ ", depth: " ++ toString machine.depth ++ " \x7d"

end Machine

end StateMachine
