import StateMachine.Id

/-!
Compiled tables: a dense matrix with one row for every declared state, a last row for rules that apply
from any state, and one column for every distinct event.
-/
namespace StateMachine

/-- A row of a table: the rules from one state, or the rules from any state. -/
inductive Row where
  | state (state : StateId)
  | wildcard
  deriving DecidableEq

structure EventInfo where
  name : String
  payload : Option String
  deriving DecidableEq

/-- The cells are stored row by row. -/
structure Table where
  name : String
  states : List String
  events : List EventInfo
  cells : Array (Option StateId)
  deriving DecidableEq

namespace Table

def blank (name : String) (states : List String) (events : List EventInfo) : Table :=
  { name, states, events, cells := Array.replicate ((states.length + 1) * events.length) none }

def rowIndex? (table : Table) : Row → Option Nat
  | .state state => if state.index < table.states.length then some state.index else none
  | .wildcard => some table.states.length

/-- The place of a cell. Ids that the table does not know have no cells. -/
def slot? (table : Table) (row : Row) (event : EventId) : Option Nat :=
  if event.index < table.events.length then
    (table.rowIndex? row).map fun index => index * table.events.length + event.index
  else none

/-- The target that a row itself holds for an event. -/
def rule? (table : Table) (row : Row) (event : EventId) : Option StateId :=
  (table.slot? row event).bind fun slot => table.cells[slot]?.join

/-- Writes a target into a cell, and gives the target that stood there before. -/
def insert (table : Table) (row : Row) (event : EventId) (target : StateId) : Table × Option StateId :=
  match table.slot? row event with
  | none => (table, none)
  | some slot =>
    ({ table with cells := table.cells.setIfInBounds slot (some target) }, table.cells[slot]?.join)

/-- The target of an event from a state. The wildcard row counts where the row of the state is empty. -/
def resolve? (table : Table) (state : StateId) (event : EventId) : Option StateId :=
  (table.rule? (.state state) event).or (table.rule? .wildcard event)

def stateName? (table : Table) (state : StateId) : Option String := table.states[state.index]?

def event? (table : Table) (event : EventId) : Option EventInfo := table.events[event.index]?

def eventName? (table : Table) (event : EventId) : Option String := (table.event? event).map (·.name)

def payload? (table : Table) (event : EventId) : Option String := (table.event? event).bind (·.payload)

def stateId? (table : Table) (name : String) : Option StateId :=
  (table.states.findIdx? (· = name)).map StateId.ofIndex

def eventId? (table : Table) (name : String) : Option EventId :=
  (table.events.findIdx? (·.name = name)).map EventId.ofIndex

def stateLabel (table : Table) (state : StateId) : String := (table.stateName? state).getD "?"

def eventLabel (table : Table) (event : EventId) : String := (table.eventName? event).getD "?"

def rowLabel (table : Table) : Row → String
  | .state state => table.stateLabel state
  | .wildcard => "*"

def stateIds (table : Table) : List StateId := (List.range table.states.length).map StateId.ofIndex

def eventIds (table : Table) : List EventId := (List.range table.events.length).map EventId.ofIndex

end Table

end StateMachine
