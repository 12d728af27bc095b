import StateMachine.Table

namespace StateMachine

structure Edge where
  source : StateId
  event : EventId
  target : StateId
  wildcard : Bool
  deriving DecidableEq

namespace Table

/-- The edge of an event from a state. The row of the state comes first. -/
def edge? (table : Table) (source : StateId) (event : EventId) : Option Edge :=
  match table.rule? (.state source) event with
  | some target => some ⟨source, event, target, false⟩
  | none => (table.rule? .wildcard event).map fun target => ⟨source, event, target, true⟩

/-- All edges, by state and then by event. -/
def edges (table : Table) : List Edge :=
  table.stateIds.flatMap fun source => table.eventIds.filterMap (table.edge? source)

def eventsFrom (table : Table) (state : StateId) : List EventId :=
  table.eventIds.filter fun event => (table.resolve? state event).isSome

def isTerminal (table : Table) (state : StateId) : Bool := (table.eventsFrom state).isEmpty

def terminalStates (table : Table) : List StateId := table.stateIds.filter table.isTerminal

end Table

end StateMachine
