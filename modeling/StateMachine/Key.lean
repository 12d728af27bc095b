import StateMachine.Failure
import StateMachine.Table

namespace StateMachine

inductive Key (Id : Type) where
  | name (name : String)
  | id (id : Id)
  deriving DecidableEq

abbrev StateKey := Key StateId

abbrev EventKey := Key EventId

namespace Table

/-- The event of a key. An id that the table does not know is shown by its short name. -/
def findEvent (table : Table) : EventKey → Except Failure EventId
  | .name name =>
    match table.eventId? name with
    | some event => .ok event
    | none => .error (.unknownEvent name)
  | .id event =>
    if event.index < table.events.length then .ok event else .error (.unknownEvent event.text)

def findState (table : Table) : StateKey → Except Failure StateId
  | .name name =>
    match table.stateId? name with
    | some state => .ok state
    | none => .error (.unknownState name)
  | .id state =>
    if state.index < table.states.length then .ok state else .error (.unknownState state.text)

def canTrigger (table : Table) (state : StateId) (key : EventKey) : Bool :=
  match table.findEvent key with
  | .ok event => (table.resolve? state event).isSome
  | .error _ => false

end Table

end StateMachine
