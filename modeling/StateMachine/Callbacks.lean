import StateMachine.Id

namespace StateMachine

@[ext]
structure Callbacks (A E : Type) where
  actions : Array (Option A)
  entries : Array (Option E)

namespace Callbacks

variable {A E : Type}

def empty (events states : Nat) : Callbacks A E :=
  { actions := Array.replicate events none, entries := Array.replicate states none }

/-- Ids without a slot have no callback. -/
def action? (callbacks : Callbacks A E) (event : EventId) : Option A := callbacks.actions[event.index]?.join

def entry? (callbacks : Callbacks A E) (state : StateId) : Option E := callbacks.entries[state.index]?.join

/-- Fills or empties the slot of an event, and gives what was in it. -/
def putAction (callbacks : Callbacks A E) (event : EventId) (action : Option A) :
    Callbacks A E × Option A :=
  ({ callbacks with actions := callbacks.actions.setIfInBounds event.index action },
    callbacks.action? event)

def putEntry (callbacks : Callbacks A E) (state : StateId) (entry : Option E) :
    Callbacks A E × Option E :=
  ({ callbacks with entries := callbacks.entries.setIfInBounds state.index entry },
    callbacks.entry? state)

def setAction (callbacks : Callbacks A E) (event : EventId) (action : A) : Callbacks A E × Option A :=
  callbacks.putAction event (some action)

def setEntry (callbacks : Callbacks A E) (state : StateId) (entry : E) : Callbacks A E × Option E :=
  callbacks.putEntry state (some entry)

def clearAction (callbacks : Callbacks A E) (event : EventId) : Callbacks A E × Option A :=
  callbacks.putAction event none

def clearEntry (callbacks : Callbacks A E) (state : StateId) : Callbacks A E × Option E :=
  callbacks.putEntry state none

def describe (callbacks : Callbacks A E) : String :=
  "HookRegistry \x7b actions: " ++ toString (callbacks.actions.countP Option.isSome) ++ ", entries: " ++
    toString (callbacks.entries.countP Option.isSome) ++ " \x7d"

end Callbacks

end StateMachine
