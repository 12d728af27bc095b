import StateMachine.Json.Read

/-!
Ids of states and events: words of 32 bits that number the declared states and the distinct events.
-/
namespace StateMachine

structure StateId where
  number : UInt32
  deriving DecidableEq, Inhabited

structure EventId where
  number : UInt32
  deriving DecidableEq, Inhabited

def StateId.initial : StateId := ⟨0⟩

/-- The id of a position; positions beyond 32 bits wrap around. -/
def StateId.ofIndex (index : Nat) : StateId := ⟨UInt32.ofNat index⟩

def EventId.ofIndex (index : Nat) : EventId := ⟨UInt32.ofNat index⟩

def StateId.index (state : StateId) : Nat := state.number.toNat

def EventId.index (event : EventId) : Nat := event.number.toNat

theorem StateId.index_ofIndex {index : Nat} (small : index < UInt32.size) :
    (StateId.ofIndex index).index = index :=
  UInt32.toNat_ofNat_of_lt small

theorem EventId.index_ofIndex {index : Nat} (small : index < UInt32.size) :
    (EventId.ofIndex index).index = index :=
  UInt32.toNat_ofNat_of_lt small

theorem StateId.ofIndex_index (state : StateId) : StateId.ofIndex state.index = state := by
  simp [StateId.index, StateId.ofIndex]

theorem EventId.ofIndex_index (event : EventId) : EventId.ofIndex event.index = event := by
  simp [EventId.index, EventId.ofIndex]

theorem StateId.index_lt (state : StateId) : state.index < UInt32.size := state.number.toNat_lt

theorem EventId.index_lt (event : EventId) : event.index < UInt32.size := event.number.toNat_lt

/-- The short name of an id, as errors show it. -/
def StateId.text (state : StateId) : String := "s" ++ toString state.index

def EventId.text (event : EventId) : String := "e" ++ toString event.index

def StateId.describe (state : StateId) : String := "StateId(" ++ toString state.index ++ ")"

def EventId.describe (event : EventId) : String := "EventId(" ++ toString event.index ++ ")"

def StateId.toJson (state : StateId) : Json := .nat state.index

def EventId.toJson (event : EventId) : Json := .nat event.index

def StateId.read (document : Document) : Except ReadError StateId :=
  (document.readNat UInt32.size "u32").map StateId.ofIndex

def EventId.read (document : Document) : Except ReadError EventId :=
  (document.readNat UInt32.size "u32").map EventId.ofIndex

end StateMachine
