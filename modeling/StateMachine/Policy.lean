namespace StateMachine

/-- A trigger issued by a callback runs at once, or waits until the callbacks before it are done. -/
inductive Dispatch where
  | nested
  | queued
  deriving DecidableEq

/-- A callback hands on the token of the trigger that runs it, or none. -/
inductive Forwarding where
  | propagate
  | detach
  deriving DecidableEq

/-- The depth limit is the greatest number of triggers that may enclose another one. -/
structure Policy where
  dispatch : Dispatch := .nested
  forwarding : Forwarding := .propagate
  maxDepth : Option Nat := none
  recordHistory : Bool := true
  deriving DecidableEq

namespace Policy

def withDispatch (policy : Policy) (dispatch : Dispatch) : Policy := { policy with dispatch }

def withForwarding (policy : Policy) (forwarding : Forwarding) : Policy := { policy with forwarding }

def withMaxDepth (policy : Policy) (limit : Nat) : Policy := { policy with maxDepth := some limit }

def withRecordHistory (policy : Policy) (recordHistory : Bool) : Policy := { policy with recordHistory }

def describeLimit : Option Nat → String
  | none => "None"
  | some limit => "Some(" ++ toString limit ++ ")"

def describe (policy : Policy) : String :=
  let dispatch := match policy.dispatch with
    | .nested => "Nested"
    | .queued => "Queued"
  let forwarding := match policy.forwarding with
    | .propagate => "Propagate"
    | .detach => "Detach"
  "MachineOptions \x7b dispatch: " ++ dispatch ++ ", cancellation: " ++ forwarding ++ ", max_depth: " ++
    describeLimit policy.maxDepth ++ ", record_history: " ++ toString policy.recordHistory ++ " \x7d"

end Policy

end StateMachine
