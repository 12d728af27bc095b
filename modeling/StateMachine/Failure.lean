/-!
Failures of triggers. A failed callback wraps what it failed with, which may be the failure of a trigger
that it issued itself.
-/
namespace StateMachine

/-- A callback by name: the action of an event, or the entry into a state. -/
inductive Callback where
  | action (event : String)
  | entry (state : String)
  deriving DecidableEq

mutual

inductive Failure where
  | unknownEvent (event : String)
  | unknownState (state : String)
  | invalidTransition (state event : String)
  | callback (callback : Callback) (cause : Cause)
  | cancelled (event : String)
  | deadlineExceeded (event : String)
  | depthExceeded (event : String) (limit : Nat)

/-- What a callback fails with: the failure of a trigger, or any other error, of which only the text is
known. -/
inductive Cause where
  | failure (failure : Failure)
  | foreign (text : String)

end

def Callback.lead : Callback → String
  | .action event => "action for event '" ++ event ++ "' failed: "
  | .entry state => "entry into state '" ++ state ++ "' failed: "

mutual

def Failure.message : Failure → String
  | .unknownEvent event => "unknown event: " ++ event
  | .unknownState state => "unknown state: " ++ state
  | .invalidTransition state event =>
    "invalid transition: no transition target from '" ++ state ++ "' via '" ++ event ++ "'"
  | .callback callback cause => callback.lead ++ cause.message
  | .cancelled event => "trigger of '" ++ event ++ "' cancelled"
  | .deadlineExceeded event => "deadline exceeded before triggering '" ++ event ++ "'"
  | .depthExceeded event limit =>
    "reentrant trigger of '" ++ event ++ "' exceeds maximum depth " ++ toString limit

def Cause.message : Cause → String
  | .failure failure => failure.message
  | .foreign text => text

end

namespace Failure

def isCallback : Failure → Bool
  | .callback _ _ => true
  | _ => false

/-- The innermost failure that callbacks wrap. -/
def root : Failure → Failure
  | .callback _ (.failure inner) => inner.root
  | failure => failure

/-- The causes below a failure, from the outermost inwards. -/
def causes : Failure → List Cause
  | .callback _ (.failure inner) => .failure inner :: inner.causes
  | .callback _ (.foreign text) => [.foreign text]
  | _ => []

def code : Failure → String
  | .unknownEvent _ => "UNKNOWN_EVENT"
  | .unknownState _ => "UNKNOWN_STATE"
  | .invalidTransition _ _ => "INVALID_TRANSITION"
  | .callback (.action _) _ => "ACTION_FAILED"
  | .callback (.entry _) _ => "ENTRY_FAILED"
  | .cancelled _ => "CANCELLED"
  | .deadlineExceeded _ => "DEADLINE_EXCEEDED"
  | .depthExceeded _ _ => "DEPTH_EXCEEDED"

end Failure

end StateMachine
