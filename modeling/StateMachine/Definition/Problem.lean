namespace StateMachine

inductive Problem where
  | noStates
  | repeatedState (state : String)
  | emptyEventName
  | missingTarget (event : String)
  | unknownSource (event state : String)
  | unknownTarget (event state : String)
  | repeatedRule (event state : String)
  deriving DecidableEq

def Problem.message : Problem → String
  | .noStates => "no states declared; the first declared state is the initial state"
  | .repeatedState state => "state '" ++ state ++ "' declared more than once"
  | .emptyEventName => "event name must not be empty"
  | .missingTarget event => "event '" ++ event ++ "' has no target state. Call .to(state)"
  | .unknownSource event state => "event '" ++ event ++ "' lists unknown source state '" ++ state ++ "'"
  | .unknownTarget event state => "event '" ++ event ++ "' targets unknown state '" ++ state ++ "'"
  | .repeatedRule event state => "duplicate rule for event '" ++ event ++ "' from '" ++ state ++ "'"

def Problem.summary (problems : List Problem) : String :=
  "invalid machine definition: " ++ "; ".intercalate (problems.map Problem.message)

/-- A checked value is either good or comes with all that is wrong with it. -/
abbrev Checked (α : Type) := Except (List Problem) α

namespace Checked

variable {α β : Type}

def fail (problem : Problem) : Checked α := .error [problem]

def problems : Checked α → List Problem
  | .ok _ => []
  | .error problems => problems

/-- Joins two checked values, keeping the problems of both. -/
def both : Checked α → Checked β → Checked (α × β)
  | .ok first, .ok second => .ok (first, second)
  | first, second => .error (first.problems ++ second.problems)

def all : List (Checked α) → Checked (List α)
  | [] => .ok []
  | value :: values => (both value (all values)).map fun (first, rest) => first :: rest

end Checked

end StateMachine
