namespace StateMachine

/-- The states a rule applies from. An empty list of states is no state at all. -/
inductive Sources where
  | any
  | states (names : List String)
  deriving DecidableEq

namespace Sources

/-- No names stand for any state. -/
def ofNames : List String → Sources
  | [] => .any
  | name :: names => .states (name :: names)

def isAny : Sources → Bool
  | .any => true
  | .states _ => false

def names : Sources → List String
  | .any => []
  | .states names => names

end Sources

/-- A rule leads from its sources to a target by an event. Rules with one event name make one event. -/
structure Rule where
  event : String
  payload : Option String := none
  sources : Sources := .any
  target : String := ""
  deriving DecidableEq

namespace Rule

def on (event : String) : Rule := { event }

def tagged (rule : Rule) (payload : String) : Rule := { rule with payload := some payload }

def fromStates (rule : Rule) (names : List String) : Rule := { rule with sources := .ofNames names }

def fromAny (rule : Rule) : Rule := { rule with sources := .any }

def toState (rule : Rule) (target : String) : Rule := { rule with target }

end Rule

structure Definition where
  name : String
  states : List String
  rules : List Rule := []
  deriving DecidableEq

namespace Definition

def addRule (definition : Definition) (rule : Rule) : Definition :=
  { definition with rules := definition.rules ++ [rule] }

def initial? (definition : Definition) : Option String := definition.states.head?

end Definition

end StateMachine
