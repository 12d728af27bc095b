import StateMachine.Id
import StateMachine.Time.Instant

namespace StateMachine

/-- One applied transition. The depth is the number of triggers that were running around it. -/
structure Transition where
  source : StateId
  target : StateId
  event : EventId
  depth : Nat
  time : Instant
  deriving DecidableEq

structure Journal where
  transitions : List Transition := []
  deriving DecidableEq

namespace Journal

def record (journal : Journal) (transition : Transition) : Journal :=
  { transitions := journal.transitions ++ [transition] }

/-- The states in the order they were passed through, from the source of the first transition on. -/
def path (journal : Journal) : List StateId :=
  match journal.transitions with
  | [] => []
  | first :: rest => first.source :: first.target :: rest.map (·.target)

def last? (journal : Journal) : Option Transition := journal.transitions.getLast?

/-- The time from the first transition to the last one, unless that is earlier. -/
def duration? (journal : Journal) : Option (Nat × Nat) := do
  let first ← journal.transitions.head?
  let last ← journal.transitions.getLast?
  first.time.elapsed? last.time

end Journal

end StateMachine
