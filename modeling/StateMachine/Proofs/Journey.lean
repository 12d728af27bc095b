import StateMachine.Proofs.Account

/-!
What traces tell: the transitions applied, the callbacks run, the submissions accepted and dispatched,
and the results of dispatches. The transitions of a trace are the machine's journey through its states.
-/
namespace StateMachine

variable {D P σ : Type}

/-- A callback and what it is run with. -/
inductive Invocation (D P : Type) where
  | action (event : EventId) (payload : P) (state : StateId)
  | entry (state : StateId) (snapshot : D)

namespace Event

def transition? : Event D P → Option Transition
  | .applied transition => some transition
  | _ => none

def invocation? : Event D P → Option (Invocation D P)
  | .actionBegan event payload state => some (.action event payload state)
  | .entryBegan state snapshot => some (.entry state snapshot)
  | _ => none

def acceptance? : Event D P → Option (Submission P)
  | .accepted submission => some submission
  | _ => none

def dispatch? : Event D P → Option (Submission P)
  | .dispatched submission _ => some submission
  | _ => none

def result? : Event D P → Option (Except Failure Unit)
  | .refused failure => some (.error failure)
  | .settled _ outcome => some outcome
  | _ => none

end Event

def transitions (events : List (Event D P)) : List Transition := events.filterMap Event.transition?

def invocations (events : List (Event D P)) : List (Invocation D P) :=
  events.filterMap Event.invocation?

/-- Submissions that joined the queue. -/
def accepted (events : List (Event D P)) : List (Submission P) := events.filterMap Event.acceptance?

def dispatches (events : List (Event D P)) : List (Submission P) := events.filterMap Event.dispatch?

/-- The results of dispatches, in the order in which they came about. -/
def results (events : List (Event D P)) : List (Except Failure Unit) := events.filterMap Event.result?

/-- A way through the states of a table: each transition is what the table says, and starts where the one
before it led. -/
inductive Journey (table : Table) : StateId → List Transition → StateId → Prop where
  | stay : Journey table state [] state
  | move {transition : Transition}
      (resolved : table.resolve? transition.source transition.event = some transition.target)
      (onward : Journey table transition.target later last) :
      Journey table transition.source (transition :: later) last

private theorem Machine.Accounts.journey {machine : Machine D P σ} {events : List (Event D P)}
    (accounts : machine.Accounts events) :
    Journey machine.table machine.current (transitions events)
      (events.foldl Machine.follow machine).current := by
  induction events generalizing machine with
  | nil => exact .stay
  | cons event events ih =>
    obtain ⟨admits, onward⟩ := accounts
    have journey := ih onward
    cases event with
    | applied transition =>
      obtain ⟨source, _, resolved⟩ := admits
      rw [← source] at resolved ⊢
      exact .move resolved journey
    | _ => exact journey

private theorem Machine.foldl_follow_journal (machine : Machine D P σ) (events : List (Event D P)) :
    (events.foldl Machine.follow machine).journal.transitions =
      machine.journal.transitions ++
        if machine.policy.recordHistory then transitions events else [] := by
  induction events generalizing machine with
  | nil => simp [transitions]
  | cons event events ih =>
    rw [List.foldl_cons, ih]
    cases event with
    | applied transition =>
      cases recorded : machine.policy.recordHistory <;>
        simp [Machine.follow, recorded, Journal.record, transitions, Event.transition?]
    | _ => rfl

namespace Session.Follows

variable {before after : Session D P σ} {events : List (Event D P)}

/-- The state of a machine changes by the transitions of its trace only. -/
theorem journey (follows : before.Follows events after) :
    Journey before.machine.table before.machine.current (transitions events) after.machine.current := by
  rw [follows.machine]
  exact follows.accounts.journey

/-- The journal grows by the transitions of the trace, if it is kept. -/
theorem journal (follows : before.Follows events after) :
    after.machine.journal.transitions = before.machine.journal.transitions ++
      if before.machine.policy.recordHistory then transitions events else [] := by
  rw [follows.machine]
  exact Machine.foldl_follow_journal before.machine events

end Session.Follows

end StateMachine
