import StateMachine.Proofs.Dispatch
import StateMachine.Proofs.Moment
import StateMachine.Proofs.Refusal
import StateMachine.Proofs.Sample

/-!
Calls under a depth limit. In nested mode a limit makes every call return, wherever the transitions lead
and however often callbacks trigger: each program comes to its end if its triggers do, and these run one
level further down.
-/
namespace StateMachine

variable {D P σ : Type}

/-- A session of a machine with this policy and at this depth. -/
structure Session.Level (policy : Policy) (depth : Nat) (session : Session D P σ) : Prop where
  policy : session.machine.policy = policy
  depth : session.machine.depth = depth

/-- A run that comes to an end wherever it begins on a level, and on the same level. -/
def Run.Settles (policy : Policy) (depth : Nat) {result : Type} (run : Run D P σ result) : Prop :=
  ∀ session, session.Level policy depth →
    ∃ answer after, run session = some (answer, after) ∧ after.Level policy depth

theorem Run.Settles.andThen {policy : Policy} {depth : Nat} {first next : Run D P σ (Except Failure Unit)}
    (begins : first.Settles policy depth) (goes : next.Settles policy depth) :
    (first.andThen next).Settles policy depth := by
  intro session level
  obtain ⟨outcome, reached, ended, level⟩ := begins session level
  cases outcome with
  | ok =>
    rw [Run.andThen_ok ended]
    exact goes reached level
  | error failure => exact ⟨_, _, Run.andThen_error ended, level⟩

section Handled

variable {policy : Policy} {depth : Nat} {submit : Submission P → Run D P σ (Except Failure Unit)}

/-- A program ends if all that it triggers does, whatever it makes of the outcomes. -/
theorem Program.run_settles (handled : ∀ submission, (submit submission).Settles policy depth)
    {role : Role} (program : Program D P σ role) (token : Token) :
    (program.run submit token).Settles policy depth := by
  induction program with
  | done result => exact fun session level => ⟨result, session, rfl, level⟩
  | look next ih => exact fun session level => ih _ session.tick ⟨level.policy, level.depth⟩
  | share update next ih =>
    exact fun session level => ih _ (session.share update) ⟨level.policy, level.depth⟩
  | read next ih => exact fun session level => ih _ session level
  | write update next ih => exact fun session level => ih (session.write update) ⟨level.policy, level.depth⟩
  | cancel flagged next ih =>
    exact fun session level => ih (session.cancel flagged) ⟨level.policy, level.depth⟩
  | trigger key payload next ih =>
    intro session level
    simp only [run]
    cases session.machine.table.findEvent key with
    | error failure => exact ih _ session level
    | ok event =>
      obtain ⟨outcome, reached, submitted, level⟩ := handled ⟨event, payload, token⟩ session level
      simp only [submitted]
      exact ih outcome reached level

namespace Session

private theorem act_settles (handled : ∀ submission, (submit submission).Settles policy depth)
    (submission : Submission P) : (act submit submission).Settles policy depth := by
  intro session level
  cases present : session.machine.callbacks.action? submission.event with
  | none => exact ⟨.ok (), session, by simp only [act, present], level⟩
  | some action =>
    obtain ⟨result, reached, ran, level⟩ := (action submission.payload).run_settles handled
      (session.machine.forwarded submission.token)
      (session.emit (.actionBegan submission.event submission.payload session.machine.current))
      ⟨level.policy, level.depth⟩
    rw [act_present present, ran]
    exact ⟨_, _, rfl, level.policy, level.depth⟩

private theorem enter_settles (handled : ∀ submission, (submit submission).Settles policy depth)
    (token : Token) : (enter submit token).Settles policy depth := by
  intro session level
  cases present : session.machine.callbacks.entry? session.machine.current with
  | none => exact ⟨.ok (), session, by simp only [enter, present], level⟩
  | some entry =>
    obtain ⟨result, reached, ran, level⟩ := (entry session.machine.data).run_settles handled
      (session.machine.forwarded token)
      (session.emit (.entryBegan session.machine.current session.machine.data))
      ⟨level.policy, level.depth⟩
    rw [enter_present present, ran]
    exact ⟨_, _, rfl, level.policy, level.depth⟩

/-- A dispatch ends if the triggers of its callbacks end, which run one level further down; and where the
limit has been passed, it ends without any. -/
theorem dispatch_settles {limit : Nat} (limited : policy.maxDepth = some limit)
    (handled : depth ≤ limit → ∀ submission, (submit submission).Settles policy (depth + 1))
    (submission : Submission P) : (dispatch submit submission).Settles policy depth := by
  intro session level
  rcases session.refusal_or_acceptance submission with ⟨failure, refusal⟩ | ⟨target, acceptance⟩
  · exact ⟨_, _, dispatch_refused refusal.target_eq, level.policy, level.depth⟩
  · have shallow : depth ≤ limit := by
      rw [← level.depth]
      exact acceptance.shallow limit (by rw [level.policy, limited])
    have runs : (runCallbacks submit submission).Settles policy (depth + 1) :=
      (act_settles (handled shallow) submission).andThen (enter_settles (handled shallow) submission.token)
    obtain ⟨outcome, reached, ran, below⟩ := runs
      ((session.dispatched submission).apply submission.event target session.now)
      ⟨level.policy, congrArg (· + 1) level.depth⟩
    refine ⟨_, _, dispatch_applied acceptance.target_eq ran, below.policy, ?_⟩
    simp [below.depth]

end Session

end Handled

/-- So much fuel is enough as there are levels above the limit, and one below it. -/
theorem Session.submit_settles {policy : Policy} {limit depth fuel : Nat}
    (nested : policy.dispatch = .nested) (limited : policy.maxDepth = some limit)
    (enough : limit < depth + fuel) (submission : Submission P) :
    (submit (fuel + 1) submission : Run D P σ _).Settles policy depth := by
  induction fuel generalizing depth submission with
  | zero =>
    intro session level
    rw [submit_nested (by rw [level.policy, nested])]
    exact dispatch_settles limited (fun shallow => absurd shallow (Nat.not_le_of_lt enough)) submission
      session level
  | succ fuel ih =>
    intro session level
    rw [submit_nested (by rw [level.policy, nested])]
    exact dispatch_settles limited (fun _ => ih (by omega)) submission session level

/-- Every call of a machine in nested mode returns if a limit is set on its depth, whatever its table and
its callbacks are. The levels that the limit allows are all the fuel it takes. -/
theorem limited_call_returns {session : Session D P σ} {limit : Nat}
    (nested : session.machine.policy.dispatch = .nested)
    (limited : session.machine.policy.maxDepth = some limit) (call : Call P) :
    ∃ outcome after, call.Returns session outcome after ∧
      call.run (limit + 2) session = some (outcome, after) := by
  have level : session.Level session.machine.policy session.machine.depth := ⟨rfl, rfl⟩
  have handled (submission : Submission P) :
      (Session.submit (limit + 2) submission : Run D P σ _).Settles session.machine.policy
        session.machine.depth :=
    Session.submit_settles nested limited (by omega) submission
  have ends : ∃ outcome after, call.run (limit + 2) session = some (outcome, after) := by
    cases call with
    | trigger key payload token =>
      simp only [Call.run, Session.trigger]
      cases session.machine.table.findEvent key with
      | error failure => exact ⟨_, _, rfl⟩
      | ok event =>
        obtain ⟨outcome, after, submitted, _⟩ := handled ⟨event, payload, token⟩ session level
        exact ⟨outcome, after, submitted⟩
    | start token =>
      obtain ⟨outcome, after, entered, _⟩ := Session.enter_settles handled token session level
      refine ⟨outcome, after, ?_⟩
      simp only [Call.run, Session.start, nested]
      exact entered
  obtain ⟨outcome, after, ran⟩ := ends
  exact ⟨outcome, after, ⟨limit + 2, ran⟩, ran⟩

namespace Sample

/-- A table whose only event leads from its only state back to it. -/
def loop : Table where
  name := "loop"
  states := ["busy"]
  events := [⟨"again", none⟩]
  cells := #[some ⟨0⟩, none]

/-- An entry that triggers twice, and does not care what comes of it. -/
def again : Entry Nat Unit Unit := fun _ =>
  .trigger (.name "again") () fun _ => .trigger (.name "again") () fun _ => .done (.ok ())

def restless (policy : Policy) : Session Nat Unit Unit :=
  ⟨{ (Machine.new loop 0 policy : Machine Nat Unit Unit) with
    callbacks := { actions := #[none], entries := #[some again] } }, world⟩

end Sample

/-- With a limit of one, each of two triggers under the first one triggers twice more, which is too deep;
nobody minds, and the call returns. -/
theorem restless_call_returns :
    (Sample.restless { maxDepth := some 1 }).machine.policy.dispatch = .nested ∧
      (Sample.restless { maxDepth := some 1 }).machine.policy.maxDepth = some 1 ∧
      ∃ after, Call.Returns (.trigger (.name "again") () .unbounded)
          (Sample.restless { maxDepth := some 1 }) (.ok ()) after ∧
        after.machine.journal.transitions.map (·.depth) = [0, 1, 1] := by
  have nested : (Sample.restless { maxDepth := some 1 }).machine.policy.dispatch = .nested := rfl
  obtain ⟨outcome, after, returned, ran⟩ :=
    limited_call_returns nested rfl (.trigger (.name "again") () .unbounded)
  cases ran
  exact ⟨nested, rfl, _, returned, rfl⟩

end StateMachine
