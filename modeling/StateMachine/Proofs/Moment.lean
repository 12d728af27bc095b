import Mathlib.Logic.Relation
import StateMachine.Machine.Dispatch
import StateMachine.Proofs.Session

/-!
Moments of a call: what is under way, what waits for it, and the session so far. A call passes from
moment to moment in single steps, whether or not it ever returns.
-/
namespace StateMachine

variable {D P σ : Type}

/-- What a callback was begun for. -/
inductive Duty (P : Type) : Role → Type where
  | act (submission : Submission P) : Duty P .action
  | enter (state : StateId) : Duty P .entry

/-- What waits for an outcome: a callback for the outcome of its trigger, a dispatch for the outcome of
its callbacks, or the queue for the outcome of what was taken from it. -/
inductive Frame (D P σ : Type) where
  | waiting {role : Role} (duty : Duty P role) (token : Token)
      (next : Except Failure Unit → Program D P σ role)
  | settling (event : EventId)
  | draining

/-- What is under way. -/
inductive Control (D P σ : Type) where
  | submit (submission : Submission P)
  | dispatch (submission : Submission P)
  | act (submission : Submission P)
  | enter (token : Token)
  | callback {role : Role} (duty : Duty P role) (token : Token) (program : Program D P σ role)
  | outcome (outcome : Except Failure Unit)

structure Moment (D P σ : Type) where
  control : Control D P σ
  stack : List (Frame D P σ)
  session : Session D P σ

/-- One step from a moment to the next one. -/
inductive Step : Moment D P σ → Moment D P σ → Prop where
  | nest (nested : session.machine.policy.dispatch = .nested) :
      Step ⟨.submit submission, stack, session⟩ ⟨.dispatch submission, stack, session⟩
  | defer (queued : session.machine.policy.dispatch = .queued)
      (draining : session.machine.draining = true) :
      Step ⟨.submit submission, stack, session⟩
        ⟨.outcome (.ok ()), stack, session.defer submission⟩
  | drain (queued : session.machine.policy.dispatch = .queued)
      (idle : session.machine.draining = false) :
      Step ⟨.submit submission, stack, session⟩
        ⟨.outcome (.ok ()), .draining :: stack, (session.enqueue submission).setDraining true⟩
  | refuse {failure : Failure} (refused : session.target submission = .error failure) :
      Step ⟨.dispatch submission, stack, session⟩
        ⟨.outcome (.error failure), stack, (session.dispatched submission).emit (.refused failure)⟩
  | apply (found : session.target submission = .ok target) :
      Step ⟨.dispatch submission, stack, session⟩
        ⟨.act submission, .settling submission.event :: stack,
          (session.dispatched submission).apply submission.event target session.now⟩
  | skipAction (absent : session.machine.callbacks.action? submission.event = none) :
      Step ⟨.act submission, stack, session⟩ ⟨.enter submission.token, stack, session⟩
  | beginAction (present : session.machine.callbacks.action? submission.event = some action) :
      Step ⟨.act submission, stack, session⟩
        ⟨.callback (.act submission) (session.machine.forwarded submission.token)
          (action submission.payload), stack,
          session.emit (.actionBegan submission.event submission.payload session.machine.current)⟩
  | endAction :
      Step ⟨.callback (.act submission) token (.done (.ok ())), stack, session⟩
        ⟨.enter submission.token, stack, session.emit (.actionEnded submission.event (.ok ()))⟩
  | failAction :
      Step ⟨.callback (.act submission) token (.done (.error cause)), stack, session⟩
        ⟨.outcome (.error (.callback
          (.action (session.machine.table.eventLabel submission.event)) cause)), stack,
          session.emit (.actionEnded submission.event (.error cause))⟩
  | skipEntry (absent : session.machine.callbacks.entry? session.machine.current = none) :
      Step ⟨.enter token, stack, session⟩ ⟨.outcome (.ok ()), stack, session⟩
  | beginEntry (present : session.machine.callbacks.entry? session.machine.current = some entry) :
      Step ⟨.enter token, stack, session⟩
        ⟨.callback (.enter session.machine.current) (session.machine.forwarded token)
          (entry session.machine.data), stack,
          session.emit (.entryBegan session.machine.current session.machine.data)⟩
  | endEntry :
      Step ⟨.callback (.enter state) token (.done result), stack, session⟩
        ⟨.outcome (result.mapError (.callback (.entry (session.machine.table.stateLabel state)))),
          stack, session.emit (.entryEnded state result)⟩
  | look {role : Role} {duty : Duty P role} {next : View → Program D P σ role} :
      Step ⟨.callback duty token (.look next), stack, session⟩
        ⟨.callback duty token (next (session.view token)), stack, session.tick⟩
  | share {role : Role} {duty : Duty P role} {next : σ → Program D P σ role} :
      Step ⟨.callback duty token (.share update next), stack, session⟩
        ⟨.callback duty token (next (update session.world.shared)), stack, session.share update⟩
  | read {next : D → Program D P σ .action} :
      Step ⟨.callback duty token (.read next), stack, session⟩
        ⟨.callback duty token (next session.machine.data), stack, session⟩
  | write {next : Program D P σ .action} :
      Step ⟨.callback duty token (.write update next), stack, session⟩
        ⟨.callback duty token next, stack, session.write update⟩
  | cancel {role : Role} {duty : Duty P role} {next : Program D P σ role} :
      Step ⟨.callback duty token (.cancel flagged next), stack, session⟩
        ⟨.callback duty token next, stack, session.cancel flagged⟩
  | misname {role : Role} {duty : Duty P role}
      {next : Except Failure Unit → Program D P σ role} {failure : Failure}
      (unknown : session.machine.table.findEvent key = .error failure) :
      Step ⟨.callback duty token (.trigger key payload next), stack, session⟩
        ⟨.callback duty token (next (.error failure)), stack, session⟩
  | trigger {role : Role} {duty : Duty P role}
      {next : Except Failure Unit → Program D P σ role}
      (known : session.machine.table.findEvent key = .ok event) :
      Step ⟨.callback duty token (.trigger key payload next), stack, session⟩
        ⟨.submit ⟨event, payload, token⟩, .waiting duty token next :: stack, session⟩
  | resume {role : Role} {duty : Duty P role} {next : Except Failure Unit → Program D P σ role} :
      Step ⟨.outcome outcome, .waiting duty token next :: stack, session⟩
        ⟨.callback duty token (next outcome), stack, session⟩
  | settle :
      Step ⟨.outcome outcome, .settling event :: stack, session⟩
        ⟨.outcome outcome, stack, session.settle event outcome⟩
  | take (first : session.machine.pending = submission :: rest) :
      Step ⟨.outcome (.ok ()), .draining :: stack, session⟩
        ⟨.dispatch submission, .draining :: stack, session.dequeue rest⟩
  | close (empty : session.machine.pending = []) :
      Step ⟨.outcome (.ok ()), .draining :: stack, session⟩
        ⟨.outcome (.ok ()), stack, session.close⟩
  | abandon {failure : Failure} :
      Step ⟨.outcome (.error failure), .draining :: stack, session⟩
        ⟨.outcome (.error failure), stack, session.close⟩

/-- Any number of steps. -/
abbrev Steps : Moment D P σ → Moment D P σ → Prop := Relation.ReflTransGen Step

/-- A call of a machine from outside. -/
inductive Call (P : Type) where
  | trigger (key : EventKey) (payload : P) (token : Token)
  | start (token : Token)

namespace Call

def run (fuel : Nat) : Call P → Run D P σ (Except Failure Unit)
  | .trigger key payload token => Session.trigger fuel key payload token
  | .start token => Session.start fuel token

/-- A call returns if it does so with enough fuel. -/
def Returns (call : Call P) (session : Session D P σ) (outcome : Except Failure Unit)
    (after : Session D P σ) : Prop :=
  ∃ fuel, call.run fuel session = some (outcome, after)

/-- The first moment of a call. -/
def moment (call : Call P) (session : Session D P σ) : Moment D P σ :=
  match call with
  | .trigger key payload token =>
    match session.machine.table.findEvent key with
    | .error failure => ⟨.outcome (.error failure), [], session⟩
    | .ok event => ⟨.submit ⟨event, payload, token⟩, [], session⟩
  | .start token =>
    match session.machine.policy.dispatch, session.machine.draining with
    | .queued, false => ⟨.enter token, [.draining], session.setDraining true⟩
    | _, _ => ⟨.enter token, [], session⟩

/-- A call begins with a failure, with a submission, with the entry of the current state, or by opening
the queue for that entry. -/
theorem moment_cases (call : Call P) (session : Session D P σ) :
    (∃ failure, call.moment session = ⟨.outcome (.error failure), [], session⟩) ∨
    (∃ key event payload token, session.machine.table.findEvent key = .ok event ∧
      call.moment session = ⟨.submit ⟨event, payload, token⟩, [], session⟩) ∨
    (∃ token, (session.machine.policy.dispatch = .nested ∨ session.machine.draining = true) ∧
      call.moment session = ⟨.enter token, [], session⟩) ∨
    ∃ token, session.machine.policy.dispatch = .queued ∧ session.machine.draining = false ∧
      call.moment session = ⟨.enter token, [.draining], session.setDraining true⟩ := by
  cases call with
  | trigger key payload token =>
    cases known : session.machine.table.findEvent key with
    | error failure => exact .inl ⟨failure, by simp only [moment, known]⟩
    | ok event => exact .inr (.inl ⟨key, event, payload, token, known, by simp only [moment, known]⟩)
  | start token =>
    cases mode : session.machine.policy.dispatch with
    | nested => exact .inr (.inr (.inl ⟨token, .inl rfl, by simp only [moment, mode]⟩))
    | queued =>
      cases draining : session.machine.draining with
      | true => exact .inr (.inr (.inl ⟨token, .inr rfl, by simp only [moment, mode, draining]⟩))
      | false => exact .inr (.inr (.inr ⟨token, rfl, rfl, by simp only [moment, mode, draining]⟩))

end Call

end StateMachine
