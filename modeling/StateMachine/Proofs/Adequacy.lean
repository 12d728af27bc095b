import StateMachine.Proofs.Fuel
import StateMachine.Proofs.Steps

/-!
A call returns exactly if its steps come to an end, and then with the outcome and the session in which
they end.
-/
namespace StateMachine

variable {D P σ : Type}

/-- What a callback that is done leads to. -/
def Duty.conclude (submit : Submission P → Run D P σ (Except Failure Unit)) :
    {role : Role} → Duty P role → Except Cause Unit → Run D P σ (Except Failure Unit)
  | _, .act submission, .ok (), session =>
    Session.enter submit submission.token (session.emit (.actionEnded submission.event (.ok ())))
  | _, .act submission, .error cause, session =>
    some (.error (.callback (.action (session.machine.table.eventLabel submission.event)) cause),
      session.emit (.actionEnded submission.event (.error cause)))
  | _, .enter state, result, session =>
    some (result.mapError (.callback (.entry (session.machine.table.stateLabel state))),
      session.emit (.entryEnded state result))

/-- The outcome of what is under way. -/
def Control.finish (fuel : Nat) : Control D P σ → Run D P σ (Except Failure Unit)
  | .submit submission => Session.submit fuel submission
  | .dispatch submission => Session.dispatch (Session.submit fuel) submission
  | .act submission => Session.runCallbacks (Session.submit fuel) submission
  | .enter token => Session.enter (Session.submit fuel) token
  | .callback duty token program => fun session =>
    (program.run (Session.submit fuel) token session).bind fun (result, session) =>
      duty.conclude (Session.submit fuel) result session
  | .outcome result => fun session => some (result, session)

/-- What a frame makes of the outcome that it waits for. -/
def Frame.finish (fuel : Nat) : Frame D P σ → Except Failure Unit → Run D P σ (Except Failure Unit)
  | .waiting duty token next, outcome => (Control.callback duty token (next outcome)).finish fuel
  | .settling event, outcome => fun session => some (outcome, session.settle event outcome)
  | .draining, .ok () => fun session =>
    (Session.drain (Session.submit fuel) fuel session).map fun (outcome, session) =>
      (outcome, session.close)
  | .draining, .error failure => fun session => some (.error failure, session.close)

def finishStack (fuel : Nat) : List (Frame D P σ) → Except Failure Unit → Run D P σ (Except Failure Unit)
  | [], outcome, session => some (outcome, session)
  | frame :: stack, outcome, session =>
    (frame.finish fuel outcome session).bind fun (outcome, session) =>
      finishStack fuel stack outcome session

/-- Where a moment leads to in the end. -/
def Moment.finish (fuel : Nat) (moment : Moment D P σ) : Option (Except Failure Unit × Session D P σ) :=
  (moment.control.finish fuel moment.session).bind fun (outcome, session) =>
    finishStack fuel moment.stack outcome session

section More

variable {fuel more : Nat} (enough : fuel ≤ more)
include enough

private theorem Duty.conclude_extends {role : Role} (duty : Duty P role) (result : Except Cause Unit) :
    Run.Extends (duty.conclude (Session.submit fuel) result)
      (duty.conclude (Session.submit more) result : Run D P σ _) := by
  intro session answer ran
  match duty, result with
  | .act submission, .ok () =>
    exact Session.enter_extends (Session.submit_extends enough) _ _ _ ran
  | .act submission, .error cause => exact ran
  | .enter state, result => exact ran

private theorem Control.finish_extends (control : Control D P σ) :
    Run.Extends (control.finish fuel) (control.finish more) := by
  have handled (submission : Submission P) :
      Run.Extends (Session.submit fuel submission) (Session.submit more submission : Run D P σ _) :=
    Session.submit_extends enough submission
  cases control with
  | submit submission => exact handled submission
  | dispatch submission => exact Session.dispatch_extends handled submission
  | act submission => exact Session.runCallbacks_extends handled submission
  | enter token => exact Session.enter_extends handled token
  | callback duty token program =>
    intro session answer ran
    obtain ⟨⟨result, reached⟩, done, ran⟩ := Option.bind_eq_some_iff.mp ran
    exact Option.bind_eq_some_iff.mpr ⟨(result, reached),
      program.run_extends handled token _ _ done, duty.conclude_extends enough result _ _ ran⟩
  | outcome result => exact fun _ _ ran => ran

private theorem Frame.finish_extends (frame : Frame D P σ) (outcome : Except Failure Unit) :
    Run.Extends (frame.finish fuel outcome) (frame.finish more outcome) := by
  match frame, outcome with
  | .waiting duty token next, outcome =>
    exact Control.finish_extends enough (.callback duty token (next outcome))
  | .settling event, outcome => exact fun _ _ ran => ran
  | .draining, .ok () =>
    intro session answer ran
    obtain ⟨drained, done, same⟩ := Option.map_eq_some_iff.mp ran
    exact Option.map_eq_some_iff.mpr
      ⟨drained, Session.drain_extends (Session.submit_extends enough) enough _ _ done, same⟩
  | .draining, .error failure => exact fun _ _ ran => ran

private theorem finishStack_extends (stack : List (Frame D P σ)) (outcome : Except Failure Unit) :
    Run.Extends (finishStack fuel stack outcome) (finishStack more stack outcome) := by
  induction stack generalizing outcome with
  | nil => exact fun _ _ ran => ran
  | cons frame stack ih =>
    intro session answer ran
    obtain ⟨⟨result, reached⟩, done, ran⟩ := Option.bind_eq_some_iff.mp ran
    exact Option.bind_eq_some_iff.mpr
      ⟨(result, reached), frame.finish_extends enough outcome _ _ done, ih _ _ _ ran⟩

end More

namespace Session

private theorem runCallbacks_callback {submit : Submission P → Run D P σ (Except Failure Unit)}
    (handles : Handles submit) {session : Session D P σ} {submission : Submission P}
    {action : Action D P σ}
    (present : session.machine.callbacks.action? submission.event = some action) :
    runCallbacks submit submission session =
      ((action submission.payload).run submit (session.machine.forwarded submission.token)
        (session.emit (.actionBegan submission.event submission.payload session.machine.current))).bind
        fun (result, session) => Duty.conclude submit (.act submission) result session := by
  cases done : (action submission.payload).run submit
      (session.machine.forwarded submission.token)
      (session.emit (.actionBegan submission.event submission.payload session.machine.current)) with
  | none => simp [runCallbacks, act, present, done]
  | some answer =>
    obtain ⟨result, reached⟩ := answer
    have same : reached.machine.table = session.machine.table :=
      (Program.run_steps handles (.act submission) done []).setup.table
    cases result <;> simp [runCallbacks, act, present, done, Duty.conclude, same]

private theorem enter_callback {submit : Submission P → Run D P σ (Except Failure Unit)}
    (handles : Handles submit) {session : Session D P σ} {token : Token} {entry : Entry D P σ}
    (present : session.machine.callbacks.entry? session.machine.current = some entry) :
    enter submit token session =
      ((entry session.machine.data).run submit (session.machine.forwarded token)
        (session.emit (.entryBegan session.machine.current session.machine.data))).bind
        fun (result, session') =>
          Duty.conclude submit (.enter session.machine.current) result session' := by
  cases done : (entry session.machine.data).run submit (session.machine.forwarded token)
      (session.emit (.entryBegan session.machine.current session.machine.data)) with
  | none => simp [enter, present, done]
  | some answer =>
    obtain ⟨result, reached⟩ := answer
    have same : reached.machine.table = session.machine.table :=
      (Program.run_steps handles (.enter session.machine.current) done []).setup.table
    simp [enter, present, done, Duty.conclude, same]

end Session

/-- What a moment leads to, the moment before it leads to as well. -/
theorem Step.finish {fuel : Nat} {before after : Moment D P σ} (step : Step before after)
    {answer : Except Failure Unit × Session D P σ} (ends : after.finish fuel = some answer) :
    before.finish (fuel + 1) = some answer := by
  have enough : fuel ≤ fuel + 1 := Nat.le_succ fuel
  have handled (submission : Submission P) :
      Run.Extends (Session.submit fuel submission) (Session.submit (fuel + 1) submission : Run D P σ _) :=
    Session.submit_extends enough submission
  have handles : Handles (Session.submit (fuel + 1) : Submission P → Run D P σ _) :=
    Session.submit_handles (fuel + 1)
  obtain ⟨⟨outcome, reached⟩, done, rest⟩ := Option.bind_eq_some_iff.mp ends
  have later := finishStack_extends enough _ _ _ _ rest
  have under := after.control.finish_extends enough _ _ done
  refine Option.bind_eq_some_iff.mpr ?_
  cases step with
  | nest nested =>
    refine ⟨(outcome, reached), ?_, later⟩
    exact (Session.submit_nested nested).trans done
  | defer queued draining =>
    refine ⟨(outcome, reached), ?_, later⟩
    exact (Session.submit_deferred queued draining).trans done
  | drain queued idle =>
    cases done
    obtain ⟨⟨last, closed⟩, drained, rest⟩ := Option.bind_eq_some_iff.mp rest
    refine ⟨(last, closed), ?_, finishStack_extends enough _ _ _ _ rest⟩
    obtain ⟨⟨_, spent⟩, drains, same⟩ := Option.map_eq_some_iff.mp drained
    cases same
    refine (Session.submit_queued queued idle).trans (Session.runQueued_eq_some_iff.mpr ⟨spent, ?_, rfl⟩)
    exact Run.andThen_eq_some_iff.mpr (.inl ⟨_, rfl, drains⟩)
  | refuse refused =>
    refine ⟨(outcome, reached), ?_, later⟩
    simpa [Control.finish, Session.dispatch, refused, Session.dispatched] using done
  | apply found =>
    obtain ⟨⟨last, settled⟩, same, rest⟩ := Option.bind_eq_some_iff.mp later
    cases same
    refine ⟨(outcome, reached.settle _ outcome), ?_, rest⟩
    simp only [Control.finish, Session.dispatched] at under
    simp only [Control.finish, Session.dispatch, found, under]
  | skipAction absent =>
    refine ⟨(outcome, reached), ?_, later⟩
    simpa [Control.finish, Session.runCallbacks, Session.act, absent] using under
  | beginAction present =>
    refine ⟨(outcome, reached), ?_, later⟩
    exact (Session.runCallbacks_callback handles present).trans under
  | endAction => exact ⟨(outcome, reached), under, later⟩
  | failAction => exact ⟨(outcome, reached), under, later⟩
  | skipEntry absent =>
    refine ⟨(outcome, reached), ?_, later⟩
    simpa [Control.finish, Session.enter, absent] using done
  | beginEntry present =>
    refine ⟨(outcome, reached), ?_, later⟩
    exact (Session.enter_callback handles present).trans under
  | endEntry => exact ⟨(outcome, reached), under, later⟩
  | look => exact ⟨(outcome, reached), under, later⟩
  | share => exact ⟨(outcome, reached), under, later⟩
  | read => exact ⟨(outcome, reached), under, later⟩
  | write => exact ⟨(outcome, reached), under, later⟩
  | cancel => exact ⟨(outcome, reached), under, later⟩
  | misname unknown =>
    refine ⟨(outcome, reached), ?_, later⟩
    simpa only [Control.finish, Program.run, unknown] using under
  | trigger known =>
    obtain ⟨answer, resumed, rest⟩ := Option.bind_eq_some_iff.mp later
    refine ⟨answer, ?_, rest⟩
    simp only [Control.finish] at under
    simpa only [Control.finish, Frame.finish, Program.run, known, under] using resumed
  | resume => exact ⟨_, rfl, Option.bind_eq_some_iff.mpr ⟨(outcome, reached), under, later⟩⟩
  | settle =>
    cases done
    exact ⟨_, rfl, Option.bind_eq_some_iff.mpr ⟨_, rfl, later⟩⟩
  | take first =>
    obtain ⟨⟨last, closed⟩, drained, rest⟩ := Option.bind_eq_some_iff.mp rest
    refine ⟨_, rfl, Option.bind_eq_some_iff.mpr
      ⟨(last, closed), ?_, finishStack_extends enough _ _ _ _ rest⟩⟩
    simp only [Frame.finish, Session.drain_first first]
    refine Option.map_eq_some_iff.mpr ?_
    cases outcome with
    | ok =>
      obtain ⟨answer, drained, same⟩ := Option.map_eq_some_iff.mp drained
      refine ⟨answer, Run.andThen_eq_some_iff.mpr (.inl ⟨reached, under, ?_⟩), same⟩
      exact Session.drain_extends handled (Nat.le_refl fuel) _ _ drained
    | error failure =>
      cases drained
      exact ⟨(.error failure, reached), Run.andThen_eq_some_iff.mpr (.inr ⟨failure, rfl, under⟩), rfl⟩
  | close empty =>
    cases done
    refine ⟨_, rfl, Option.bind_eq_some_iff.mpr ⟨(.ok (), _), ?_, later⟩⟩
    simp [Frame.finish, Session.drain_empty empty]
  | abandon =>
    cases done
    exact ⟨_, rfl, Option.bind_eq_some_iff.mpr ⟨_, rfl, later⟩⟩

theorem Steps.finish {before : Moment D P σ} {outcome : Except Failure Unit} {session : Session D P σ}
    (steps : Steps before ⟨.outcome outcome, [], session⟩) :
    ∃ fuel, before.finish fuel = some (outcome, session) := by
  induction steps using Relation.ReflTransGen.head_induction_on with
  | refl => exact ⟨0, rfl⟩
  | head step _ ih =>
    obtain ⟨fuel, ends⟩ := ih
    exact ⟨fuel + 1, step.finish ends⟩

/-- At most one step can be made from a moment. -/
theorem Step.unique {before one other : Moment D P σ} (first : Step before one) (second : Step before other) :
    one = other := by
  cases first with
  | nest nested =>
    cases second with
    | nest => rfl
    | defer queued | drain queued => cases nested.symm.trans queued
  | defer queued draining =>
    cases second with
    | nest nested => cases nested.symm.trans queued
    | defer => rfl
    | drain _ idle => cases draining.symm.trans idle
  | drain queued idle =>
    cases second with
    | nest nested => cases nested.symm.trans queued
    | defer _ draining => cases draining.symm.trans idle
    | drain => rfl
  | refuse refused =>
    cases second with
    | refuse refused_too =>
      cases refused.symm.trans refused_too
      rfl
    | apply found => cases refused.symm.trans found
  | apply found =>
    cases second with
    | refuse refused => cases refused.symm.trans found
    | apply found_too =>
      cases found.symm.trans found_too
      rfl
  | skipAction absent =>
    cases second with
    | skipAction => rfl
    | beginAction present => cases absent.symm.trans present
  | beginAction present =>
    cases second with
    | skipAction absent => cases absent.symm.trans present
    | beginAction present_too =>
      cases present.symm.trans present_too
      rfl
  | skipEntry absent =>
    cases second with
    | skipEntry => rfl
    | beginEntry present => cases absent.symm.trans present
  | beginEntry present =>
    cases second with
    | skipEntry absent => cases absent.symm.trans present
    | beginEntry present_too =>
      cases present.symm.trans present_too
      rfl
  | misname unknown =>
    cases second with
    | misname unknown_too =>
      cases unknown.symm.trans unknown_too
      rfl
    | trigger known => cases unknown.symm.trans known
  | trigger known =>
    cases second with
    | misname unknown => cases unknown.symm.trans known
    | trigger known_too =>
      cases known.symm.trans known_too
      rfl
  | take first =>
    cases second with
    | take first_too =>
      cases first.symm.trans first_too
      rfl
    | close empty => cases first.symm.trans empty
  | close empty =>
    cases second with
    | take first => cases first.symm.trans empty
    | close => rfl
  | _ =>
    cases second
    rfl

/-- Steps that come to an end do so from each moment on the way. -/
theorem Steps.ends {before moment : Moment D P σ} {outcome : Except Failure Unit} {session : Session D P σ}
    (ends : Steps before ⟨.outcome outcome, [], session⟩) (reached : Steps before moment) :
    Steps moment ⟨.outcome outcome, [], session⟩ := by
  induction reached with
  | refl => exact ends
  | tail _ step ih =>
    rcases ih.cases_head with rfl | ⟨next, first, rest⟩
    · cases step
    · rw [step.unique first]
      exact rest

/-- The steps of a call say what the call does: it returns exactly if they come to an end. -/
theorem Call.returns_iff_steps {call : Call P} {session after : Session D P σ}
    {outcome : Except Failure Unit} :
    call.Returns session outcome after ↔ Steps (call.moment session) ⟨.outcome outcome, [], after⟩ := by
  refine ⟨Call.Returns.steps, fun steps => ?_⟩
  obtain ⟨fuel, ends⟩ := steps.finish
  obtain ⟨⟨result, reached⟩, done, rest⟩ := Option.bind_eq_some_iff.mp ends
  refine ⟨fuel, ?_⟩
  cases call with
  | trigger key payload token =>
    simp only [Call.run, Session.trigger]
    cases known : session.machine.table.findEvent key with
    | error failure =>
      simp only [Call.moment, known] at done rest
      cases done
      exact rest
    | ok event =>
      simp only [Call.moment, known] at done rest
      cases rest
      exact done
  | start token =>
    simp only [Call.run, Session.start]
    cases mode : session.machine.policy.dispatch with
    | nested =>
      simp only [Call.moment, mode] at done rest
      cases rest
      exact done
    | queued =>
      cases draining : session.machine.draining with
      | true =>
        simp only [Call.moment, mode, draining] at done rest
        cases rest
        exact done
      | false =>
        simp only [Call.moment, mode, draining] at done rest
        obtain ⟨_, drained, same⟩ := Option.bind_eq_some_iff.mp rest
        cases same
        refine Session.runQueued_eq_some_iff.mpr ?_
        cases result with
        | ok =>
          obtain ⟨⟨_, spent⟩, drains, same⟩ := Option.map_eq_some_iff.mp drained
          cases same
          exact ⟨spent, Run.andThen_eq_some_iff.mpr (.inl ⟨reached, done, drains⟩), rfl⟩
        | error failure =>
          cases drained
          exact ⟨reached, Run.andThen_eq_some_iff.mpr (.inr ⟨failure, rfl, done⟩), rfl⟩

/-- Whatever is under way at a moment of a call that returns comes to an outcome of its own. -/
theorem Call.Returns.finishes {call : Call P} {session after : Session D P σ}
    {outcome : Except Failure Unit} {moment : Moment D P σ} (returned : call.Returns session outcome after)
    (reached : Steps (call.moment session) moment) :
    ∃ fuel result later, moment.control.finish fuel moment.session = some (result, later) := by
  obtain ⟨fuel, ends⟩ := (returned.steps.ends reached).finish
  obtain ⟨⟨result, later⟩, done, _⟩ := Option.bind_eq_some_iff.mp ends
  exact ⟨fuel, result, later, done⟩

end StateMachine
