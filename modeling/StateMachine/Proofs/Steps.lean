import StateMachine.Proofs.Dispatch
import StateMachine.Proofs.Moment

namespace StateMachine

variable {D P σ : Type}

/-- What no call changes about a machine. -/
structure Machine.SameSetup (first second : Machine D P σ) : Prop where
  table : second.table = first.table
  callbacks : second.callbacks = first.callbacks
  policy : second.policy = first.policy

theorem Machine.SameSetup.trans {first second third : Machine D P σ}
    (begins : first.SameSetup second) (goes : second.SameSetup third) : first.SameSetup third :=
  ⟨goes.table.trans begins.table, goes.callbacks.trans begins.callbacks,
    goes.policy.trans begins.policy⟩

theorem Step.setup {before after : Moment D P σ} (step : Step before after) :
    before.session.machine.SameSetup after.session.machine := by
  cases step <;> constructor <;> simp

theorem Steps.setup {before after : Moment D P σ} (steps : Steps before after) :
    before.session.machine.SameSetup after.session.machine := by
  induction steps with
  | refl => exact ⟨rfl, rfl, rfl⟩
  | tail _ step ih => exact ih.trans step.setup

theorem Call.moment_setup (call : Call P) (session : Session D P σ) :
    session.machine.SameSetup (call.moment session).session.machine := by
  rcases call.moment_cases session with
    ⟨_, same⟩ | ⟨_, _, _, _, _, same⟩ | ⟨_, _, same⟩ | ⟨_, _, _, same⟩ <;> rw [same] <;>
    exact ⟨rfl, rfl, rfl⟩

theorem Call.moment_dispatch (call : Call P) (session : Session D P σ) :
    (call.moment session).session.machine.policy.dispatch = session.machine.policy.dispatch :=
  congrArg Policy.dispatch (call.moment_setup session).policy

/-- What follows the action of a dispatch. -/
def Control.afterAction (submission : Submission P) : Except Failure Unit → Control D P σ
  | .ok () => .enter submission.token
  | .error failure => .outcome (.error failure)

/-- Whatever becomes of a submission by `submit` comes about in steps. -/
def Handles (submit : Submission P → Run D P σ (Except Failure Unit)) : Prop :=
  ∀ submission session outcome after, submit submission session = some (outcome, after) →
    ∀ stack, Steps ⟨.submit submission, stack, session⟩ ⟨.outcome outcome, stack, after⟩

section Steps

variable {submit : Submission P → Run D P σ (Except Failure Unit)} (handles : Handles submit)
include handles

theorem Program.run_steps {role : Role} {program : Program D P σ role} (duty : Duty P role)
    {session after : Session D P σ} {token : Token} {result : Except Cause Unit}
    (ran : program.run submit token session = some (result, after)) (stack : List (Frame D P σ)) :
    Steps ⟨.callback duty token program, stack, session⟩
      ⟨.callback duty token (.done result), stack, after⟩ := by
  induction program generalizing session with
  | done =>
    simp only [Program.run, Option.some.injEq, Prod.mk.injEq] at ran
    obtain ⟨rfl, rfl⟩ := ran
    exact .refl
  | look next ih => exact .head .look (ih _ duty ran)
  | share update next ih => exact .head .share (ih _ duty ran)
  | read next ih => exact .head .read (ih _ duty ran)
  | write update next ih => exact .head .write (ih duty ran)
  | cancel flagged next ih => exact .head .cancel (ih duty ran)
  | trigger key payload next ih =>
    simp only [Program.run] at ran
    split at ran
    · rename_i failure unknown
      exact .head (.misname unknown) (ih _ duty ran)
    · rename_i event known
      split at ran
      · cases ran
      · rename_i outcome reached submitted
        exact .head (.trigger known)
          ((handles _ _ _ _ submitted _).trans (.head .resume (ih _ duty ran)))

namespace Session

variable {session after : Session D P σ} {outcome : Except Failure Unit}

private theorem enter_steps {token : Token} (entered : enter submit token session = some (outcome, after))
    (stack : List (Frame D P σ)) :
    Steps ⟨.enter token, stack, session⟩ ⟨.outcome outcome, stack, after⟩ := by
  simp only [enter] at entered
  split at entered
  · rename_i absent
    cases entered
    exact .single (.skipEntry absent)
  · rename_i entry present
    split at entered
    · cases entered
    · rename_i result reached ran
      have steps := Program.run_steps handles (.enter session.machine.current) ran stack
      have same : reached.machine.table = session.machine.table := steps.setup.table
      cases entered
      rw [← same]
      exact .head (.beginEntry present) (steps.tail .endEntry)

theorem act_steps {submission : Submission P}
    (ran : act submit submission session = some (outcome, after)) (stack : List (Frame D P σ)) :
    Steps ⟨.act submission, stack, session⟩ ⟨.afterAction submission outcome, stack, after⟩ := by
  simp only [act] at ran
  split at ran
  · rename_i absent
    cases ran
    exact .single (.skipAction absent)
  · rename_i action present
    split at ran
    · cases ran
    · rename_i result reached done
      have steps := Program.run_steps handles (.act submission) done stack
      have same : reached.machine.table = session.machine.table := steps.setup.table
      cases ran
      rw [← same]
      cases result with
      | ok => exact .head (.beginAction present) (steps.tail .endAction)
      | error cause => exact .head (.beginAction present) (steps.tail .failAction)

theorem runCallbacks_steps {submission : Submission P}
    (ran : runCallbacks submit submission session = some (outcome, after))
    (stack : List (Frame D P σ)) :
    Steps ⟨.act submission, stack, session⟩ ⟨.outcome outcome, stack, after⟩ := by
  rw [runCallbacks_eq, Run.andThen_eq_some_iff] at ran
  rcases ran with ⟨reached, acted, entered⟩ | ⟨failure, rfl, failed⟩
  · exact (act_steps handles acted stack).trans (enter_steps handles entered stack)
  · exact act_steps handles failed stack

theorem dispatch_steps {submission : Submission P}
    (ran : dispatch submit submission session = some (outcome, after))
    (stack : List (Frame D P σ)) :
    Steps ⟨.dispatch submission, stack, session⟩ ⟨.outcome outcome, stack, after⟩ := by
  simp only [dispatch] at ran
  split at ran
  · rename_i failure refused
    cases ran
    exact .single (.refuse refused)
  · rename_i target found
    split at ran
    · cases ran
    · rename_i outcome reached done
      cases ran
      exact .head (.apply found) ((runCallbacks_steps handles done _).tail .settle)

private theorem drain_steps {fuel : Nat} (ran : drain submit fuel session = some (outcome, after))
    (stack : List (Frame D P σ)) :
    Steps ⟨.outcome (.ok ()), .draining :: stack, session⟩
        ⟨.outcome outcome, .draining :: stack, after⟩ ∧
      (outcome = .ok () → after.machine.pending = []) := by
  induction fuel using Nat.strongRecOn generalizing session with
  | ind fuel ih =>
    rcases drain_cases ran with ⟨empty, rfl, rfl⟩ | ⟨submission, rest, less, first, rfl, parts⟩
    · exact ⟨.refl, fun _ => empty⟩
    rcases Run.andThen_eq_some_iff.mp parts with ⟨reached, dispatched, drained⟩ | ⟨failure, rfl, failed⟩
    · obtain ⟨steps, empty⟩ := ih less (Nat.lt_succ_self less) drained
      exact ⟨.head (.take first) ((dispatch_steps handles dispatched _).trans steps), empty⟩
    · exact ⟨.head (.take first) (dispatch_steps handles failed _), by simp⟩

private theorem runQueued_steps {fuel : Nat} {first : Run D P σ (Except Failure Unit)}
    {began : Moment D P σ} {stack : List (Frame D P σ)}
    (begins : ∀ {outcome reached}, first (session.setDraining true) = some (outcome, reached) →
      Steps began ⟨.outcome outcome, .draining :: stack, reached⟩)
    (ran : runQueued submit fuel first session = some (outcome, after)) :
    Steps began ⟨.outcome outcome, stack, after⟩ := by
  obtain ⟨drained, drains, rfl⟩ := runQueued_eq_some_iff.mp ran
  have closing (steps : Steps began ⟨.outcome outcome, .draining :: stack, drained⟩)
      (empty : outcome = .ok () → drained.machine.pending = []) :
      Steps began ⟨.outcome outcome, stack, drained.close⟩ := by
    cases outcome with
    | ok => exact steps.tail (.close (empty rfl))
    | error failure => exact steps.tail .abandon
  rcases Run.andThen_eq_some_iff.mp drains with ⟨reached, done, drains⟩ | ⟨failure, rfl, failed⟩
  · obtain ⟨steps, empty⟩ := drain_steps handles drains stack
    exact closing ((begins done).trans steps) empty
  · exact closing (begins failed) (by simp)

end Session

end Steps

theorem Session.submit_handles (fuel : Nat) :
    Handles (Session.submit fuel : Submission P → Run D P σ (Except Failure Unit)) := by
  induction fuel using Nat.strongRecOn with
  | ind fuel ih =>
    intro submission session outcome after submitted stack
    rcases submit_cases submitted with ⟨queued, draining, rfl, rfl⟩ | ⟨less, rfl, ran⟩
    · exact .single (.defer queued draining)
    have handles : Handles (Session.submit less : Submission P → Run D P σ _) :=
      ih less (Nat.lt_succ_self less)
    rcases ran with ⟨nested, dispatched⟩ | ⟨queued, idle, ran⟩
    · exact .head (.nest nested) (dispatch_steps handles dispatched stack)
    · refine .head (.drain queued idle) (runQueued_steps handles (fun done => ?_) ran)
      cases done
      exact .refl

/-- A call that returns comes to its end in steps. -/
theorem Call.Returns.steps {call : Call P} {session after : Session D P σ}
    {outcome : Except Failure Unit} (returned : call.Returns session outcome after) :
    Steps (call.moment session) ⟨.outcome outcome, [], after⟩ := by
  obtain ⟨fuel, ran⟩ := returned
  have handles : Handles (Session.submit fuel : Submission P → Run D P σ _) :=
    Session.submit_handles fuel
  cases call with
  | trigger key payload token =>
    simp only [Call.run, Session.trigger] at ran
    cases known : session.machine.table.findEvent key with
    | error failure =>
      simp only [known] at ran
      simp only [Call.moment, known]
      cases ran
      exact .refl
    | ok event =>
      simp only [known] at ran
      simp only [Call.moment, known]
      exact handles _ _ _ _ ran []
  | start token =>
    simp only [Call.run, Session.start] at ran
    cases mode : session.machine.policy.dispatch with
    | nested =>
      simp only [mode] at ran
      simp only [Call.moment, mode]
      exact Session.enter_steps handles ran []
    | queued =>
      cases draining : session.machine.draining with
      | true =>
        simp only [mode, draining] at ran
        simp only [Call.moment, mode, draining]
        exact Session.enter_steps handles ran []
      | false =>
        simp only [mode, draining] at ran
        simp only [Call.moment, mode, draining]
        exact Session.runQueued_steps handles (fun done => Session.enter_steps handles done _) ran

theorem Call.Returns.setup {call : Call P} {session after : Session D P σ}
    {outcome : Except Failure Unit} (returned : call.Returns session outcome after) :
    session.machine.SameSetup after.machine :=
  (call.moment_setup session).trans returned.steps.setup

end StateMachine
