import StateMachine.Proofs.Journey
import StateMachine.Proofs.Key
import StateMachine.Proofs.Sample
import StateMachine.Proofs.Wrapping

/-!
The first failure of a call. If callbacks end with the failure of a trigger as soon as they learn of it,
then nothing more is applied and no other callback begins, and every callback that was running when the
failure came about wraps it once.
-/
namespace StateMachine

variable {D P σ : Type}

/-- Programs that end with the failure of a trigger as soon as they learn of it. -/
inductive Program.Forthright : {role : Role} → Program D P σ role → Prop where
  | done {role : Role} {result : Except Cause Unit} : Forthright (.done result : Program D P σ role)
  | look {role : Role} {next : View → Program D P σ role} (onward : ∀ view, Forthright (next view)) :
      Forthright (.look next)
  | share {role : Role} {next : σ → Program D P σ role} (onward : ∀ shared, Forthright (next shared)) :
      Forthright (.share update next)
  | read {next : D → Program D P σ .action} (onward : ∀ data, Forthright (next data)) :
      Forthright (.read next)
  | write {next : Program D P σ .action} (onward : Forthright next) : Forthright (.write update next)
  | cancel {role : Role} {next : Program D P σ role} (onward : Forthright next) :
      Forthright (.cancel flagged next)
  | trigger {role : Role} {next : Except Failure Unit → Program D P σ role}
      (returns : ∀ failure, next (.error failure) = .done (.error (.failure failure)))
      (onward : Forthright (next (.ok ()))) : Forthright (.trigger key payload next)

structure Callbacks.Forthright (callbacks : Callbacks (Action D P σ) (Entry D P σ)) : Prop where
  action : ∀ event action, callbacks.action? event = some action → ∀ payload, (action payload).Forthright
  entry : ∀ state entry, callbacks.entry? state = some entry → ∀ data, (entry data).Forthright

/-- What has failed, if anything has: a trigger, or a callback that is done. -/
def Control.failure? : Control D P σ → Option Cause
  | .outcome (.error failure) => some (.failure failure)
  | .callback _ _ (.done (.error cause)) => some cause
  | _ => none

/-- Steps on the way to a moment before which nothing fails. -/
abbrev SmoothSteps : Moment D P σ → Moment D P σ → Prop :=
  Relation.ReflTransGen fun before after => before.control.failure? = none ∧ Step before after

section Callbacks

variable (table : Table)

/-- The callback that was begun for a duty. -/
def Duty.callback : {role : Role} → Duty P role → Callback
  | _, .act submission => .action (table.eventLabel submission.event)
  | _, .enter state => .entry (table.stateLabel state)

def Control.callback? : Control D P σ → Option Callback
  | .callback duty _ _ => some (duty.callback table)
  | _ => none

def Frame.callback? : Frame D P σ → Option Callback
  | .waiting duty _ _ => some (duty.callback table)
  | _ => none

end Callbacks

/-- The callbacks that are running, the outermost one first. -/
def Moment.callbacks (moment : Moment D P σ) : List Callback :=
  let table := moment.session.machine.table
  moment.stack.reverse.filterMap (Frame.callback? table) ++ (moment.control.callback? table).toList

/-- How a failure comes about, and the failure at its root: a submission is refused, a key is unknown to a
trigger from outside or to one of a callback, or a callback fails on its own account. -/
inductive FirstFailure : Moment D P σ → Cause → Failure → Prop where
  | refused {failure : Failure} {session : Session D P σ}
      (refusal : session.Refusal submission failure) :
      FirstFailure ⟨.outcome (.error failure), stack, (session.dispatched submission).emit (.refused failure)⟩
        (.failure failure) failure
  | unknown {failure : Failure} (absent : session.machine.table.findEvent key = .error failure) :
      FirstFailure ⟨.outcome (.error failure), [], session⟩ (.failure failure) failure
  | misnamed {role : Role} {duty : Duty P role} {failure : Failure}
      (absent : session.machine.table.findEvent key = .error failure) :
      FirstFailure ⟨.callback duty token (.done (.error (.failure failure))), stack, session⟩
        (.failure failure) failure
  | foreign {role : Role} {duty : Duty P role} :
      FirstFailure ⟨.callback duty token (.done (.error (.foreign text))), stack, session⟩ (.foreign text)
        (.callback (duty.callback session.machine.table) (.foreign text))
  | raised {role : Role} {duty : Duty P role} {failure : Failure} :
      FirstFailure ⟨.callback duty token (.done (.error (.failure failure))), stack, session⟩
        (.failure failure) failure.root

/-- Nothing was applied, nothing was written, and no callback has begun. -/
structure Session.Stands (before after : Session D P σ) : Prop where
  current : after.machine.current = before.machine.current
  data : after.machine.data = before.machine.data
  journal : after.machine.journal = before.machine.journal
  trace : ∃ log, after.world.trace = before.world.trace ++ log ∧ transitions log = [] ∧ invocations log = []

theorem Session.Stands.refl (session : Session D P σ) : session.Stands session :=
  ⟨rfl, rfl, rfl, [], (List.append_nil _).symm, rfl, rfl⟩

theorem Session.Stands.trans {first second third : Session D P σ} (begins : first.Stands second)
    (goes : second.Stands third) : first.Stands third := by
  obtain ⟨log, trace, still, quiet⟩ := begins.trace
  obtain ⟨more, onward, still_too, quiet_too⟩ := goes.trace
  refine ⟨goes.current.trans begins.current, goes.data.trans begins.data,
    goes.journal.trans begins.journal, log ++ more, by rw [onward, trace, List.append_assoc], ?_, ?_⟩
  · rw [transitions, List.filterMap_append, ← transitions, ← transitions, still, still_too, List.nil_append]
  · rw [invocations, List.filterMap_append, ← invocations, ← invocations, quiet, quiet_too, List.nil_append]

def Control.Forthright : Control D P σ → Prop
  | .callback _ _ program => program.Forthright
  | _ => True

def Frame.Forthright : Frame D P σ → Prop
  | .waiting _ _ next =>
    (∀ failure, next (.error failure) = .done (.error (.failure failure))) ∧ (next (.ok ())).Forthright
  | _ => True

/-- All callbacks pass on failures: the one that is under way, those that wait, and those that may begin. -/
structure Moment.Forthright (moment : Moment D P σ) : Prop where
  callbacks : moment.session.machine.callbacks.Forthright
  control : moment.control.Forthright
  stack : ∀ frame ∈ moment.stack, frame.Forthright

private theorem Step.forthright {before after : Moment D P σ} (step : Step before after)
    (forthright : before.Forthright) : after.Forthright := by
  have callbacks : after.session.machine.callbacks.Forthright := by
    rw [step.setup.callbacks]
    exact forthright.callbacks
  obtain ⟨may_begin, control, stack⟩ := forthright
  cases step with
  | beginAction present => exact ⟨callbacks, may_begin.action _ _ present _, stack⟩
  | beginEntry present => exact ⟨callbacks, may_begin.entry _ _ present _, stack⟩
  | look =>
    cases control with
    | look onward => exact ⟨callbacks, onward _, stack⟩
  | share =>
    cases control with
    | share onward => exact ⟨callbacks, onward _, stack⟩
  | read =>
    cases control with
    | read onward => exact ⟨callbacks, onward _, stack⟩
  | write =>
    cases control with
    | write onward => exact ⟨callbacks, onward, stack⟩
  | cancel =>
    cases control with
    | cancel onward => exact ⟨callbacks, onward, stack⟩
  | misname unknown =>
    cases control with
    | trigger returns =>
      rw [returns]
      exact ⟨callbacks, .done, stack⟩
  | trigger known =>
    cases control with
    | trigger returns onward =>
      exact ⟨callbacks, trivial, List.forall_mem_cons.mpr ⟨⟨returns, onward⟩, stack⟩⟩
  | resume =>
    rename_i outcome token _ session role duty next
    obtain ⟨⟨returns, onward⟩, waits⟩ := List.forall_mem_cons.mp stack
    cases outcome with
    | ok => exact ⟨callbacks, onward, waits⟩
    | error failure =>
      rw [returns]
      exact ⟨callbacks, .done, waits⟩
  | apply found => exact ⟨callbacks, trivial, List.forall_mem_cons.mpr ⟨trivial, stack⟩⟩
  | drain queued idle => exact ⟨callbacks, trivial, List.forall_mem_cons.mpr ⟨trivial, stack⟩⟩
  | settle => exact ⟨callbacks, trivial, (List.forall_mem_cons.mp stack).2⟩
  | close empty => exact ⟨callbacks, trivial, (List.forall_mem_cons.mp stack).2⟩
  | abandon => exact ⟨callbacks, trivial, (List.forall_mem_cons.mp stack).2⟩
  | _ => exact ⟨callbacks, trivial, stack⟩

/-- A failure only makes its way out, wrapped by the callbacks that are left on the way. -/
structure Moment.Unwinds (cause : Cause) (before after : Moment D P σ) : Prop where
  failed : ∃ outer, after.control.failure? = some outer ∧
    outer.wrapped after.callbacks = cause.wrapped before.callbacks
  stands : before.session.Stands after.session

private theorem Step.unwinds {before after : Moment D P σ} {cause : Cause} (step : Step before after)
    (forthright : before.Forthright) (failed : before.control.failure? = some cause) :
    before.Unwinds cause after := by
  cases step with
  | failAction =>
    cases failed
    exact ⟨⟨_, rfl, by simp [Moment.callbacks, Control.callback?, Duty.callback, Cause.wrapped_snoc]⟩,
      rfl, rfl, rfl, [_], rfl, rfl, rfl⟩
  | endEntry =>
    rename_i result stack session
    cases result with
    | ok => cases failed
    | error own =>
      cases failed
      exact ⟨⟨_, rfl, by simp [Moment.callbacks, Control.callback?, Duty.callback, Cause.wrapped_snoc]⟩,
        rfl, rfl, rfl, [_], rfl, rfl, rfl⟩
  | resume =>
    rename_i outcome token stack session role duty next
    obtain ⟨⟨returns, _⟩, _⟩ := List.forall_mem_cons.mp forthright.stack
    cases outcome with
    | ok => cases failed
    | error failure =>
      cases failed
      refine ⟨⟨.failure failure, by rw [returns]; rfl, ?_⟩, .refl _⟩
      simp [Moment.callbacks, Control.callback?, Frame.callback?]
  | settle =>
    rename_i outcome event stack session
    cases outcome with
    | ok => cases failed
    | error failure =>
      cases failed
      refine ⟨⟨_, rfl, ?_⟩, rfl, rfl, rfl, [_], rfl, rfl, rfl⟩
      simp [Moment.callbacks, Control.callback?, List.filterMap_cons, Frame.callback?]
  | abandon =>
    rename_i stack session failure
    cases failed
    refine ⟨⟨_, rfl, ?_⟩, by simp, by simp, by simp, _, session.trace_close, ?_⟩
    · simp [Moment.callbacks, Control.callback?, List.filterMap_cons, Frame.callback?]
    · by_cases empty : session.machine.pending = [] <;>
        simp [empty, transitions, invocations, Event.transition?, Event.invocation?]
  | _ => cases failed

private theorem Steps.forthright {before after : Moment D P σ} (steps : Steps before after)
    (forthright : before.Forthright) : after.Forthright := by
  induction steps with
  | refl => exact forthright
  | tail _ step ih => exact step.forthright ih

/-- Once something has failed, every later moment only shows this failure on its way out. -/
theorem Steps.unwinds {before after : Moment D P σ} {cause : Cause} (steps : Steps before after)
    (forthright : before.Forthright) (failed : before.control.failure? = some cause) :
    before.Unwinds cause after := by
  induction steps with
  | refl => exact ⟨⟨cause, failed, rfl⟩, .refl _⟩
  | tail steps step ih =>
    obtain ⟨⟨inner, failed, same⟩, stands⟩ := ih
    obtain ⟨⟨outer, failed_too, onward⟩, still⟩ := step.unwinds (Steps.forthright steps forthright) failed
    exact ⟨⟨outer, failed_too, onward.trans same⟩, stands.trans still⟩

/-- Steps that end with a failure pass through a first one. -/
theorem Steps.first_failure {before after : Moment D P σ} {cause : Cause} (steps : Steps before after)
    (failed : after.control.failure? = some cause) :
    ∃ moment first, SmoothSteps before moment ∧ moment.control.failure? = some first ∧
      Steps moment after := by
  induction steps using Relation.ReflTransGen.head_induction_on with
  | refl => exact ⟨after, cause, .refl, failed, .refl⟩
  | @head before next step rest ih =>
    cases earlier : before.control.failure? with
    | some first => exact ⟨before, first, .refl, earlier, rest.head step⟩
    | none =>
      obtain ⟨moment, first, smooth, found, onward⟩ := ih
      exact ⟨moment, first, smooth.head ⟨earlier, step⟩, found, onward⟩

theorem SmoothSteps.steps {before after : Moment D P σ} (smooth : SmoothSteps before after) :
    Steps before after := by
  induction smooth with
  | refl => exact .refl
  | tail _ step ih => exact ih.tail step.2

/-- A callback that is done with a failure has failed on its own account, if nothing failed before. -/
theorem FirstFailure.of_callback {role : Role} {duty : Duty P role} {token : Token}
    {program : Program D P σ role} {stack : List (Frame D P σ)} {session : Session D P σ} {cause : Cause}
    (failed : (Control.callback duty token program).failure? = some cause) :
    ∃ root, FirstFailure ⟨.callback duty token program, stack, session⟩ cause root := by
  cases program with
  | done result =>
    cases result with
    | ok => cases failed
    | error own =>
      cases failed
      cases cause with
      | failure failure => exact ⟨_, .raised⟩
      | foreign text => exact ⟨_, .foreign⟩
  | _ => cases failed

private theorem Step.first_failure {before after : Moment D P σ} {cause : Cause} (step : Step before after)
    (forthright : before.Forthright) (calm : before.control.failure? = none)
    (failed : after.control.failure? = some cause) : ∃ root, FirstFailure after cause root := by
  cases step with
  | refuse refused =>
    cases failed
    exact ⟨_, .refused (Session.target_eq_error_iff.mp refused)⟩
  | misname unknown =>
    cases forthright.control with
    | trigger returns =>
      simp only [returns] at failed ⊢
      cases failed
      exact ⟨_, .misnamed unknown⟩
  | failAction => cases calm
  | endEntry =>
    rename_i result stack session
    cases result with
    | ok => cases failed
    | error own => cases calm
  | resume =>
    rename_i outcome _ _ _ _ _ _
    cases outcome with
    | ok => exact FirstFailure.of_callback failed
    | error failure => cases calm
  | settle =>
    rename_i outcome _ _ _
    cases outcome with
    | ok => cases failed
    | error failure => cases calm
  | abandon => cases calm
  | beginAction | beginEntry | look | share | read | write | cancel => exact FirstFailure.of_callback failed
  | _ => cases failed

private theorem Call.moment_first_failure {call : Call P} {session : Session D P σ} {cause : Cause}
    (failed : (call.moment session).control.failure? = some cause) :
    ∃ root, FirstFailure (call.moment session) cause root := by
  cases call with
  | trigger key payload token =>
    cases known : session.machine.table.findEvent key with
    | ok event => simp [moment, known, Control.failure?] at failed
    | error failure =>
      simp only [moment, known] at failed ⊢
      cases failed
      exact ⟨_, .unknown known⟩
  | start token =>
    simp only [moment] at failed
    split at failed <;> cases failed

private theorem Session.Refusal.root_eq {session : Session D P σ} {submission : Submission P}
    {failure : Failure}
    (refusal : session.Refusal submission failure) : failure.root = failure := by
  cases refusal <;> rfl

private theorem FirstFailure.root_eq {moment : Moment D P σ} {cause : Cause} {root failure : Failure}
    (first : FirstFailure moment cause root) (wraps : .failure failure = cause.wrapped moment.callbacks) :
    failure.root = root := by
  cases first with
  | refused refusal => exact (Cause.root_of_wrapped wraps).trans refusal.root_eq
  | unknown absent =>
    obtain ⟨text, rfl⟩ := Table.findEvent_error absent
    exact Cause.root_of_wrapped wraps
  | misnamed absent =>
    obtain ⟨text, rfl⟩ := Table.findEvent_error absent
    exact Cause.root_of_wrapped wraps
  | foreign => exact Cause.root_of_foreign wraps
  | raised => exact Cause.root_of_wrapped wraps

private theorem Call.moment_forthright (call : Call P) {session : Session D P σ}
    (forthright : session.machine.callbacks.Forthright) : (call.moment session).Forthright := by
  have callbacks : (call.moment session).session.machine.callbacks.Forthright := by
    rw [(call.moment_setup session).callbacks]
    exact forthright
  rcases call.moment_cases session with
    ⟨_, same⟩ | ⟨_, _, _, _, _, same⟩ | ⟨_, _, same⟩ | ⟨_, _, _, same⟩ <;> rw [same] at callbacks ⊢
  · exact ⟨callbacks, trivial, nofun⟩
  · exact ⟨callbacks, trivial, nofun⟩
  · exact ⟨callbacks, trivial, nofun⟩
  · exact ⟨callbacks, trivial, List.forall_mem_singleton.mpr trivial⟩

/-- Steps of a call that end with a failure pass through a first one, which came about in one of the ways
there are. -/
theorem Call.first_failure {call : Call P} {session : Session D P σ} {last : Moment D P σ} {cause : Cause}
    (forthright : session.machine.callbacks.Forthright) (steps : Steps (call.moment session) last)
    (failed : last.control.failure? = some cause) :
    ∃ moment first root, SmoothSteps (call.moment session) moment ∧ FirstFailure moment first root ∧
      moment.control.failure? = some first ∧ Steps moment last := by
  obtain ⟨moment, first, smooth, found, onward⟩ := steps.first_failure failed
  cases smooth.cases_tail with
  | inl same =>
    rw [same] at found onward
    obtain ⟨root, comes_about⟩ := Call.moment_first_failure found
    exact ⟨_, first, root, .refl, comes_about, found, onward⟩
  | inr last_step =>
    obtain ⟨before, earlier, calm, step⟩ := last_step
    have begins := call.moment_forthright forthright
    obtain ⟨root, comes_about⟩ :=
      step.first_failure (Steps.forthright (SmoothSteps.steps earlier) begins) calm found
    exact ⟨moment, first, root, smooth, comes_about, found, onward⟩

/-- The first failure of a call stops it, and is reported whole. From the moment at which it comes about,
nothing is applied or written and no callback begins, at any later moment and on return. The outcome is
this failure, wrapped once by each callback that was running at that moment, from the outermost inwards,
so that the root of the outcome is the refusal itself, or the failure of the callback with an error of
its own. -/
theorem first_failure_reported_whole {call : Call P} {session after : Session D P σ} {failure : Failure}
    (forthright : session.machine.callbacks.Forthright)
    (returned : call.Returns session (.error failure) after) :
    ∃ moment cause root, SmoothSteps (call.moment session) moment ∧ FirstFailure moment cause root ∧
      Steps moment ⟨.outcome (.error failure), [], after⟩ ∧
      (∀ later, Steps moment later → moment.session.Stands later.session) ∧
      .failure failure = cause.wrapped moment.callbacks ∧ failure.root = root := by
  have failed : (Control.outcome (.error failure) : Control D P σ).failure? = some (.failure failure) := rfl
  obtain ⟨moment, cause, root, smooth, first, found, onward⟩ :=
    Call.first_failure forthright returned.steps failed
  have passes := Steps.forthright (SmoothSteps.steps smooth) (call.moment_forthright forthright)
  obtain ⟨⟨outer, ⟨⟩, wraps⟩, _⟩ := onward.unwinds passes found
  exact ⟨moment, cause, root, smooth, first, onward,
    fun later steps => (steps.unwinds passes found).stands, wraps, first.root_eq wraps⟩

/-- The sample session runs into the failure of an action below an entry. -/
theorem sample_first_failure_reported_whole :
    ∃ failure after moment cause root,
      failure = .callback (.entry "running") (.failure (.callback (.action "finish") (.foreign "too late"))) ∧
      SmoothSteps ((Call.trigger (.name "run") () {}).moment (Sample.session {})) moment ∧
      FirstFailure moment cause root ∧
      Steps moment ⟨.outcome (.error failure), [], after⟩ ∧
      (∀ later, Steps moment later → moment.session.Stands later.session) ∧
      .failure failure = cause.wrapped moment.callbacks ∧
      root = .callback (.action "finish") (.foreign "too late") := by
  have forthright : (Sample.session {}).machine.callbacks.Forthright := by
    constructor
    · intro event action present payload
      rcases Sample.callbacks_action? present with rfl | rfl
      · exact .write .done
      · exact .write .done
    · intro state entry present data
      cases Sample.callbacks_entry? present
      exact .trigger (fun _ => rfl) .done
  have returned : Call.Returns (.trigger (.name "run") () {}) (Sample.session {}) _ _ := ⟨3, rfl⟩
  obtain ⟨moment, cause, root, smooth, first, onward, stands, wraps, rooted⟩ :=
    first_failure_reported_whole forthright returned
  exact ⟨_, _, moment, cause, root, rfl, smooth, first, onward, stands, wraps, rooted.symm⟩

end StateMachine
