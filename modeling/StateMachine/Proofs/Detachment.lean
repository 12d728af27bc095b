import StateMachine.Proofs.Fuel
import StateMachine.Proofs.Sample
import StateMachine.Proofs.Trigger
import StateMachine.Proofs.Twin

/-!
Detached calls. A machine that hands no token on checks the token of a call at the first dispatch only.
From there on the call goes on as it would without a token.
-/
namespace StateMachine

variable {D P σ : Type}

/-- Two runs have ended with the same result and in twins, or both of them are out of fuel. -/
inductive Run.Agree (timed : Prop) {result : Type} :
    Option (result × Session D P σ) → Option (result × Session D P σ) → Prop where
  | spent : Agree timed none none
  | ended {answer : result} (twins : first.Twins timed second) :
      Agree timed (some (answer, first)) (some (answer, second))

/-- Two runs agree wherever they begin with twins. -/
def Run.Agrees (timed : Prop) {result : Type} (run other : Run D P σ result) : Prop :=
  ∀ first second, first.Twins timed second → Run.Agree timed (run first) (other second)

/-- What a token needs for a dispatch not to be stopped. -/
structure Session.Permits (session : Session D P σ) (token : Token) : Prop where
  calm : session.world.flags.isCancelled token = false
  timely : token.isExpired session.now = false

private theorem Session.permits_unbounded (session : Session D P σ) :
    session.Permits .unbounded := ⟨rfl, rfl⟩

section Agreement

variable {timed : Prop} {first second : Session D P σ}

theorem Run.Agree.cases {result : Type} {answer another : Option (result × Session D P σ)}
    (agree : Run.Agree timed answer another) :
    (answer = none ∧ another = none) ∨
      ∃ outcome first second, answer = some (outcome, first) ∧ another = some (outcome, second) ∧
        first.Twins timed second := by
  cases agree with
  | spent => exact .inl ⟨rfl, rfl⟩
  | ended twins => exact .inr ⟨_, _, _, rfl, rfl, twins⟩

theorem Run.Agree.andThen {run other next later : Run D P σ (Except Failure Unit)}
    (begins : Run.Agree timed (run first) (other second)) (goes : Run.Agrees timed next later) :
    Run.Agree timed (run.andThen next first) (other.andThen later second) := by
  unfold Run.andThen
  rcases begins.cases with ⟨stopped, stopped_too⟩ | ⟨outcome, reached, reached_too, ended, ended_too, twins⟩
  · simp only [stopped, stopped_too]
    exact .spent
  · simp only [ended, ended_too]
    cases outcome with
    | ok => exact goes _ _ twins
    | error failure => exact .ended twins

/-- Runs that agree still do so after a last step that keeps twins. -/
theorem Run.Agree.map {result final : Type} {answer another : Option (result × Session D P σ)}
    {finish finish_too : result × Session D P σ → final × Session D P σ}
    (agree : Run.Agree timed answer another)
    (keeps : ∀ outcome first second, first.Twins timed second →
      Run.Agree timed (some (finish (outcome, first))) (some (finish_too (outcome, second)))) :
    Run.Agree timed (answer.map finish) (another.map finish_too) := by
  cases agree with
  | spent => exact .spent
  | ended twins => exact keeps _ _ _ twins

theorem Run.Agree.close {drained drained_too : Option (Except Failure Unit × Session D P σ)}
    (agree : Run.Agree timed drained drained_too) :
    Run.Agree timed (drained.map fun (outcome, session) => (outcome, session.close))
      (drained_too.map fun (outcome, session) => (outcome, session.close)) :=
  agree.map fun _ _ _ twins => .ended twins.close

/-- Twins that permit the tokens of a submission find the same target for it. -/
theorem Session.Twins.target_eq (twins : first.Twins timed second) {submission : Submission P}
    {token : Token} (permits : first.Permits submission.token) (permits_too : second.Permits token) :
    second.target { submission with token } = first.target submission := by
  obtain ⟨journal, same, records⟩ := twins.machine
  simp only [target, Token.check, permits.calm, permits.timely, permits_too.calm, permits_too.timely, same,
    Machine.stateName]

section Handled

variable {submit : Submission P → Run D P σ (Except Failure Unit)}
variable (handled : ∀ submission : Submission P, submission.token = .unbounded →
  Run.Agrees timed (submit submission) (submit submission))
include handled

private theorem Program.Timely.run_agrees {role : Role} {program : Program D P σ role}
    (timely : program.Timely timed) :
    Run.Agrees timed (program.run submit .unbounded) (program.run submit .unbounded) := by
  induction timely with
  | done => exact fun first second twins => .ended twins
  | look blind onward ih =>
    intro first second twins
    simp only [Program.run, blind _ _ twins.view_twin]
    exact ih _ rfl _ _ twins.tick
  | share onward ih =>
    rename_i update role next
    intro first second twins
    have twins := twins.share update
    simp only [Program.run, twins.shared]
    exact ih _ _ _ twins
  | read onward ih =>
    intro first second twins
    obtain ⟨journal, same, records⟩ := twins.machine
    simp only [Program.run, same]
    exact ih _ _ _ twins
  | write onward ih => exact fun first second twins => ih _ _ (twins.write _)
  | cancel onward ih => exact fun first second twins => ih _ _ (twins.cancel _)
  | trigger onward ih =>
    rename_i key payload role next
    intro first second twins
    obtain ⟨journal, same, records⟩ := twins.machine
    simp only [Program.run, same]
    cases known : first.machine.table.findEvent key with
    | error failure => exact ih _ _ _ twins
    | ok event =>
      have submits := handled ⟨event, payload, .unbounded⟩ rfl first second twins
      rcases submits.cases with
        ⟨stopped, stopped_too⟩ | ⟨outcome, reached, reached_too, ended, ended_too, twins⟩
      · simp only [stopped, stopped_too]
        exact .spent
      · simp only [ended, ended_too]
        exact ih _ _ _ twins

namespace Session

private theorem act_agrees (submission : Submission P) (token : Token) :
    Run.Agrees timed (act submit submission) (act submit { submission with token }) := by
  intro first second twins
  obtain ⟨journal, same, records⟩ := twins.machine
  cases present : first.machine.callbacks.action? submission.event with
  | none =>
    simp only [act, same, present]
    exact .ended twins
  | some action =>
    have present_too :
        second.machine.callbacks.action? (Submission.event { submission with token }) = some action := by
      rwa [same]
    have timely := twins.timely.action _ _ present submission.payload
    have began := twins.emit
      (rfl : (Event.actionBegan submission.event submission.payload first.machine.current).invocation? = _)
    have runs := timely.run_agrees handled _ _ began
    rw [act_present present, act_present present_too]
    simp only [same, Machine.forwarded, twins.detached]
    exact runs.map fun _ _ _ twins => .ended (twins.emit rfl)

private theorem enter_agrees (token other : Token) :
    Run.Agrees timed (enter submit token) (enter submit other) := by
  intro first second twins
  obtain ⟨journal, same, records⟩ := twins.machine
  cases present : first.machine.callbacks.entry? first.machine.current with
  | none =>
    simp only [enter, same, present]
    exact .ended twins
  | some entry =>
    have present_too : second.machine.callbacks.entry? second.machine.current = some entry := by rwa [same]
    have timely := twins.timely.entry _ _ present first.machine.data
    have began := twins.emit
      (rfl : (Event.entryBegan first.machine.current first.machine.data).invocation? = _)
    have runs := timely.run_agrees handled _ _ began
    rw [enter_present present, enter_present present_too]
    simp only [same, Machine.forwarded, twins.detached]
    exact runs.map fun _ _ _ twins => .ended (twins.emit rfl)

private theorem runCallbacks_agrees (submission : Submission P) (token : Token) :
    Run.Agrees timed (runCallbacks submit submission) (runCallbacks submit { submission with token }) := by
  intro first second twins
  rw [runCallbacks_eq, runCallbacks_eq]
  exact (act_agrees handled submission token _ _ twins).andThen (enter_agrees handled _ _)

/-- The token of a submission counts for nothing but whether it is stopped. -/
theorem dispatch_agree {submission : Submission P} {token : Token} (twins : first.Twins timed second)
    (permits : first.Permits submission.token) (permits_too : second.Permits token) :
    Run.Agree timed (dispatch submit submission first)
      (dispatch submit { submission with token } second) := by
  have found := twins.target_eq permits permits_too
  have dispatched : (first.dispatched submission).Twins timed
      (second.dispatched { submission with token }) := twins.tick.emit rfl
  cases decided : first.target submission with
  | error failure =>
    rw [dispatch_refused decided, dispatch_refused (found.trans decided)]
    exact .ended (dispatched.emit rfl)
  | ok target =>
    have applied := dispatched.apply submission.event target first.now second.now
    have runs := runCallbacks_agrees handled submission token _ _ applied
    rw [dispatch_found decided, dispatch_found (found.trans decided)]
    exact runs.map fun _ _ _ twins => .ended (twins.settle _ _)

omit handled in
private theorem drain_agree_empty {fuel : Nat} (twins : first.Twins timed second)
    (empty : first.machine.pending = []) :
    Run.Agree timed (drain submit fuel first) (drain submit fuel second) := by
  rw [drain_empty empty, drain_empty (twins.pending_eq.trans empty)]
  exact .ended twins

private theorem drain_agrees (fuel : Nat) : Run.Agrees timed (drain submit fuel) (drain submit fuel) := by
  induction fuel with
  | zero =>
    intro first second twins
    cases waiting : first.machine.pending with
    | nil => exact drain_agree_empty twins waiting
    | cons submission rest =>
      rw [drain_spent waiting, drain_spent (twins.pending_eq.trans waiting)]
      exact .spent
  | succ fuel ih =>
    intro first second twins
    cases waiting : first.machine.pending with
    | nil => exact drain_agree_empty twins waiting
    | cons submission rest =>
      rw [drain_first waiting, drain_first (twins.pending_eq.trans waiting)]
      have unbounded := twins.unbounded
      rw [waiting] at unbounded
      obtain ⟨taken, others⟩ := List.forall_mem_cons.mp unbounded
      have permits (session : Session D P σ) : session.Permits submission.token := by
        rw [taken]
        exact session.permits_unbounded
      have dispatches := dispatch_agree handled (twins.dequeue others) (permits _) (permits _)
      exact dispatches.andThen ih

private theorem drain_opened_agree (fuel : Nat) {submission : Submission P} {token : Token}
    (twins : first.Twins timed second) (empty : first.machine.pending = [])
    (permits : first.Permits submission.token) (permits_too : second.Permits token) :
    Run.Agree timed
      (drain submit fuel ((first.enqueue submission).setDraining true))
      (drain submit fuel ((second.enqueue { submission with token }).setDraining true)) := by
  have waiting : ((first.enqueue submission).setDraining true).machine.pending = [submission] := by
    simp [empty]
  have waiting_too : ((second.enqueue { submission with token }).setDraining true).machine.pending =
      [{ submission with token }] := by
    simp [twins.pending_eq, empty]
  cases fuel with
  | zero =>
    rw [drain_spent waiting, drain_spent waiting_too]
    exact .spent
  | succ fuel =>
    rw [drain_first waiting, drain_first waiting_too]
    have taken := twins.opened submission token
    have dispatches := dispatch_agree handled taken ⟨permits.calm, permits.timely⟩
      ⟨permits_too.calm, permits_too.timely⟩
    exact dispatches.andThen (drain_agrees handled fuel)

end Session

end Handled

namespace Session

private theorem submit_deferred_agree {fuel : Nat} {submission : Submission P}
    (twins : first.Twins timed second)
    (mode : first.machine.policy.dispatch = .queued) (draining : first.machine.draining = true)
    (unbounded : submission.token = .unbounded) :
    Run.Agree timed (submit fuel submission first) (submit fuel submission second) := by
  rw [submit_deferred mode draining,
    submit_deferred (twins.policy_eq ▸ mode) (twins.draining_eq.trans draining)]
  exact .ended (twins.defer unbounded)

variable (D P σ timed) in
/-- Without a token a submission fares the same in twins, whether it runs at once or waits. -/
theorem submit_agrees (fuel : Nat) (submission : Submission P) (unbounded : submission.token = .unbounded) :
    Run.Agrees timed (submit fuel submission) (submit fuel submission : Run D P σ _) := by
  induction fuel generalizing submission with
  | zero =>
    intro first second twins
    rcases first.deferring_or_apart with ⟨queued, draining⟩ | apart
    · exact submit_deferred_agree twins queued draining unbounded
    · have apart_too : second.machine.policy.dispatch = .nested ∨ second.machine.draining = false := by
        rwa [twins.policy_eq, twins.draining_eq]
      rw [submit_spent apart, submit_spent apart_too]
      exact .spent
  | succ fuel ih =>
    intro first second twins
    have permits (session : Session D P σ) : session.Permits submission.token := by
      rw [unbounded]
      exact session.permits_unbounded
    cases mode : first.machine.policy.dispatch with
    | nested =>
      rw [submit_nested mode, submit_nested (twins.policy_eq ▸ mode)]
      exact dispatch_agree ih twins (permits first) (permits second)
    | queued =>
      cases draining : first.machine.draining with
      | true => exact submit_deferred_agree twins mode draining unbounded
      | false =>
        rw [submit_queued mode draining,
          submit_queued (twins.policy_eq ▸ mode) (twins.draining_eq.trans draining)]
        have opened := (twins.enqueue unbounded).setDraining true
        exact (drain_agrees ih fuel _ _ opened).close

end Session

end Agreement

/-- The same call without a token. -/
def Call.plain : Call P → Call P
  | .trigger key payload _ => .trigger key payload .unbounded
  | .start _ => .start .unbounded

/-- Whether the token of a call lets its own dispatch pass. A start dispatches nothing itself. -/
def Call.Passes (call : Call P) (session : Session D P σ) : Prop :=
  match call with
  | .trigger _ _ token => session.Permits token
  | .start _ => True

private theorem Call.run_agree {timed : Prop} {first second : Session D P σ} {call : Call P}
    (twins : first.Twins timed second) (quiescent : first.machine.Quiescent) (passes : call.Passes first)
    (fuel : Nat) : Run.Agree timed (call.run fuel first) (call.plain.run fuel second) := by
  have idle := quiescent.draining
  have idle_too := twins.draining_eq.trans idle
  cases call with
  | trigger key payload token =>
    obtain ⟨journal, same, records⟩ := twins.machine
    simp only [plain, run, Session.trigger, same]
    cases known : first.machine.table.findEvent key with
    | error failure => exact .ended twins
    | ok event =>
      have permits_too := second.permits_unbounded
      cases fuel with
      | zero =>
        simp only
        rw [Session.submit_spent (.inr idle), Session.submit_spent (.inr idle_too)]
        exact .spent
      | succ fuel =>
        have handled := Session.submit_agrees D P σ timed fuel
        cases mode : first.machine.policy.dispatch with
        | nested =>
          simp only
          rw [Session.submit_nested mode, Session.submit_nested (twins.policy_eq ▸ mode)]
          exact Session.dispatch_agree handled twins passes permits_too
        | queued =>
          simp only
          rw [Session.submit_queued mode idle, Session.submit_queued (twins.policy_eq ▸ mode) idle_too]
          have permits : first.Permits (Submission.token ⟨event, payload, token⟩) := passes
          have drains := Session.drain_opened_agree handled fuel twins quiescent.pending permits permits_too
          exact drains.close
  | start token =>
    have handled := Session.submit_agrees D P σ timed fuel
    have enters := Session.enter_agrees handled token .unbounded
    simp only [plain, run, Session.start, twins.policy_eq, idle, idle_too]
    cases mode : first.machine.policy.dispatch with
    | nested => exact enters _ _ twins
    | queued =>
      have opened := twins.setDraining true
      exact ((enters _ _ opened).andThen (Session.drain_agrees handled fuel)).close

/-- Until a call dispatches its own submission, nothing happens but that the queue is opened for it. -/
inductive Moment.Opens (session : Session D P σ) (submission : Submission P) : Moment D P σ → Prop where
  | submitted : Opens session submission ⟨.submit submission, [], session⟩
  | opened : Opens session submission
      ⟨.outcome (.ok ()), [.draining], (session.enqueue submission).setDraining true⟩
  | nested : Opens session submission ⟨.dispatch submission, [], session⟩
  | taken : Opens session submission
      ⟨.dispatch submission, [.draining], ((session.enqueue submission).setDraining true).dequeue []⟩

/-- Nothing but tokens that stop nothing is handed on. -/
abbrev Moment.Free (moment : Moment D P σ) : Prop := moment.Hands (fun _ => .unbounded) (· = .unbounded)

section Opening

variable {session : Session D P σ} {submission : Submission P}

theorem Step.opens {before after : Moment D P σ} (step : Step before after)
    (forwarding : session.machine.policy.forwarding = .detach) (quiescent : session.machine.Quiescent)
    (opens : before.Opens session submission) : after.Opens session submission ∨ after.Free := by
  have empty := quiescent.pending
  have forwarded := Machine.forwarded_detach forwarding
  cases opens with
  | submitted =>
    cases step with
    | nest => exact .inl .nested
    | defer queued draining => cases quiescent.draining.symm.trans draining
    | drain => exact .inl .opened
  | opened =>
    cases step with
    | take first =>
      rename_i taken rest
      have same : [submission] = taken :: rest := by simpa [empty] using first
      cases same
      exact .inl .taken
    | close drained => simp at drained
  | nested =>
    -- The dispatch itself still has the token; its callbacks get what is forwarded, which is none.
    cases step with
    | refuse => exact .inr ⟨forwarded, trivial, by simp, by simp [empty]⟩
    | apply => exact .inr ⟨forwarded, rfl, by simp [Frame.Hands], by simp [empty]⟩
  | taken =>
    cases step with
    | refuse => exact .inr ⟨forwarded, trivial, by simp [Frame.Hands], by simp⟩
    | apply => exact .inr ⟨forwarded, rfl, by simp [Frame.Hands], by simp⟩

/-- What is dispatched at the opening is the call's own submission, and nothing has changed for its token. -/
theorem Moment.Opens.dispatching {moment : Moment D P σ} (opens : moment.Opens session submission)
    {other : Submission P} (dispatching : moment.control = .dispatch other) :
    other = submission ∧ (session.Permits other.token → moment.session.Permits other.token) := by
  cases opens with
  | submitted => cases dispatching
  | opened => cases dispatching
  | nested =>
    cases dispatching
    exact ⟨rfl, id⟩
  | taken =>
    cases dispatching
    exact ⟨rfl, fun permits => ⟨permits.calm, permits.timely⟩⟩

theorem Moment.Free.dispatching {moment : Moment D P σ} (free : moment.Free) {other : Submission P}
    (dispatching : moment.control = .dispatch other) : other.token = .unbounded := by
  have unbounded := free.control
  rw [dispatching] at unbounded
  exact unbounded

end Opening

/-- A dispatch whose token lets it pass may fail, but not because of its token. -/
theorem Session.Permits.dispatch {session after : Session D P σ} {submission : Submission P}
    {fuel : Nat} {outcome : Except Failure Unit} (permits : session.Permits submission.token)
    (dispatched : Session.dispatch (submit fuel) submission session = some (outcome, after))
    (label : String) :
    outcome ≠ .error (.cancelled label) ∧ outcome ≠ .error (.deadlineExceeded label) := by
  cases decided : session.target submission with
  | error failure =>
    rw [dispatch_refused decided] at dispatched
    cases dispatched
    cases target_eq_error_iff.mp decided with
    | cancelled raised => cases permits.calm.symm.trans raised
    | late calm expired => cases permits.timely.symm.trans expired
    | deep => simp
    | stuck => simp
  | ok target =>
    simp only [Session.dispatch, decided] at dispatched
    split at dispatched
    · cases dispatched
    · rename_i ran
      cases dispatched
      rcases runCallbacks_blames ran with fine | ⟨failure, failed, cause, blamed⟩
      · simp [fine]
      · rcases blamed with rfl | ⟨state, rfl⟩ <;> simp [failed]

section Call

variable {call : Call P} {session : Session D P σ} {moment : Moment D P σ}
variable (forwarding : session.machine.policy.forwarding = .detach) (quiescent : session.machine.Quiescent)
variable (passes : call.Passes session)
include forwarding quiescent passes

private theorem Call.moment_opens :
    (∃ submission, session.Permits submission.token ∧ (call.moment session).Opens session submission) ∨
      (call.moment session).Free := by
  have forwarded := Machine.forwarded_detach forwarding
  have empty := quiescent.pending
  cases call with
  | trigger key payload token =>
    cases known : session.machine.table.findEvent key with
    | error failure =>
      simp only [moment, known]
      exact .inr ⟨forwarded, trivial, by simp, by simp [empty]⟩
    | ok event =>
      simp only [moment, known]
      exact .inl ⟨⟨event, payload, token⟩, passes, .submitted⟩
  | start token =>
    cases mode : session.machine.policy.dispatch with
    | nested =>
      simp only [moment, mode]
      exact .inr ⟨forwarded, rfl, by simp, by simp [empty]⟩
    | queued =>
      simp only [moment, mode, quiescent.draining]
      exact .inr ⟨forwarded, rfl, by simp [Frame.Hands], by simp [empty]⟩

private theorem Call.opens_or_free (reached : Steps (call.moment session) moment) :
    (∃ submission, session.Permits submission.token ∧ moment.Opens session submission) ∨
      moment.Free := by
  induction reached with
  | refl => exact call.moment_opens forwarding quiescent passes
  | tail _ step ih =>
    rcases ih with ⟨submission, permits, opens⟩ | free
    · rcases step.opens forwarding quiescent opens with opens | free
      · exact .inl ⟨submission, permits, opens⟩
      · exact .inr free
    · have closed : ∀ token : Token, token = .unbounded → Token.unbounded = .unbounded := fun _ _ => rfl
      exact .inr (step.hands closed free)

/-- Whatever is dispatched during a call is its own submission, or has no token; and it may pass. -/
theorem Call.permits (reached : Steps (call.moment session) moment) {submission : Submission P}
    (dispatching : moment.control = .dispatch submission) :
    (moment.Opens session submission ∨ submission.token = .unbounded) ∧
      moment.session.Permits submission.token := by
  rcases call.opens_or_free forwarding quiescent passes reached with ⟨own, permits, opens⟩ | free
  · obtain ⟨rfl, passing⟩ := opens.dispatching dispatching
    exact ⟨.inl opens, passing permits⟩
  · have unbounded := free.dispatching dispatching
    refine ⟨.inr unbounded, ?_⟩
    rw [unbounded]
    exact moment.session.permits_unbounded

end Call

/-- What is the same about two sessions in the end, but for the time. -/
structure Session.EndsAs (first second : Session D P σ) : Prop where
  current : second.machine.current = first.machine.current
  data : second.machine.data = first.machine.data
  history : second.machine.journal.transitions.map Transition.timeless =
    first.machine.journal.transitions.map Transition.timeless
  invocations : invocations second.world.trace = invocations first.world.trace

theorem Session.Twins.endsAs {timed : Prop} {first second : Session D P σ}
    (twins : first.Twins timed second) : first.EndsAs second := by
  obtain ⟨journal, same, records⟩ := twins.machine
  exact ⟨by rw [same], by rw [same], by rw [same, records], twins.invocations⟩

/-- If no token is handed on, then whatever a call dispatches after its own submission has no token, and no
dispatch is stopped by one, provided that the call's own one may pass. The call returns if and only if it
does so without a token, with the same outcome, and state, data, history and callbacks run are then the
same, but for the time. This takes the same clock, or callbacks that do not look at it. -/
theorem detached_call_ignores_token {machine : Machine D P σ} {world : World D P σ} {call : Call P}
    {clock : Nat → Instant} {readings : Nat} (forwarding : machine.policy.forwarding = .detach)
    (quiescent : machine.Quiescent) (passes : call.Passes ⟨machine, world⟩)
    (times : clock = world.clock ∧ readings = world.readings ∨ machine.callbacks.Timeless) :
    (∀ moment submission, Steps (call.moment ⟨machine, world⟩) moment →
      moment.control = .dispatch submission →
      (moment.Opens ⟨machine, world⟩ submission ∨ submission.token = .unbounded) ∧
      ∀ fuel outcome after,
        Session.dispatch (Session.submit fuel) submission moment.session = some (outcome, after) →
        ∀ label, outcome ≠ .error (.cancelled label) ∧ outcome ≠ .error (.deadlineExceeded label)) ∧
    (∀ outcome after, call.Returns ⟨machine, world⟩ outcome after →
      ∃ other, call.plain.Returns ⟨machine, { world with clock, readings }⟩ outcome other ∧
        after.EndsAs other) ∧
    ∀ outcome other, call.plain.Returns ⟨machine, { world with clock, readings }⟩ outcome other →
      ∃ after, call.Returns ⟨machine, world⟩ outcome after ∧ after.EndsAs other := by
  have twins (timed : Prop) (timely : machine.callbacks.Timely timed)
      (clocks : timed → clock = world.clock ∧ readings = world.readings) :
      Session.Twins timed ⟨machine, world⟩ ⟨machine, { world with clock, readings }⟩ :=
    { machine := ⟨machine.journal, rfl, rfl⟩, timely := timely, detached := forwarding
      unbounded := by simp [quiescent.pending], flags := rfl, shared := rfl, invocations := rfl
      clock := clocks }
  -- With one clock for both runs the time may count; with two clocks it must not.
  obtain ⟨timed, alike⟩ : ∃ timed,
      Session.Twins timed ⟨machine, world⟩ ⟨machine, { world with clock, readings }⟩ := by
    rcases times with same | timeless
    · exact ⟨True, twins True (machine.callbacks.timely_of_timed trivial) fun _ => same⟩
    · exact ⟨False, twins False timeless False.elim⟩
  have agree := Call.run_agree alike quiescent passes
  refine ⟨fun moment submission reached dispatching => ?_, fun outcome after returned => ?_,
    fun outcome other returned => ?_⟩
  · obtain ⟨known, permits⟩ := call.permits forwarding quiescent passes reached dispatching
    exact ⟨known, fun fuel outcome after dispatched => permits.dispatch dispatched⟩
  · obtain ⟨fuel, ran⟩ := returned
    rcases (agree fuel).cases with ⟨stopped, _⟩ | ⟨result, first, second, ended, ended_too, twins⟩
    · cases stopped.symm.trans ran
    · cases ended.symm.trans ran
      exact ⟨second, ⟨fuel, ended_too⟩, twins.endsAs⟩
  · obtain ⟨fuel, ran⟩ := returned
    rcases (agree fuel).cases with ⟨_, stopped⟩ | ⟨result, first, second, ended, ended_too, twins⟩
    · cases stopped.symm.trans ran
    · cases ended_too.symm.trans ran
      exact ⟨first, ⟨fuel, ended⟩, twins.endsAs⟩

/-- An action cancels the token of the call that runs it. The trigger that the entry makes after it is
dispatched all the same, and fails for a reason of its own, as it does without a token. -/
theorem detached_call_outlives_token :
    ∃ outcome after other,
      Call.Returns (.trigger (.name "run") () Sample.token)
        (Sample.withdrawing { forwarding := .detach }) outcome after ∧
      Call.Returns (.trigger (.name "run") () .unbounded)
        (Sample.withdrawing { forwarding := .detach }) outcome other ∧
      after.EndsAs other ∧ after.world.flags.isCancelled Sample.token = true ∧
      outcome = .error (.callback (.entry "running")
        (.failure (.callback (.action "finish") (.foreign "too late")))) ∧
      other.machine.current = ⟨2⟩ := by
  have quiescent : (Sample.withdrawing { forwarding := .detach }).machine.Quiescent := ⟨rfl, rfl, rfl⟩
  have passes : Call.Passes (.trigger (.name "run") () Sample.token)
      (Sample.withdrawing { forwarding := .detach }) := ⟨rfl, rfl⟩
  obtain ⟨_, forth, _⟩ := detached_call_ignores_token rfl quiescent passes (.inl ⟨rfl, rfl⟩)
  obtain ⟨other, returned, same⟩ := forth _ _ ⟨3, rfl⟩
  exact ⟨_, _, other, ⟨3, rfl⟩, returned, same, rfl, rfl, same.current⟩

end StateMachine
