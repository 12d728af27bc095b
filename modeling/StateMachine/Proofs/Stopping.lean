import StateMachine.Proofs.Forwarding
import StateMachine.Proofs.Journey
import StateMachine.Proofs.Refusal
import StateMachine.Proofs.Sample
import StateMachine.Proofs.TailTrigger

/-!
Tokens that stop a call. If tokens are propagated, then every dispatch of a call is checked against the
token of the call; and once this token has been cancelled, or is late, the machine stays in its state,
and every further dispatch is refused.
-/
namespace StateMachine

variable {D P σ : Type}

/-- The clock never goes back. -/
def World.Rising (world : World D P σ) : Prop :=
  ∀ first last, first ≤ last → world.clock first ≤ world.clock last

/-- A deadline that has passed stays so. -/
theorem Token.isExpired_of_le {token : Token} {first last : Instant} (before : first ≤ last)
    (expired : token.isExpired first = true) : token.isExpired last = true := by
  cases deadline : token.deadline with
  | none => simp [isExpired, deadline] at expired
  | some deadline_of =>
    simp only [isExpired, deadline, Option.any_some, decide_eq_true_eq] at expired ⊢
    exact Instant.le_trans expired before

theorem Flags.isCancelled_cancel {flags : Flags} {token : Token} (other : Token)
    (raised : flags.isCancelled token = true) : (flags.cancel other).isCancelled token = true := by
  cases flag : token.flag with
  | none => simp [isCancelled, flag] at raised
  | some flag_of =>
    cases own : other.flag with
    | none => simpa [cancel, own] using raised
    | some raised_too =>
      simp only [isCancelled, flag, Option.any_some, List.contains_iff_mem] at raised
      simp [isCancelled, cancel, own, flag, raised]

/-- No step lowers a flag or turns back the clock. -/
structure World.Onward (before after : World D P σ) : Prop where
  raised : ∀ token, before.flags.isCancelled token = true → after.flags.isCancelled token = true
  clock : after.clock = before.clock
  readings : before.readings ≤ after.readings

theorem World.Onward.trans {first second third : World D P σ} (begins : first.Onward second)
    (goes : second.Onward third) : first.Onward third :=
  ⟨fun token raised => goes.raised token (begins.raised token raised), goes.clock.trans begins.clock,
    Nat.le_trans begins.readings goes.readings⟩

theorem Step.onward {before after : Moment D P σ} (step : Step before after) :
    before.session.world.Onward after.session.world := by
  cases step with
  | cancel => exact ⟨fun _ raised => Flags.isCancelled_cancel _ raised, rfl, Nat.le_refl _⟩
  | refuse | apply | look => exact ⟨fun _ raised => raised, rfl, Nat.le_succ _⟩
  | close | abandon => exact ⟨by simp, by simp, by simp⟩
  | _ => exact ⟨fun _ raised => raised, rfl, Nat.le_refl _⟩

theorem Steps.onward {before after : Moment D P σ} (steps : Steps before after) :
    before.session.world.Onward after.session.world := by
  induction steps with
  | refl => exact ⟨fun _ raised => raised, rfl, Nat.le_refl _⟩
  | tail _ step ih => exact ih.trans step.onward

theorem World.Onward.expired {before after : World D P σ} (onward : before.Onward after)
    (rising : before.Rising) {token : Token}
    (expired : token.isExpired (before.clock before.readings) = true) :
    token.isExpired (after.clock after.readings) = true := by
  rw [onward.clock]
  exact Token.isExpired_of_le (rising _ _ onward.readings) expired

/-- When a token has come to stop a call: it has been cancelled; or its deadline has passed, on a clock that
never goes back. -/
inductive Moment.Stops (token : Token) (moment : Moment D P σ) : Prop where
  | cancelled (raised : moment.session.world.flags.isCancelled token = true)
  | late (rising : moment.session.world.Rising) (expired : token.isExpired moment.session.now = true)

/-- Where the action of a transition is about to begin, nothing stood against the transition. -/
def Moment.Clear (token : Token) (moment : Moment D P σ) : Prop :=
  ∀ submission, moment.control = .act submission →
    moment.session.world.flags.isCancelled token = false ∧
    (moment.session.world.Rising → ∀ reading < moment.session.world.readings,
      token.isExpired (moment.session.world.clock reading) = false)

theorem Step.clear {token : Token} {forward : Token → Token} {before after : Moment D P σ}
    (step : Step before after) (hands : before.Hands forward (· = token)) : after.Clear token := by
  intro submission acting
  cases step with
  | apply found =>
    cases acting
    have acceptance := Session.target_eq_ok_iff.mp found
    have own : submission.token = token := hands.control
    rw [← own]
    refine ⟨acceptance.calm, fun rising reading earlier => ?_⟩
    rw [Bool.eq_false_iff]
    intro expired
    have late := Token.isExpired_of_le (rising _ _ (Nat.le_of_lt_succ earlier)) expired
    exact absurd late (Bool.eq_false_iff.mp acceptance.timely)
  | _ => cases acting

/-- How a token that stops a dispatch fails it. Being cancelled comes before being late. -/
def Session.stopFailure (session : Session D P σ) (token : Token) (event : EventId) : Failure :=
  let label := session.machine.table.eventLabel event
  if session.world.flags.isCancelled token then .cancelled label else .deadlineExceeded label

theorem Moment.Stops.target_eq {token : Token} {moment : Moment D P σ} (stops : moment.Stops token)
    {submission : Submission P} (own : submission.token = token) :
    moment.session.target submission =
      .error (moment.session.stopFailure token submission.event) := by
  subst own
  cases raised : moment.session.world.flags.isCancelled submission.token with
  | true =>
    simp only [Session.stopFailure, raised, if_true]
    exact (Session.Refusal.cancelled raised).target_eq
  | false =>
    cases stops with
    | cancelled impossible => cases raised.symm.trans impossible
    | late _ expired =>
      simp only [Session.stopFailure, raised, Bool.false_eq_true, if_false]
      exact (Session.Refusal.late raised expired).target_eq

theorem Step.stops {token : Token} {before after : Moment D P σ} (step : Step before after)
    (stops : before.Stops token) : after.Stops token := by
  have onward := step.onward
  cases stops with
  | cancelled raised => exact .cancelled (onward.raised token raised)
  | late rising expired =>
    refine .late ?_ (onward.expired rising expired)
    rw [World.Rising, onward.clock]
    exact rising

/-- Whether an event moves the machine on: a transition is applied, or an action begins. -/
def Event.advances : Event D P → Bool
  | .applied _ | .actionBegan _ _ _ => true
  | _ => false

/-- From one moment to another one the machine stays where it is, and no action begins but for one that was
about to. -/
structure Moment.Halted (before after : Moment D P σ) : Prop where
  trace : after.session.world.trace.filter Event.advances =
      before.session.world.trace.filter Event.advances ∨
    ∃ submission, before.control = .act submission ∧
      after.session.world.trace.filter Event.advances =
        before.session.world.trace.filter Event.advances ++
          [.actionBegan submission.event submission.payload before.session.machine.current]
  current : after.session.machine.current = before.session.machine.current
  journal : after.session.machine.journal = before.session.machine.journal

private theorem Step.halted {token : Token} {forward : Token → Token} {before after : Moment D P σ}
    (step : Step before after) (hands : before.Hands forward (· = token)) (stops : before.Stops token) :
    before.Halted after ∧ ∀ submission, after.control ≠ .act submission := by
  cases step with
  | apply found =>
    -- A dispatch with the token of the call is refused now, so nothing is applied.
    have refused := stops.target_eq hands.control
    cases refused.symm.trans found
  | beginAction present => exact ⟨⟨.inr ⟨_, rfl, by simp [Event.advances]⟩, rfl, rfl⟩, nofun⟩
  | close empty => exact ⟨⟨.inl (by simp [Session.trace_close, empty]), by simp, by simp⟩, nofun⟩
  | abandon =>
    rename_i stack session failure
    refine ⟨⟨.inl ?_, by simp, by simp⟩, nofun⟩
    by_cases empty : session.machine.pending = [] <;> simp [Session.trace_close, empty, Event.advances]
  | _ => exact ⟨⟨.inl (by simp [Event.advances]), by simp, by simp⟩, nofun⟩

/-- Only the first step can begin an action. -/
theorem Steps.halted {token : Token} {forward : Token → Token} {before after : Moment D P σ}
    (closed : ∀ other, other = token → forward other = token) (steps : Steps before after)
    (hands : before.Hands forward (· = token)) (stops : before.Stops token) :
    after.Stops token ∧ before.Halted after ∧
      (after = before ∨ ∀ submission, after.control ≠ .act submission) := by
  induction steps with
  | refl => exact ⟨stops, ⟨.inl rfl, rfl, rfl⟩, .inl rfl⟩
  | tail steps step ih =>
    obtain ⟨stops, halted, first⟩ := ih
    obtain ⟨next, idle⟩ := step.halted (Steps.hands closed steps hands) stops
    refine ⟨step.stops stops, ?_, .inr idle⟩
    rcases first with rfl | quiet
    · exact next
    · have trace := next.trace.resolve_right fun ⟨submission, acting, _⟩ => quiet submission acting
      exact ⟨by rw [trace]; exact halted.trace, next.current.trans halted.current,
        next.journal.trans halted.journal⟩

/-- An action that is about to begin, although the deadline has passed: its transition was applied in time,
and no reading of the clock has shown the deadline since. -/
structure Moment.Overtaken (token : Token) (moment : Moment D P σ) (submission : Submission P) : Prop where
  acting : moment.control = .act submission
  calm : moment.session.world.flags.isCancelled token = false
  timely : ∀ reading < moment.session.world.readings,
    token.isExpired (moment.session.world.clock reading) = false

/-- What the token of a call comes to at a later moment once it stops the call: nothing has moved the
machine on since, but for an action that the deadline has overtaken, and a dispatch is refused and leaves
the machine as it is. -/
structure Moment.Stopped (token : Token) (moment later : Moment D P σ) : Prop where
  trace : ∃ events, later.session.world.trace = moment.session.world.trace ++ events ∧
    (events.filter Event.advances = [] ∨ ∃ submission, moment.Overtaken token submission ∧
      events.filter Event.advances =
        [.actionBegan submission.event submission.payload moment.session.machine.current])
  current : later.session.machine.current = moment.session.machine.current
  journal : later.session.machine.journal = moment.session.machine.journal
  raised : moment.session.world.flags.isCancelled token = true →
    later.session.world.flags.isCancelled token = true
  refuses : ∀ submission, later.control = .dispatch submission →
    ∀ submit : Submission P → Run D P σ (Except Failure Unit), ∃ after,
      Session.dispatch submit submission later.session =
        some (.error (later.session.stopFailure token submission.event), after) ∧
      after.machine = later.session.machine

private theorem Moment.Stops.overtaken {token : Token} {moment : Moment D P σ} (stops : moment.Stops token)
    (clear : moment.Clear token) {submission : Submission P} (acting : moment.control = .act submission) :
    moment.Overtaken token submission := by
  obtain ⟨calm, timely⟩ := clear submission acting
  cases stops with
  | cancelled raised => cases raised.symm.trans calm
  | late rising _ => exact ⟨acting, calm, timely rising⟩

theorem Moment.Stops.stopped {token : Token} {forward : Token → Token} {moment later : Moment D P σ}
    (closed : ∀ other, other = token → forward other = token) (steps : Steps moment later)
    (hands : moment.Hands forward (· = token)) (clear : moment.Clear token) (stops : moment.Stops token) :
    moment.Stopped token later := by
  obtain ⟨stops_later, halted, _⟩ := steps.halted closed hands stops
  obtain ⟨events, follows⟩ := steps.follows
  refine ⟨⟨events, follows.trace, ?_⟩, halted.current, halted.journal, steps.onward.raised token,
    fun submission dispatching submit => ?_⟩
  · have moved := halted.trace
    simp only [follows.trace, List.filter_append, List.append_right_eq_self, List.append_cancel_left_eq]
      at moved
    exact moved.imp_right fun ⟨submission, acting, begun⟩ =>
      ⟨submission, stops.overtaken clear acting, begun⟩
  · have control := (steps.hands closed hands).control
    rw [dispatching] at control
    exact ⟨_, Session.dispatch_refused (stops_later.target_eq control), rfl⟩

private theorem Session.target_of_check {session : Session D P σ} {submission : Submission P}
    {failure : Failure}
    (checked : submission.token.check session.world.flags session.now
      (session.machine.table.eventLabel submission.event) = .error failure) :
    session.target submission = .error failure := by
  simp only [target, checked]
  rfl

/-- A call begins with a failure, or with its own token. -/
theorem Call.moment_token (call : Call P) (session : Session D P σ) :
    ((∃ failure, (call.moment session).control = .outcome (.error failure)) ∨
      (∃ event payload, (call.moment session).control = .submit ⟨event, payload, call.token⟩) ∨
      (call.moment session).control = .enter call.token) ∧
    ∀ frame ∈ (call.moment session).stack, frame = .draining := by
  cases call with
  | trigger key payload token =>
    cases known : session.machine.table.findEvent key with
    | error failure =>
      simp only [moment, known]
      exact ⟨.inl ⟨failure, rfl⟩, by simp⟩
    | ok event =>
      simp only [moment, known]
      exact ⟨.inr (.inl ⟨event, payload, rfl⟩), by simp⟩
  | start token =>
    cases mode : session.machine.policy.dispatch with
    | nested =>
      simp only [moment, mode]
      exact ⟨.inr (.inr rfl), by simp⟩
    | queued =>
      cases draining : session.machine.draining with
      | true =>
        simp only [moment, mode, draining]
        exact ⟨.inr (.inr rfl), by simp⟩
      | false =>
        simp only [moment, mode, draining]
        exact ⟨.inr (.inr rfl), by simp⟩

/-- What holds of the token of a call, and of whatever is forwarded, holds of all that it begins with. -/
theorem Call.moment_hands_good (call : Call P) (session : Session D P σ) {good : Token → Prop}
    (closed : ∀ token, good token → good (session.machine.forwarded token)) (own : good call.token)
    (quiescent : session.machine.Quiescent) :
    (call.moment session).Hands session.machine.forwarded good := by
  obtain ⟨control, stack⟩ := call.moment_token session
  obtain ⟨draining, machine⟩ := call.moment_machine session
  refine ⟨(call.moment_setup session).forwarded, ?_, fun frame member => ?_, ?_⟩
  · rcases control with ⟨failure, same⟩ | ⟨event, payload, same⟩ | same <;> rw [same]
    · trivial
    · exact own
    · exact closed _ own
  · rw [stack frame member]
    trivial
  · rw [machine]
    simp [Machine.drainingAs, quiescent.pending]

private theorem Call.moment_hands {call : Call P} {session : Session D P σ}
    (forwarding : session.machine.policy.forwarding = .propagate) (quiescent : session.machine.Quiescent) :
    (call.moment session).Hands id (· = call.token) := by
  rw [← Machine.forwarded_propagate forwarding]
  refine call.moment_hands_good session (fun token own => ?_) rfl quiescent
  rw [Machine.forwarded_propagate forwarding]
  exact own

private theorem Call.moment_clear (call : Call P) (session : Session D P σ) (token : Token) :
    (call.moment session).Clear token := by
  intro submission acting
  rcases (call.moment_token session).1 with ⟨failure, same⟩ | ⟨event, payload, same⟩ | same <;>
    cases same.symm.trans acting

private theorem Sample.ticking_rising (policy : Policy) : (Sample.ticking policy).world.Rising := by
  intro first last before
  rcases Nat.lt_or_eq_of_le before with below | rfl
  · exact .inl (Int.ofNat_lt.mpr below)
  · exact .inr ⟨rfl, Nat.le_refl _⟩

end StateMachine
