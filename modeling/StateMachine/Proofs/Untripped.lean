import StateMachine.Proofs.Adequacy
import StateMachine.Proofs.Detachment
import StateMachine.Proofs.Stopping

/-!
Limits that nothing runs into. A call under which no dispatch is rejected for its depth goes on in the same
way, step by step, if the limit is raised or lifted.
-/
namespace StateMachine

variable {D P σ : Type}

/-- Two views at different times, before or after which their token does not expire. Where the time counts
it is the same. -/
structure View.Retimed (timed : Prop) (view other : View) : Prop where
  table : view.table = other.table
  state : view.state = other.state
  depth : view.depth = other.depth
  token : view.token = other.token
  cancelled : view.cancelled = other.cancelled
  expired : view.expired = other.expired
  now : timed → view.now = other.now

theorem View.Retimed.eq {timed : Prop} {view other : View} (retimed : View.Retimed timed view other)
    (counts : timed) : view = other := by
  cases view
  cases other
  obtain ⟨rfl, rfl, rfl, rfl, rfl, _, now⟩ := retimed
  cases now counts
  rfl

section Respects

variable (alike : View → View → Prop)

/-- Programs that go on in the same way on views that are alike. -/
inductive Program.Respects : {role : Role} → Program D P σ role → Prop where
  | done {role : Role} {result : Except Cause Unit} : Respects (.done result : Program D P σ role)
  | look {role : Role} {next : View → Program D P σ role}
      (blind : ∀ view other, alike view other → next view = next other)
      (onward : ∀ view, Respects (next view)) : Respects (.look next)
  | share {role : Role} {next : σ → Program D P σ role} (onward : ∀ shared, Respects (next shared)) :
      Respects (.share update next)
  | read {next : D → Program D P σ .action} (onward : ∀ data, Respects (next data)) : Respects (.read next)
  | write {next : Program D P σ .action} (onward : Respects next) : Respects (.write update next)
  | cancel {role : Role} {next : Program D P σ role} (onward : Respects next) :
      Respects (.cancel flagged next)
  | trigger {role : Role} {next : Except Failure Unit → Program D P σ role}
      (onward : ∀ outcome, Respects (next outcome)) : Respects (.trigger key payload next)

structure Callbacks.Respects (callbacks : Callbacks (Action D P σ) (Entry D P σ)) : Prop where
  action : ∀ event action, callbacks.action? event = some action →
    ∀ payload, (action payload).Respects alike
  entry : ∀ state entry, callbacks.entry? state = some entry → ∀ data, (entry data).Respects alike

def Control.Respects : Control D P σ → Prop
  | .callback _ _ program => program.Respects alike
  | _ => True

def Frame.Respects : Frame D P σ → Prop
  | .waiting _ _ next => ∀ outcome, (next outcome).Respects alike
  | .settling _ | .draining => True

/-- Whatever is run, and whatever waits, goes on in the same way on views that are alike. -/
structure Moment.Respects (moment : Moment D P σ) : Prop where
  callbacks : moment.session.machine.callbacks.Respects alike
  control : moment.control.Respects alike
  stack : ∀ frame ∈ moment.stack, frame.Respects alike

end Respects

variable {alike : View → View → Prop}

private theorem Program.respects_of_eq (same : ∀ view other, alike view other → view = other) {role : Role}
    (program : Program D P σ role) : program.Respects alike := by
  induction program with
  | done => exact .done
  | look next ih => exact .look (fun view other like => congrArg next (same view other like)) ih
  | share update next ih => exact .share ih
  | read next ih => exact .read ih
  | write update next ih => exact .write ih
  | cancel flagged next ih => exact .cancel ih
  | trigger key payload next ih => exact .trigger ih

private theorem Callbacks.respects_of_eq (same : ∀ view other, alike view other → view = other)
    (callbacks : Callbacks (Action D P σ) (Entry D P σ)) : callbacks.Respects alike :=
  ⟨fun _ action _ payload => (action payload).respects_of_eq same,
    fun _ entry _ data => (entry data).respects_of_eq same⟩

private theorem Step.respects {before after : Moment D P σ} (step : Step before after)
    (respects : before.Respects alike) : after.Respects alike := by
  have callbacks : after.session.machine.callbacks.Respects alike := by
    rw [step.setup.callbacks]
    exact respects.callbacks
  obtain ⟨known, control, stack⟩ := respects
  cases step with
  | drain | apply => exact ⟨callbacks, trivial, List.forall_mem_cons.mpr ⟨trivial, stack⟩⟩
  | beginAction present => exact ⟨callbacks, known.action _ _ present _, stack⟩
  | beginEntry present => exact ⟨callbacks, known.entry _ _ present _, stack⟩
  | look =>
    cases control with
    | look blind onward => exact ⟨callbacks, onward _, stack⟩
  | share =>
    cases control with
    | share onward => exact ⟨callbacks, onward _, stack⟩
  | read =>
    cases control with
    | read onward => exact ⟨callbacks, onward _, stack⟩
  | write =>
    cases control with
    | write onward => exact ⟨callbacks, onward, stack⟩
  | cancel =>
    cases control with
    | cancel onward => exact ⟨callbacks, onward, stack⟩
  | misname unknown =>
    cases control with
    | trigger onward => exact ⟨callbacks, onward _, stack⟩
  | trigger known =>
    cases control with
    | trigger onward => exact ⟨callbacks, trivial, List.forall_mem_cons.mpr ⟨onward, stack⟩⟩
  | resume =>
    obtain ⟨first, rest⟩ := List.forall_mem_cons.mp stack
    exact ⟨callbacks, first _, rest⟩
  | settle | close | abandon => exact ⟨callbacks, trivial, (List.forall_mem_cons.mp stack).2⟩
  | _ => exact ⟨callbacks, trivial, stack⟩

private theorem Steps.respects {before after : Moment D P σ} (steps : Steps before after)
    (respects : before.Respects alike) : after.Respects alike := by
  induction steps with
  | refl => exact respects
  | tail _ step ih => exact step.respects ih

/-- Whether a token has expired is the same by two clocks, unless they are one and the same anyway. -/
def Token.Even (timed : Prop) (early late : Nat → Instant) (token : Token) : Prop :=
  timed ∨ token.Steady early late

/-- Two machines, the second of which has a looser limit or none, and has recorded other times. -/
structure Machine.Relaxed (wider : Option Nat) (first second : Machine D P σ) : Prop where
  same : ∃ journal, second =
      { first with policy := { first.policy with maxDepth := wider }, journal } ∧
    first.journal.transitions.map Transition.timeless = journal.transitions.map Transition.timeless
  looser : ∀ bound, wider = some bound → ∃ limit, first.policy.maxDepth = some limit ∧ limit ≤ bound

/-- Two worlds that differ in what is reported, apart from the callbacks that are run, and in the time only
where it does not count. -/
structure World.Retimed (timed : Prop) (early late : Nat → Instant) (first second : World D P σ) :
    Prop where
  flags : second.flags = first.flags
  shared : second.shared = first.shared
  invocations : invocations second.trace = invocations first.trace
  clock : first.clock = early
  clock_too : second.clock = late
  together : timed → early = late ∧ first.readings = second.readings

structure Session.Relaxed (timed : Prop) (early late : Nat → Instant) (wider : Option Nat)
    (first second : Session D P σ) : Prop where
  machine : first.machine.Relaxed wider second.machine
  world : first.world.Retimed timed early late second.world

section Relaxed

variable {timed : Prop} {early late : Nat → Instant} {wider : Option Nat}

private theorem World.Retimed.isExpired_eq {first second : World D P σ}
    (retimed : first.Retimed timed early late second) {token : Token} (even : token.Even timed early late) :
    token.isExpired (second.clock second.readings) = token.isExpired (first.clock first.readings) := by
  rw [retimed.clock, retimed.clock_too]
  rcases even with counts | steady
  · obtain ⟨same, readings⟩ := retimed.together counts
    rw [same, readings]
  · exact (steady _ _).symm

theorem World.Retimed.tick {first second : Session D P σ}
    (retimed : first.world.Retimed timed early late second.world) :
    first.tick.world.Retimed timed early late second.tick.world :=
  { retimed with
    together := fun counts =>
      ⟨(retimed.together counts).1, congrArg (· + 1) (retimed.together counts).2⟩ }

/-- Whatever is reported, callbacks begin in both worlds. -/
theorem World.Retimed.emit {first second : Session D P σ}
    (retimed : first.world.Retimed timed early late second.world) {event another : Event D P}
    (same : another.invocation? = event.invocation?) :
    (first.emit event).world.Retimed timed early late (second.emit another).world :=
  { retimed with
    invocations := by simp only [Session.trace_emit, invocations_snoc, retimed.invocations, same] }

theorem World.Retimed.cancel {first second : Session D P σ}
    (retimed : first.world.Retimed timed early late second.world) (token : Token) :
    (first.cancel token).world.Retimed timed early late (second.cancel token).world :=
  { retimed with
    flags := congrArg (Flags.cancel · token) retimed.flags
    invocations := by simp only [Session.trace_cancel, invocations_snoc, retimed.invocations] }

theorem World.Retimed.close {first second : Session D P σ}
    (retimed : first.world.Retimed timed early late second.world) :
    first.close.world.Retimed timed early late second.close.world := by
  refine ⟨?_, ?_, ?_, ?_, ?_, ?_⟩
  · simp [retimed.flags]
  · simp [retimed.shared]
  · simp [Session.invocations_close, retimed.invocations]
  · simp [retimed.clock]
  · simp [retimed.clock_too]
  · intro counts
    simpa using retimed.together counts

namespace Session.Relaxed

variable {first second : Session D P σ} (relaxed : first.Relaxed timed early late wider second)
include relaxed

private theorem view_retimed {token : Token} (even : token.Even timed early late) :
    View.Retimed timed (first.view token) (second.view token) := by
  obtain ⟨⟨journal, same, records⟩, _⟩ := relaxed.machine
  have expired := relaxed.world.isExpired_eq even
  refine ⟨by simp [view, same], by simp [view, same], by simp [view, same], rfl, ?_, expired.symm, ?_⟩
  · simp [view, relaxed.world.flags]
  · intro counts
    obtain ⟨alike, readings⟩ := relaxed.world.together counts
    simp [view, now, relaxed.world.clock, relaxed.world.clock_too, alike, readings]

/-- A submission that is not rejected for its depth finds the same target, or is refused for the same
reason. -/
theorem target_eq {submission : Submission P} (even : submission.token.Even timed early late)
    (untripped : ∀ event bound, first.target submission ≠ .error (.depthExceeded event bound)) :
    second.target submission = first.target submission := by
  obtain ⟨⟨journal, same, records⟩, looser⟩ := relaxed.machine
  have expired := relaxed.world.isExpired_eq even
  have flags := relaxed.world.flags
  have label : second.machine.table = first.machine.table := by rw [same]
  have state : second.machine.stateName = first.machine.stateName := by rw [same]; rfl
  have current : second.machine.current = first.machine.current := by rw [same]
  have shallow_too (shallow : ∀ limit, first.machine.policy.maxDepth = some limit →
      first.machine.depth ≤ limit) (bound : Nat) (set : second.machine.policy.maxDepth = some bound) :
      second.machine.depth ≤ bound := by
    rw [same] at set ⊢
    obtain ⟨limit, limited, below⟩ := looser bound set
    exact Nat.le_trans (shallow limit limited) below
  rcases first.refusal_or_acceptance submission with ⟨failure, refusal⟩ | ⟨target, acceptance⟩
  · rw [refusal.target_eq, target_eq_error_iff]
    cases refusal with
    | cancelled raised =>
      rw [← label]
      exact .cancelled (by rw [flags, raised])
    | late calm timeout =>
      rw [← label]
      exact .late (by rw [flags, calm]) (expired.trans timeout)
    | deep calm timely limited exceeded =>
      exact absurd (Refusal.deep calm timely limited exceeded).target_eq (untripped _ _)
    | stuck calm timely shallow own wildcard =>
      rw [← label, ← state]
      exact .stuck (by rw [flags, calm]) (expired.trans timely) (shallow_too shallow)
        (by rw [label, current, own]) (by rw [label, wildcard])
  · rw [acceptance.target_eq, target_eq_ok_iff]
    exact ⟨by rw [flags, acceptance.calm], expired.trans acceptance.timely,
      shallow_too acceptance.shallow, by rw [label, current, acceptance.resolved]⟩

end Session.Relaxed

/-- A step that does not reject a dispatch for its depth can be made under the looser limit as well. -/
theorem Step.relaxed {forward : Token → Token} {before after : Moment D P σ} (step : Step before after)
    {second : Session D P σ} (relaxed : before.session.Relaxed timed early late wider second)
    (hands : before.Hands forward (Token.Even timed early late))
    (respects : before.Respects (View.Retimed timed))
    (untripped : ∀ submission, before.control = .dispatch submission →
      ∀ event bound, before.session.target submission ≠ .error (.depthExceeded event bound)) :
    ∃ reached, Step ⟨before.control, before.stack, second⟩ ⟨after.control, after.stack, reached⟩ ∧
      after.session.Relaxed timed early late wider reached := by
  have views {token : Token} (even : token.Even timed early late) := relaxed.view_retimed even
  have targets {submission : Submission P} (even : submission.token.Even timed early late) :=
    relaxed.target_eq even
  obtain ⟨machine, world⟩ := second
  obtain ⟨⟨same, looser⟩, retimed⟩ := relaxed
  obtain ⟨journal, same, records⟩ := same
  simp only at same
  subst same
  have control := hands.control
  have stays := respects.control
  have kept : Machine.Relaxed wider before.session.machine
      { before.session.machine with
        policy := { before.session.machine.policy with maxDepth := wider }, journal } :=
    ⟨⟨journal, rfl, records⟩, looser⟩
  cases step with
  | nest nested => exact ⟨_, .nest nested, kept, retimed⟩
  | defer queued draining =>
    exact ⟨_, .defer queued draining, ⟨⟨journal, rfl, records⟩, looser⟩, (retimed.emit rfl).emit rfl⟩
  | drain queued idle =>
    exact ⟨_, .drain queued idle, ⟨⟨journal, rfl, records⟩, looser⟩, retimed.emit rfl⟩
  | refuse refused =>
    have refused_too := (targets control (untripped _ rfl)).trans refused
    exact ⟨_, .refuse refused_too, kept, (retimed.tick.emit rfl).emit rfl⟩
  | apply found =>
    rename_i submission stack session target
    have found_too := (targets control (untripped _ rfl)).trans found
    refine ⟨_, .apply found_too, ⟨⟨_, rfl, ?_⟩, looser⟩, (retimed.tick.emit rfl).emit rfl⟩
    cases recorded : session.machine.policy.recordHistory <;>
      simp [recorded, records, Journal.record, Transition.timeless, Transition.move]
  | skipAction absent => exact ⟨_, .skipAction absent, kept, retimed⟩
  | beginAction present => exact ⟨_, .beginAction present, kept, retimed.emit rfl⟩
  | endAction => exact ⟨_, .endAction, kept, retimed.emit rfl⟩
  | failAction => exact ⟨_, .failAction, kept, retimed.emit rfl⟩
  | skipEntry absent => exact ⟨_, .skipEntry absent, kept, retimed⟩
  | beginEntry present => exact ⟨_, .beginEntry present, kept, retimed.emit rfl⟩
  | endEntry => exact ⟨_, .endEntry, kept, retimed.emit rfl⟩
  | look =>
    cases stays with
    | look blind onward =>
      rw [blind _ _ (views control.2)]
      exact ⟨_, .look, kept, retimed.tick⟩
  | share =>
    rename_i update stack session role duty next
    have shared : world.shared = session.world.shared := retimed.shared
    have same : next (update session.world.shared) = next (update world.shared) := by rw [shared]
    -- The program goes on with what the second session shares.
    rw [same]
    exact ⟨_, .share, kept, { retimed with shared := congrArg update shared }⟩
  | read => exact ⟨_, .read, kept, retimed⟩
  | write => exact ⟨_, .write, ⟨⟨journal, rfl, records⟩, looser⟩, retimed.emit rfl⟩
  | cancel => exact ⟨_, .cancel, kept, retimed.cancel _⟩
  | misname unknown => exact ⟨_, .misname unknown, kept, retimed⟩
  | trigger known => exact ⟨_, .trigger known, kept, retimed⟩
  | resume => exact ⟨_, .resume, kept, retimed⟩
  | settle => exact ⟨_, .settle, ⟨⟨journal, rfl, records⟩, looser⟩, retimed.emit rfl⟩
  | take first => exact ⟨_, .take first, ⟨⟨journal, rfl, records⟩, looser⟩, retimed.emit rfl⟩
  | close empty =>
    exact ⟨_, .close empty, ⟨⟨journal, by simp, by simpa using records⟩, by simpa using looser⟩,
      retimed.close⟩
  | abandon =>
    exact ⟨_, .abandon, ⟨⟨journal, by simp, by simpa using records⟩, by simpa using looser⟩,
      retimed.close⟩

/-- Events among which no dispatch has failed for its depth. -/
def Untripped (events : List (Event D P)) : Prop :=
  ∀ event bound, .error (.depthExceeded event bound) ∉ results events

private theorem Untripped.of_append {events more : List (Event D P)}
    (untripped : Untripped (events ++ more)) :
    Untripped events ∧ Untripped more := by
  simp only [Untripped, results, List.filterMap_append, List.mem_append, not_or] at untripped
  exact ⟨fun event bound => (untripped event bound).1, fun event bound => (untripped event bound).2⟩

private theorem Step.untripped {before after : Moment D P σ} (step : Step before after)
    {events : List (Event D P)}
    (trace : after.session.world.trace = before.session.world.trace ++ events) (untripped : Untripped events)
    {submission : Submission P} (dispatching : before.control = .dispatch submission)
    (event : String) (bound : Nat) :
    before.session.target submission ≠ .error (.depthExceeded event bound) := by
  intro tripped
  cases step with
  | refuse refused =>
    cases dispatching
    cases refused.symm.trans tripped
    simp only [Session.trace_emit, Session.trace_dispatched, List.append_assoc, List.append_cancel_left_eq]
      at trace
    subst trace
    exact untripped event bound (by simp [results, Event.result?])
  | apply found =>
    cases dispatching
    cases found.symm.trans tripped
  | _ => cases dispatching

/-- Steps under which no dispatch is rejected for its depth can be made under the looser limit as well. -/
theorem Steps.relaxed {forward : Token → Token} {before after : Moment D P σ} (steps : Steps before after)
    (closed : ∀ token, token.Even timed early late → (forward token).Even timed early late)
    {second : Session D P σ} {past : List (Event D P)}
    (relaxed : before.session.Relaxed timed early late wider second)
    (hands : before.Hands forward (Token.Even timed early late))
    (respects : before.Respects (View.Retimed timed))
    (trace : after.session.world.trace = before.session.world.trace ++ past) (untripped : Untripped past) :
    ∃ reached, Steps ⟨before.control, before.stack, second⟩ ⟨after.control, after.stack, reached⟩ ∧
      after.session.Relaxed timed early late wider reached := by
  -- From the front, since what has been rejected on the way is split off in the order of the steps.
  induction steps using Relation.ReflTransGen.head_induction_on generalizing second past with
  | refl => exact ⟨second, .refl, relaxed⟩
  | head step steps ih =>
    obtain ⟨events, begins⟩ := step.follows
    obtain ⟨more, goes⟩ := Steps.follows steps
    have parts : past = events ++ more := by
      rw [goes.trace, begins.trace, List.append_assoc] at trace
      exact (List.append_cancel_left trace).symm
    subst parts
    obtain ⟨now, later⟩ := untripped.of_append
    obtain ⟨between, first, relaxed⟩ := step.relaxed relaxed hands respects fun submission dispatching =>
      step.untripped begins.trace now dispatching
    obtain ⟨reached, rest, relaxed⟩ :=
      ih relaxed (step.hands closed hands) (step.respects respects) goes.trace later
    exact ⟨reached, .head first rest, relaxed⟩

end Relaxed

theorem Session.Relaxed.endsAs {timed : Prop} {early late : Nat → Instant} {wider : Option Nat}
    {first second : Session D P σ} (relaxed : first.Relaxed timed early late wider second) :
    first.EndsAs second := by
  obtain ⟨journal, same, records⟩ := relaxed.machine.same
  exact ⟨by rw [same], by rw [same], by rw [same, records], relaxed.world.invocations⟩

private theorem Call.moment_respects (call : Call P) {session : Session D P σ}
    (respects : session.machine.callbacks.Respects alike) : (call.moment session).Respects alike := by
  refine ⟨?_, ?_, ?_⟩
  · rw [(call.moment_setup session).callbacks]
    exact respects
  · rcases (call.moment_token session).1 with ⟨failure, same⟩ | ⟨event, payload, same⟩ | same <;>
      rw [same] <;> trivial
  · intro frame member
    rw [(call.moment_token session).2 frame member]
    trivial

private theorem Call.moment_relaxed (call : Call P) {timed : Prop} {early late : Nat → Instant}
    {wider : Option Nat} {first second : Session D P σ}
    (relaxed : first.Relaxed timed early late wider second) :
    ∃ began, call.moment second = ⟨(call.moment first).control, (call.moment first).stack, began⟩ ∧
      (call.moment first).session.Relaxed timed early late wider began := by
  obtain ⟨journal, same, records⟩ := relaxed.machine.same
  cases call with
  | trigger key payload token =>
    have table : second.machine.table = first.machine.table := by rw [same]
    cases known : first.machine.table.findEvent key <;> simp only [moment, table, known]
    · exact ⟨second, rfl, relaxed⟩
    · exact ⟨second, rfl, relaxed⟩
  | start token =>
    have mode_too : second.machine.policy.dispatch = first.machine.policy.dispatch := by rw [same]
    have draining_too : second.machine.draining = first.machine.draining := by rw [same]
    cases mode : first.machine.policy.dispatch with
    | nested =>
      simp only [moment, mode_too, mode]
      exact ⟨second, rfl, relaxed⟩
    | queued =>
      cases draining : first.machine.draining with
      | true =>
        simp only [moment, mode_too, mode, draining_too, draining]
        exact ⟨second, rfl, relaxed⟩
      | false =>
        simp only [moment, mode_too, mode, draining_too, draining]
        refine ⟨second.setDraining true, rfl, ⟨⟨journal, ?_, records⟩, relaxed.machine.looser⟩, relaxed.world⟩
        rw [Session.machine_setDraining, same, Session.machine_setDraining]

/-- A limit that rejects no dispatch is invisible: if a call returns under it, then it does so as well under
any larger limit and under none, with the same outcome, state, data, history and invocations of callbacks.
The time of the second call may be another one if callbacks do not look at it and the token is late by both
clocks or by neither. -/
theorem untripped_limit_invisible {machine : Machine D P σ} {world : World D P σ} {call : Call P}
    {limit : Nat} {wider : Option Nat} {clock : Nat → Instant} {readings : Nat}
    {outcome : Except Failure Unit} {after : Session D P σ} {past : List (Event D P)}
    (quiescent : machine.Quiescent) (limited : machine.policy.maxDepth = some limit)
    (looser : ∀ bound, wider = some bound → limit ≤ bound)
    (times : clock = world.clock ∧ readings = world.readings ∨
      machine.callbacks.Respects (View.Retimed False) ∧ call.token.Steady world.clock clock)
    (returned : call.Returns ⟨machine, world⟩ outcome after)
    (trace : after.world.trace = world.trace ++ past) (untripped : Untripped past) :
    ∃ other, call.Returns ⟨{ machine with policy := { machine.policy with maxDepth := wider } },
        { world with clock, readings }⟩ outcome other ∧ after.EndsAs other := by
  -- With one clock for both calls the time may count; with two clocks it must not.
  obtain ⟨timed, even, respects, together⟩ : ∃ timed : Prop,
      call.token.Even timed world.clock clock ∧ machine.callbacks.Respects (View.Retimed timed) ∧
        (timed → world.clock = clock ∧ world.readings = readings) := by
    rcases times with ⟨rfl, rfl⟩ | ⟨respects, steady⟩
    · exact ⟨True, .inl trivial, machine.callbacks.respects_of_eq fun _ _ like => like.eq trivial,
        fun _ => ⟨rfl, rfl⟩⟩
    · exact ⟨False, .inr steady, respects, False.elim⟩
  have closed : ∀ token : Token, token.Even timed world.clock clock →
      (machine.forwarded token).Even timed world.clock clock := by
    intro token even
    exact even.imp_right machine.forwarded_steady
  have alike : Session.Relaxed timed world.clock clock wider ⟨machine, world⟩
      ⟨{ machine with policy := { machine.policy with maxDepth := wider } },
        { world with clock, readings }⟩ :=
    ⟨⟨⟨machine.journal, rfl, rfl⟩, fun bound set => ⟨limit, limited, looser bound set⟩⟩,
      ⟨rfl, rfl, rfl, rfl, rfl, together⟩⟩
  obtain ⟨began, begins, relaxed⟩ := call.moment_relaxed alike
  have hands : (call.moment ⟨machine, world⟩).Hands machine.forwarded (Token.Even timed world.clock clock) :=
    call.moment_hands_good ⟨machine, world⟩ closed even quiescent
  have told : after.world.trace = (call.moment ⟨machine, world⟩).session.world.trace ++ past := by
    rw [call.moment_world]
    exact trace
  obtain ⟨other, steps, relaxed⟩ :=
    returned.steps.relaxed closed relaxed hands (call.moment_respects respects) told untripped
  refine ⟨other, Call.returns_iff_steps.mpr ?_, relaxed.endsAs⟩
  rw [begins]
  exact steps

/-- The sample session nests one trigger in another, which a limit of one allows. Lifting the limit changes
nothing about the failure that the entry passes on. -/
theorem sample_limit_invisible :
    (Sample.session { maxDepth := some 1 }).machine.Quiescent ∧ ∃ outcome after other,
      Call.Returns (.trigger (.name "run") () .unbounded) (Sample.session { maxDepth := some 1 }) outcome
        after ∧
      Untripped after.world.trace ∧
      Call.Returns (.trigger (.name "run") () .unbounded) (Sample.session {}) outcome other ∧
      after.EndsAs other ∧
      outcome = .error (.callback (.entry "running")
        (.failure (.callback (.action "finish") (.foreign "too late")))) := by
  have quiescent : (Sample.session { maxDepth := some 1 }).machine.Quiescent := ⟨rfl, rfl, rfl⟩
  obtain ⟨after, returned, told⟩ : ∃ after,
      Call.Returns (.trigger (.name "run") () .unbounded) (Sample.session { maxDepth := some 1 })
        (.error (.callback (.entry "running")
          (.failure (.callback (.action "finish") (.foreign "too late"))))) after ∧
      results after.world.trace = [.error (.callback (.action "finish") (.foreign "too late")),
        .error (.callback (.entry "running")
          (.failure (.callback (.action "finish") (.foreign "too late"))))] := ⟨_, ⟨3, rfl⟩, rfl⟩
  have untripped : Untripped after.world.trace := by
    intro event bound
    simp [told]
  have lifted (bound : Nat) (set : none = some bound) : 1 ≤ bound := by cases set
  obtain ⟨other, returned_too, ends⟩ :=
    untripped_limit_invisible quiescent rfl lifted (.inl ⟨rfl, rfl⟩) returned rfl untripped
  exact ⟨quiescent, _, after, other, returned, untripped, returned_too, ends, rfl⟩

end StateMachine
