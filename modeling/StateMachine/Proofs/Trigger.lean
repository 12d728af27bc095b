import StateMachine.Proofs.Depth
import StateMachine.Proofs.Journey
import StateMachine.Proofs.Key
import StateMachine.Proofs.Sample

/-!
Triggers in nested mode. Either a trigger is rejected, for one of five reasons, and then nothing has
happened; or its transition is applied before anything else happens and stays, and only a callback can
fail. This holds for every trigger, however many others it is made under.
-/
namespace StateMachine

variable {D P σ : Type}

/-- The reasons to reject a trigger: its key is unknown, or the submission it makes is refused. -/
inductive Session.Rejection (session : Session D P σ) :
    EventKey → P → Token → Failure → Prop where
  | unknownName (absent : ∀ info ∈ session.machine.table.events, info.name ≠ name) :
      Rejection session (.name name) payload token (.unknownEvent name)
  | unknownId {event : EventId} (beyond : session.machine.table.events.length ≤ event.index) :
      Rejection session (.id event) payload token (.unknownEvent event.text)
  | refused {failure : Failure} (known : session.machine.table.findEvent key = .ok event)
      (refusal : session.Refusal ⟨event, payload, token⟩ failure) :
      Rejection session key payload token failure

/-- Nothing has happened: the machine is as before, no callback has run, and the clock was read at most. -/
structure Session.Unmoved (before after : Session D P σ) : Prop where
  machine : after.machine = before.machine
  flags : after.world.flags = before.world.flags
  shared : after.world.shared = before.world.shared
  trace : ∃ events, after.world.trace = before.world.trace ++ events ∧
    transitions events = [] ∧ invocations events = []

/-- The transition of a submission that is applied now. -/
def Session.transition (session : Session D P σ) (submission : Submission P) (target : StateId) :
    Transition :=
  ⟨session.machine.current, target, submission.event, session.machine.depth, session.now⟩

/-- The moment at which a submission has been applied, and no callback of it has begun. -/
def Session.applied (session : Session D P σ) (submission : Submission P) (target : StateId) :
    Moment D P σ :=
  ⟨.act submission, [.settling submission.event],
    (session.dispatched submission).apply submission.event target session.now⟩

/-- A submission was applied before anything else, and the machine has stayed on the way from there: at
every later moment its state has changed by further transitions only, and its journal has grown by
nothing but these. -/
structure Session.Carried (before : Session D P σ) (submission : Submission P) (target : StateId)
    (outcome : Except Failure Unit) (after : Session D P σ) : Prop where
  trace : (before.applied submission target).session.world.trace = before.world.trace ++
    [.dispatched submission before.machine.depth, .applied (before.transition submission target)]
  state : (before.applied submission target).session.machine.current = target
  journal : (before.applied submission target).session.machine.journal.transitions =
    before.machine.journal.transitions ++
      if before.machine.policy.recordHistory then [before.transition submission target] else []
  onward : ∀ moment, Steps (before.applied submission target) moment → ∃ later,
    moment.session.world.trace = (before.applied submission target).session.world.trace ++ later ∧
    Journey before.machine.table target (transitions later) moment.session.machine.current ∧
    moment.session.machine.journal.transitions =
      (before.applied submission target).session.machine.journal.transitions ++
        if before.machine.policy.recordHistory then transitions later else []
  ends : Steps (before.applied submission target) ⟨.outcome outcome, [], after⟩
  depth : after.machine.depth = before.machine.depth

/-- A failure that a callback of a dispatch is to blame for: the action of its event, or an entry. -/
def Failure.BlamedOn (table : Table) (event : EventId) (failure : Failure) : Prop :=
  ∃ cause, failure = .callback (.action (table.eventLabel event)) cause ∨
    ∃ state, failure = .callback (.entry (table.stateLabel state)) cause

private theorem Session.Rejection.not_callback {session : Session D P σ} {key : EventKey} {payload : P}
    {token : Token} {failure : Failure} (rejection : session.Rejection key payload token failure) :
    failure.isCallback = false := by
  cases rejection with
  | unknownName absent => rfl
  | unknownId beyond => rfl
  | refused known refusal => cases refusal <;> rfl

theorem Session.Rejection.deep {session : Session D P σ} {key : EventKey} {payload : P} {token : Token}
    {event : String} {limit : Nat}
    (rejection : session.Rejection key payload token (.depthExceeded event limit)) :
    limit < session.machine.depth := by
  cases rejection with
  | refused known refusal =>
    cases refusal with
    | deep calm timely limited exceeded => exact exceeded

/-- Every trigger is rejected for some reason, or accepted with some target. -/
theorem Session.rejection_or_acceptance (session : Session D P σ) (key : EventKey) (payload : P)
    (token : Token) :
    (∃ failure, session.Rejection key payload token failure) ∨
      ∃ event target, session.machine.table.findEvent key = .ok event ∧
        session.Acceptance ⟨event, payload, token⟩ target := by
  cases known : session.machine.table.findEvent key with
  | error failure =>
    cases key with
    | name name =>
      exact .inl ⟨_, .unknownName (Table.findEvent_name_eq_error_iff.mp known).1⟩
    | id event => exact .inl ⟨_, .unknownId (Table.findEvent_id_eq_error_iff.mp known).1⟩
  | ok event =>
    rcases session.refusal_or_acceptance ⟨event, payload, token⟩ with
      ⟨failure, refusal⟩ | ⟨target, acceptance⟩
    · exact .inl ⟨failure, .refused known refusal⟩
    · exact .inr ⟨event, target, rfl, acceptance⟩

theorem Session.Rejection.trigger {fuel : Nat} {session after : Session D P σ} {key : EventKey}
    {payload : P} {token : Token} {failure : Failure} {outcome : Except Failure Unit}
    (rejection : session.Rejection key payload token failure)
    (nested : session.machine.policy.dispatch = .nested)
    (returned : Session.trigger fuel key payload token session = some (outcome, after)) :
    outcome = .error failure ∧ session.Unmoved after := by
  have missing (unknown : session.machine.table.findEvent key = .error failure) :
      outcome = .error failure ∧ session.Unmoved after := by
    simp only [Session.trigger, unknown] at returned
    cases returned
    exact ⟨rfl, rfl, rfl, rfl, [], by simp, rfl, rfl⟩
  cases rejection with
  | unknownName absent => exact missing (Table.findEvent_name_eq_error_iff.mpr ⟨absent, rfl⟩)
  | unknownId beyond => exact missing (Table.findEvent_id_eq_error_iff.mpr ⟨beyond, rfl⟩)
  | refused known refusal =>
    rename_i event
    simp only [Session.trigger, known] at returned
    cases fuel with
    | zero => cases (Session.submit_spent (.inl nested)).symm.trans returned
    | succ fuel =>
      rw [Session.submit_nested nested] at returned
      simp only [Session.dispatch, refusal.target_eq] at returned
      cases returned
      exact ⟨rfl, rfl, rfl, rfl, [.dispatched ⟨event, payload, token⟩ session.machine.depth,
        .refused failure], by simp, rfl, rfl⟩

namespace Session

variable {session after : Session D P σ} {submission : Submission P} {outcome : Except Failure Unit}
variable {fuel : Nat}

/-- Whatever fails among the callbacks of a dispatch, one of them is to blame. -/
theorem runCallbacks_blames
    (ran : runCallbacks (submit fuel) submission session = some (outcome, after)) :
    outcome = .ok () ∨ ∃ failure, outcome = .error failure ∧
      failure.BlamedOn session.machine.table submission.event := by
  rw [runCallbacks_eq, Run.andThen_eq_some_iff] at ran
  rcases ran with ⟨reached, acted, entered⟩ | ⟨failure, rfl, failed⟩
  · have same : reached.machine.table = session.machine.table :=
      (act_steps (submit_handles fuel) acted []).setup.table
    simp only [enter] at entered
    split at entered
    · cases entered
      exact .inl rfl
    · split at entered
      · cases entered
      · rename_i result _ _
        cases entered
        cases result with
        | ok => exact .inl rfl
        | error cause => exact .inr ⟨_, rfl, cause, .inr ⟨_, by rw [← same]⟩⟩
  · simp only [act] at failed
    split at failed
    · cases failed
    · split at failed
      · cases failed
      · rename_i result _ _
        cases result with
        | ok => cases failed
        | error cause =>
          cases failed
          exact .inr ⟨_, rfl, cause, .inl rfl⟩

/-- The callbacks of an applied submission leave its transition where it is. -/
theorem runCallbacks_carries {target : StateId}
    (ran : runCallbacks (submit fuel) submission (session.applied submission target).session =
      some (outcome, after)) :
    session.Carried submission target outcome (after.settle submission.event outcome) := by
  have steps : Steps (session.applied submission target)
      ⟨.outcome outcome, [], after.settle submission.event outcome⟩ :=
    (runCallbacks_steps (submit_handles fuel) ran [.settling submission.event]).tail .settle
  refine ⟨?_, rfl, ?_, fun moment reached => ?_, steps, ?_⟩
  · simp [applied, transition]
  · cases recorded : session.machine.policy.recordHistory <;>
      simp [applied, transition, recorded, Journal.record]
  · obtain ⟨later, follows⟩ := reached.follows
    exact ⟨later, follows.trace, follows.journey, follows.journal⟩
  · exact steps.depth session.machine.depth rfl

end Session

namespace Session.Acceptance

variable {session after : Session D P σ} {key : EventKey} {event : EventId} {payload : P} {token : Token}
variable {target : StateId} (acceptance : session.Acceptance ⟨event, payload, token⟩ target)
  (known : session.machine.table.findEvent key = .ok event)
include acceptance known

private theorem not_rejected (failure : Failure) : ¬ session.Rejection key payload token failure := by
  intro rejection
  cases rejection with
  | unknownName absent =>
    cases known.symm.trans (Table.findEvent_name_eq_error_iff.mpr ⟨absent, rfl⟩)
  | unknownId beyond =>
    cases known.symm.trans (Table.findEvent_id_eq_error_iff.mpr ⟨beyond, rfl⟩)
  | refused found refusal =>
    cases known.symm.trans found
    cases acceptance.target_eq.symm.trans refusal.target_eq

theorem trigger {fuel : Nat} {outcome : Except Failure Unit}
    (nested : session.machine.policy.dispatch = .nested)
    (returned : Session.trigger fuel key payload token session = some (outcome, after)) :
    session.Carried ⟨event, payload, token⟩ target outcome after ∧
      ∀ failure, outcome = .error failure → failure.BlamedOn session.machine.table event := by
  simp only [Session.trigger, known] at returned
  cases fuel with
  | zero => cases (Session.submit_spent (.inl nested)).symm.trans returned
  | succ fuel =>
    rw [Session.submit_nested nested] at returned
    simp only [Session.dispatch, acceptance.target_eq] at returned
    split at returned
    · cases returned
    · rename_i result reached ran
      cases returned
      refine ⟨runCallbacks_carries ran, fun failure same => ?_⟩
      rcases runCallbacks_blames ran with fine | ⟨other, failed, blamed⟩
      · cases fine.symm.trans same
      · cases failed.symm.trans same
        exact blamed

end Session.Acceptance

/-- A trigger in nested mode that returns gives a failure that is not a callback's exactly if there is a
reason to reject it, and then nothing has happened. Otherwise its transition was applied before any
callback ran, and was not taken back. It makes no difference whether a callback issues the trigger. -/
theorem nested_trigger_rejected_or_carried {fuel : Nat} {key : EventKey} {payload : P} {token : Token}
    {session after : Session D P σ} {outcome : Except Failure Unit}
    (nested : session.machine.policy.dispatch = .nested)
    (returned : Session.trigger fuel key payload token session = some (outcome, after)) :
    (∀ failure, outcome = .error failure ∧ failure.isCallback = false ↔
      session.Rejection key payload token failure) ∧
    (∀ failure, session.Rejection key payload token failure → session.Unmoved after) ∧
    ((∀ failure, ¬ session.Rejection key payload token failure) →
      ∃ event target, session.machine.table.findEvent key = .ok event ∧
        session.machine.table.resolve? session.machine.current event = some target ∧
        session.Carried ⟨event, payload, token⟩ target outcome after ∧
        ∀ failure, outcome = .error failure → failure.BlamedOn session.machine.table event) ∧
    (session.machine.depth = 0 → ∀ event limit, outcome ≠ .error (.depthExceeded event limit)) ∧
    ∀ {role : Role} (next : Except Failure Unit → Program D P σ role),
      (Program.trigger key payload next).run (Session.submit fuel) token session =
        (next outcome).run (Session.submit fuel) token after := by
  have issued {role : Role} (next : Except Failure Unit → Program D P σ role) :
      (Program.trigger key payload next).run (Session.submit fuel) token session =
        (next outcome).run (Session.submit fuel) token after := by
    simp only [Session.trigger] at returned
    cases known : session.machine.table.findEvent key with
    | error failure =>
      simp only [known] at returned
      cases returned
      simp only [Program.run, known]
    | ok event =>
      simp only [known] at returned
      simp only [Program.run, known, returned]
  rcases session.rejection_or_acceptance key payload token with ⟨failure, rejection⟩ | accepted
  · obtain ⟨same, unmoved⟩ := rejection.trigger nested returned
    subst same
    refine ⟨fun other => ⟨?_, ?_⟩, fun _ _ => unmoved, fun none => absurd rejection (none failure),
      fun top event limit same => ?_, issued⟩
    · rintro ⟨same, _⟩
      cases same
      exact rejection
    · intro again
      exact ⟨(again.trigger nested returned).1, again.not_callback⟩
    · cases same
      exact absurd rejection.deep (by omega)
  · obtain ⟨event, target, known, acceptance⟩ := accepted
    obtain ⟨carried, blamed⟩ := acceptance.trigger known nested returned
    have never (failure) (rejection : session.Rejection key payload token failure) : False :=
      acceptance.not_rejected known failure rejection
    refine ⟨fun failure => ⟨?_, fun rejection => (never failure rejection).elim⟩,
      fun failure rejection => (never failure rejection).elim,
      fun _ => ⟨event, target, known, acceptance.resolved, carried, blamed⟩,
      fun _ _ _ same => ?_, issued⟩
    · rintro ⟨same, foreign⟩
      obtain ⟨cause, rfl | ⟨state, rfl⟩⟩ := blamed failure same
      · cases foreign
      · cases foreign
    · obtain ⟨cause, impossible | ⟨state, impossible⟩⟩ := blamed _ same
      · cases impossible
      · cases impossible

/-- A reentrant trigger whose action fails: its failure comes wrapped in that of the entry that issued it,
and both transitions stay. -/
theorem nested_trigger_finishes_too_late :
    (Sample.session {}).machine.policy.dispatch = .nested ∧
      ∃ after, Session.trigger 3 (.name "run") () .unbounded (Sample.session {}) =
          some (.error (.callback (.entry "running")
            (.failure (.callback (.action "finish") (.foreign "too late")))), after) ∧
        (Sample.session {}).Carried ⟨⟨0⟩, (), .unbounded⟩ ⟨1⟩ (.error (.callback (.entry "running")
          (.failure (.callback (.action "finish") (.foreign "too late"))))) after ∧
        after.machine.current = ⟨2⟩ := by
  have nested : (Sample.session {}).machine.policy.dispatch = .nested := rfl
  have returned : Session.trigger 3 (.name "run") () .unbounded (Sample.session {}) = some (_, _) := rfl
  obtain ⟨rejected, _, carried, _⟩ := nested_trigger_rejected_or_carried nested returned
  obtain ⟨event, target, known, resolved, carried, _⟩ := carried fun failure rejection => by
    obtain ⟨same, foreign⟩ := (rejected failure).mpr rejection
    cases same
    cases foreign
  cases known
  cases resolved
  exact ⟨nested, _, returned, carried, rfl⟩

end StateMachine
