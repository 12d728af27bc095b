import StateMachine.Proofs.Deadline
import StateMachine.Proofs.Lineage
import StateMachine.Proofs.Trigger

/-!
Depth limits. In nested mode a limit rejects exactly those dispatches that more triggers enclose than it
allows, so that no transition is applied below it. In queued mode nothing is ever too deep.
-/
namespace StateMachine

variable {D P σ : Type}

namespace Session

variable {session after : Session D P σ} {submission : Submission P} {fuel : Nat}

/-- A dispatch fails on its own account exactly if it is refused, and then it only reports so. -/
theorem dispatch_refuses_iff {failure : Failure} (own : failure.isCallback = false) :
    dispatch (submit fuel) submission session = some (.error failure, after) ↔
      session.Refusal submission failure ∧
        after = (session.dispatched submission).emit (.refused failure) := by
  constructor
  · intro dispatched
    cases decided : session.target submission with
    | error refused =>
      rw [dispatch_refused decided] at dispatched
      cases dispatched
      exact ⟨target_eq_error_iff.mp decided, rfl⟩
    | ok target =>
      rw [dispatch_found decided] at dispatched
      obtain ⟨⟨outcome, reached⟩, ran, same⟩ := Option.map_eq_some_iff.mp dispatched
      cases same
      -- Whatever fails after the transition, a callback is to blame.
      rcases runCallbacks_blames ran with fine | ⟨other, failed, cause, rfl | ⟨state, rfl⟩⟩
      · cases fine
      · cases failed
        cases own
      · cases failed
        cases own
  · rintro ⟨refusal, rfl⟩
    exact dispatch_refused refusal.target_eq

private theorem refusal_depthExceeded_iff {event : String} {bound : Nat} :
    session.Refusal submission (.depthExceeded event bound) ↔
      event = session.machine.table.eventLabel submission.event ∧
      session.machine.policy.maxDepth = some bound ∧
      submission.token.check session.world.flags session.now event = .ok () ∧
      bound < session.machine.depth := by
  constructor
  · intro refusal
    cases refusal with
    | deep calm timely limited exceeded =>
      exact ⟨rfl, limited, Token.check_eq_ok_iff.mpr ⟨calm, timely⟩, exceeded⟩
  · rintro ⟨rfl, limited, passed, exceeded⟩
    obtain ⟨calm, timely⟩ := Token.check_eq_ok_iff.mp passed
    exact .deep calm timely limited exceeded

private theorem unmoved_refused (session : Session D P σ) (submission : Submission P) (failure : Failure) :
    session.Unmoved ((session.dispatched submission).emit (.refused failure)) :=
  ⟨rfl, rfl, rfl, [.dispatched submission session.machine.depth, .refused failure], by simp, rfl, rfl⟩

end Session

/-- What a limit allows since a session: no transition is applied under more triggers than the limit says,
so that the depth is beyond it by one at most. -/
structure Moment.Within (session : Session D P σ) (limit : Nat) (moment : Moment D P σ) : Prop where
  depth : moment.session.machine.depth ≤ limit + 1
  applied : ∃ applied,
    transitions moment.session.world.trace = transitions session.world.trace ++ applied ∧
      ∀ transition ∈ applied, transition.depth ≤ limit

theorem Step.within {session : Session D P σ} {limit : Nat} {before after : Moment D P σ}
    (step : Step before after) (limited : before.session.machine.policy.maxDepth = some limit)
    (within : before.Within session limit) : after.Within session limit := by
  obtain ⟨depth, applied, trace, bounded⟩ := within
  cases step with
  | apply found =>
    rename_i submission stack reached target
    have shallow := (Session.target_eq_ok_iff.mp found).shallow limit limited
    refine ⟨Nat.succ_le_succ shallow, applied ++ [reached.transition submission target], ?_, ?_⟩
    · simp only [transitions] at trace
      simp [transitions, trace, List.filterMap_cons, Event.transition?, Session.transition]
    · exact List.forall_mem_append.mpr ⟨bounded, List.forall_mem_singleton.mpr shallow⟩
  | settle =>
    refine ⟨Nat.le_trans (Nat.sub_le _ _) depth, applied, ?_, bounded⟩
    simpa [transitions, List.filterMap_cons, Event.transition?] using trace
  | close empty =>
    exact ⟨by simpa using depth, applied, by simpa [Session.trace_close, empty] using trace, bounded⟩
  | abandon =>
    rename_i stack reached failure
    refine ⟨by simpa using depth, applied, ?_, bounded⟩
    by_cases empty : reached.machine.pending = []
    · simpa [Session.trace_close, empty] using trace
    · simpa [transitions, Session.trace_close, empty, List.filterMap_cons, Event.transition?] using trace
  | _ => exact ⟨depth, applied, by simpa [transitions, List.filterMap_cons, Event.transition?] using trace,
      bounded⟩

theorem Steps.within {session : Session D P σ} {limit : Nat} {before after : Moment D P σ}
    (steps : Steps before after) (limited : before.session.machine.policy.maxDepth = some limit)
    (within : before.Within session limit) : after.Within session limit := by
  induction steps with
  | refl => exact within
  | tail steps step ih =>
    refine step.within ?_ ih
    rw [Steps.setup steps |>.policy]
    exact limited

private theorem Call.moment_within (call : Call P) {session : Session D P σ}
    (quiescent : session.machine.Quiescent) (limit : Nat) :
    (call.moment session).Within session limit := by
  obtain ⟨draining, machine⟩ := call.moment_machine session
  refine ⟨?_, [], ?_, by simp⟩
  · rw [machine]
    simp [Machine.drainingAs, quiescent.depth]
  · rw [call.moment_world, List.append_nil]

/-- What becomes of a dispatch where a limit is set. It fails for its depth exactly if its token lets it
pass and more triggers enclose it than the limit allows, and then nothing has happened. -/
structure Moment.Limits (limit : Nat) (moment : Moment D P σ) (submission : Submission P) : Prop where
  enclosing : moment.session.machine.depth = moment.running
  exceeded_iff : ∀ fuel event bound,
    (∃ after, Session.dispatch (Session.submit fuel) submission moment.session =
      some (.error (.depthExceeded event bound), after)) ↔
    event = moment.session.machine.table.eventLabel submission.event ∧ bound = limit ∧
      submission.token.check moment.session.world.flags moment.session.now event = .ok () ∧
      limit < moment.running
  unmoved : ∀ fuel event bound after,
    Session.dispatch (Session.submit fuel) submission moment.session =
      some (.error (.depthExceeded event bound), after) → moment.session.Unmoved after

private theorem Moment.limits {limit : Nat} {moment : Moment D P σ} (submission : Submission P)
    (limited : moment.session.machine.policy.maxDepth = some limit)
    (enclosing : moment.session.machine.depth = moment.running) : moment.Limits limit submission := by
  refine ⟨enclosing, ?_, ?_⟩
  · intro fuel event bound
    constructor
    · rintro ⟨after, dispatched⟩
      obtain ⟨refusal, _⟩ := (Session.dispatch_refuses_iff rfl).mp dispatched
      obtain ⟨label, set, passed, exceeded⟩ := Session.refusal_depthExceeded_iff.mp refusal
      cases limited.symm.trans set
      exact ⟨label, rfl, passed, enclosing ▸ exceeded⟩
    · rintro ⟨label, rfl, passed, exceeded⟩
      have refusal := Session.refusal_depthExceeded_iff.mpr ⟨label, limited, passed, enclosing ▸ exceeded⟩
      exact ⟨_, (Session.dispatch_refuses_iff rfl).mpr ⟨refusal, rfl⟩⟩
  · intro fuel event bound after dispatched
    obtain ⟨_, rfl⟩ := (Session.dispatch_refuses_iff rfl).mp dispatched
    exact moment.session.unmoved_refused submission _

/-- A limit is exact, at every moment of a call: it rejects the dispatches that more triggers enclose than
it allows, and no others, so that it bounds the depth of whatever is applied. Starts do not count. In queued
mode everything is dispatched at the top, and nothing is rejected for its depth, whatever the limit is. -/
theorem depth_limit_exact {call : Call P} {session : Session D P σ} {moment : Moment D P σ}
    (quiescent : session.machine.Quiescent) (reached : Steps (call.moment session) moment) :
    (∀ limit, session.machine.policy.maxDepth = some limit →
      moment.Within session limit ∧
        ∀ submission, moment.control = .dispatch submission → moment.Limits limit submission) ∧
    (session.machine.policy.dispatch = .queued →
      ∀ submission, moment.control = .dispatch submission →
        moment.session.machine.depth = 0 ∧
        ∀ fuel event bound after,
          Session.dispatch (Session.submit fuel) submission moment.session ≠
            some (.error (.depthExceeded event bound), after)) := by
  have enclosing := call.depth_eq_running quiescent reached
  have begun := (call.moment_setup session).policy
  constructor
  · intro limit limited
    have bounded : moment.session.machine.policy.maxDepth = some limit := by
      rw [reached.setup.policy, begun, limited]
    exact ⟨reached.within (by rw [begun, limited]) (call.moment_within quiescent limit),
      fun submission _ => moment.limits submission bounded enclosing⟩
  · intro queued submission dispatching
    have top : moment.session.machine.depth = 0 := by
      rw [enclosing]
      exact call.dispatches_flat queued quiescent reached dispatching
    refine ⟨top, ?_⟩
    intro fuel event bound after dispatched
    obtain ⟨refusal, _⟩ := (Session.dispatch_refuses_iff rfl).mp dispatched
    obtain ⟨_, _, _, exceeded⟩ := Session.refusal_depthExceeded_iff.mp refusal
    rw [top] at exceeded
    exact absurd exceeded (Nat.not_lt_zero bound)

/-- An entry triggers under the one trigger that a limit of zero leaves at the top. -/
theorem entry_trigger_exceeds_limit :
    (Sample.session { maxDepth := some 0 }).machine.Quiescent ∧ ∃ moment after,
      Steps (Call.moment (.trigger (.name "run") () .unbounded) (Sample.session { maxDepth := some 0 }))
        moment ∧
      moment.control = .dispatch ⟨⟨1⟩, (), .unbounded⟩ ∧ moment.running = 1 ∧
      Session.dispatch (Session.submit 0) ⟨⟨1⟩, (), .unbounded⟩ moment.session =
        some (.error (.depthExceeded "finish" 0), after) ∧
      moment.session.Unmoved after ∧ moment.Within (Sample.session { maxDepth := some 0 }) 0 := by
  have quiescent : (Sample.session { maxDepth := some 0 }).machine.Quiescent := ⟨rfl, rfl, rfl⟩
  have reached : Steps
      (Call.moment (.trigger (.name "run") () .unbounded) (Sample.session { maxDepth := some 0 })) _ :=
    .head (.nest rfl) (.head (.apply rfl) (.head (.beginAction rfl) (.head .write
      (.head .endAction (.head (.beginEntry rfl) (.head (.trigger rfl) (.single (.nest rfl))))))))
  obtain ⟨limits, _⟩ := depth_limit_exact quiescent reached
  obtain ⟨within, dispatches⟩ := limits 0 rfl
  obtain ⟨_, exceeded_iff, unmoved⟩ := dispatches _ rfl
  obtain ⟨after, dispatched⟩ := (exceeded_iff 0 "finish" 0).mpr ⟨rfl, rfl, rfl, by decide⟩
  exact ⟨quiescent, _, after, reached, rfl, rfl, dispatched, unmoved _ _ _ _ dispatched, within⟩

end StateMachine
