import StateMachine.Proofs.Quiescence
import StateMachine.Proofs.Trigger

/-!
Reports: what goes into the trace during each part of a call, and in which order. A transition is followed
by the action of its event, and the action, unless it fails, by the entry of whatever state the machine is
in by then.
-/
namespace StateMachine

variable {D P σ : Type}

/-- The parts that calls are made of. All but the run of a callback come to an outcome. -/
inductive Part (P : Type) where
  | callback
  | submission (submission : Submission P) (outcome : Except Failure Unit)
  | action (submission : Submission P) (outcome : Except Failure Unit)
  | entry (outcome : Except Failure Unit)
  | dispatch (submission : Submission P) (outcome : Except Failure Unit)
  | queue (outcome : Except Failure Unit)

section Report

variable (machine : Machine D P σ)

/-- The events that a part of a call may report, given the state that it begins in, and the state that it
leaves the machine in. -/
inductive Report : Part P → StateId → List (Event D P) → StateId → Prop where
  | finished : Report .callback state [] state
  | wrote (onward : Report .callback state log last) : Report .callback state (.wrote update :: log) last
  | raised (onward : Report .callback state log last) : Report .callback state (.raised token :: log) last
  | triggered (submitted : Report (.submission submission outcome) state first next)
      (onward : Report .callback next rest last) : Report .callback state (first ++ rest) last
  | nested (mode : machine.policy.dispatch = .nested)
      (dispatched : Report (.dispatch submission outcome) state log last) :
      Report (.submission submission outcome) state log last
  | deferred (mode : machine.policy.dispatch = .queued) :
      Report (.submission submission (.ok ())) state
        [.accepted submission, .deferred submission.event waiting] state
  | noAction (absent : machine.callbacks.action? submission.event = none) :
      Report (.action submission (.ok ())) state [] state
  | action (present : machine.callbacks.action? submission.event = some action)
      (ran : Report .callback state log last) :
      Report (.action submission
          (result.mapError (.callback (.action (machine.table.eventLabel submission.event))))) state
        (.actionBegan submission.event submission.payload state ::
          (log ++ [.actionEnded submission.event result])) last
  | noEntry (absent : machine.callbacks.entry? state = none) : Report (.entry (.ok ())) state [] state
  | entry (present : machine.callbacks.entry? state = some entry) (ran : Report .callback state log last) :
      Report (.entry (result.mapError (.callback (.entry (machine.table.stateLabel state))))) state
        (.entryBegan state snapshot :: (log ++ [.entryEnded state result])) last
  | refused {failure : Failure} :
      Report (.dispatch submission (.error failure)) state
        [.dispatched submission depth, .refused failure] state
  | applied (resolved : machine.table.resolve? state submission.event = some target)
      (acted : Report (.action submission (.ok ())) target first between)
      (entered : Report (.entry outcome) between second last) :
      Report (.dispatch submission outcome) state
        (.dispatched submission depth :: .applied ⟨state, target, submission.event, depth, time⟩ ::
          (first ++ (second ++ [.settled submission.event outcome]))) last
  | failed {failure : Failure} (resolved : machine.table.resolve? state submission.event = some target)
      (acted : Report (.action submission (.error failure)) target first last) :
      Report (.dispatch submission (.error failure)) state
        (.dispatched submission depth :: .applied ⟨state, target, submission.event, depth, time⟩ ::
          (first ++ [.settled submission.event (.error failure)])) last
  | drained : Report (.queue (.ok ())) state [] state
  | served (dispatched : Report (.dispatch submission (.ok ())) state first next)
      (onward : Report (.queue outcome) next rest last) :
      Report (.queue outcome) state (.taken :: (first ++ rest)) last
  | stopped {failure : Failure} (dispatched : Report (.dispatch submission (.error failure)) state log last) :
      Report (.queue (.error failure)) state (.taken :: log) last

/-- What a machine is like during a call: its triggers are dispatched at once, or join an open queue. -/
structure Machine.Busy (later : Machine D P σ) : Prop where
  setup : machine.SameSetup later
  inside : later.policy.dispatch = .nested ∨ later.draining = true

/-- What happens from one session to another is what a part of a call may report. -/
structure Session.Tells (part : Part P) (before after : Session D P σ) : Prop where
  busy : machine.Busy after.machine
  report : ∃ log, after.world.trace = before.world.trace ++ log ∧
    Report machine part before.machine.current log after.machine.current

/-- A run that tells of a part of a call, whatever it comes to. -/
def Run.Tells (part : Except Failure Unit → Part P) (run : Run D P σ (Except Failure Unit)) : Prop :=
  ∀ ⦃session outcome after⦄, run session = some (outcome, after) → machine.Busy session.machine →
    Session.Tells machine (part outcome) session after

end Report

variable {machine : Machine D P σ}

private theorem Machine.Busy.of_same {later other : Machine D P σ} (busy : machine.Busy later)
    (same : later.SameSetup other) (draining : other.draining = later.draining) : machine.Busy other := by
  refine ⟨busy.setup.trans same, ?_⟩
  rw [same.policy, draining]
  exact busy.inside

section Handled

variable {submit : Submission P → Run D P σ (Except Failure Unit)}
variable (handled : ∀ submission, (submit submission).Tells machine (.submission submission))
include handled

private theorem Program.run_tells {role : Role} {program : Program D P σ role} {token : Token}
    {result : Except Cause Unit} {session after : Session D P σ}
    (ran : program.run submit token session = some (result, after)) (busy : machine.Busy session.machine) :
    Session.Tells machine .callback session after := by
  induction program generalizing session with
  | done =>
    cases ran
    exact ⟨busy, [], by simp, .finished⟩
  | look next ih =>
    obtain ⟨busy, report⟩ := ih _ ran busy
    exact ⟨busy, report⟩
  | share update next ih =>
    obtain ⟨busy, report⟩ := ih _ ran busy
    exact ⟨busy, report⟩
  | read next ih => exact ih _ ran busy
  | write update next ih =>
    obtain ⟨busy, log, trace, report⟩ := ih ran (busy.of_same ⟨rfl, rfl, rfl⟩ rfl)
    exact ⟨busy, .wrote update :: log, by simpa using trace, report.wrote⟩
  | cancel flagged next ih =>
    obtain ⟨busy, log, trace, report⟩ := ih ran busy
    exact ⟨busy, .raised flagged :: log, by simpa using trace, report.raised⟩
  | trigger key payload next ih =>
    simp only [Program.run] at ran
    split at ran
    · exact ih _ ran busy
    · split at ran
      · cases ran
      · rename_i outcome reached submitted
        obtain ⟨busy, inner, begins, submitted⟩ := handled _ submitted busy
        obtain ⟨busy, log, trace, report⟩ := ih _ ran busy
        exact ⟨busy, inner ++ log, by rw [trace, begins, List.append_assoc], .triggered submitted report⟩

namespace Session

private theorem act_tells (submission : Submission P) :
    Run.Tells machine (.action submission) (act submit submission) := by
  intro session outcome after ran busy
  have callbacks := busy.setup.callbacks
  cases present : session.machine.callbacks.action? submission.event with
  | none =>
    simp only [act, present] at ran
    cases ran
    exact ⟨busy, [], by simp, .noAction (by rw [← callbacks, present])⟩
  | some action =>
    rw [act_present present] at ran
    obtain ⟨⟨result, reached⟩, done, same⟩ := Option.map_eq_some_iff.mp ran
    cases same
    obtain ⟨busy_after, log, trace, report⟩ := Program.run_tells handled done busy
    refine ⟨busy_after,
      .actionBegan submission.event submission.payload session.machine.current ::
        (log ++ [.actionEnded submission.event result]), by simp [trace], ?_⟩
    rw [busy.setup.table]
    exact .action (by rw [← callbacks, present]) report

private theorem enter_tells (token : Token) : Run.Tells machine .entry (enter submit token) := by
  intro session outcome after ran busy
  have callbacks := busy.setup.callbacks
  cases present : session.machine.callbacks.entry? session.machine.current with
  | none =>
    simp only [enter, present] at ran
    cases ran
    exact ⟨busy, [], by simp, .noEntry (by rw [← callbacks, present])⟩
  | some entry =>
    rw [enter_present present] at ran
    obtain ⟨⟨result, reached⟩, done, same⟩ := Option.map_eq_some_iff.mp ran
    cases same
    obtain ⟨busy_after, log, trace, report⟩ := Program.run_tells handled done busy
    refine ⟨busy_after,
      .entryBegan session.machine.current session.machine.data ::
        (log ++ [.entryEnded session.machine.current result]), by simp [trace], ?_⟩
    rw [busy.setup.table]
    exact .entry (by rw [← callbacks, present]) report

theorem dispatch_tells (submission : Submission P) :
    Run.Tells machine (.dispatch submission) (dispatch submit submission) := by
  intro session outcome after dispatched busy
  cases decided : session.target submission with
  | error failure =>
    rw [dispatch_refused decided] at dispatched
    cases dispatched
    exact ⟨busy, [.dispatched submission session.machine.depth, .refused failure], by simp, .refused⟩
  | ok target =>
    rw [dispatch_found decided] at dispatched
    obtain ⟨⟨result, reached⟩, ran, same⟩ := Option.map_eq_some_iff.mp dispatched
    cases same
    have resolved := (target_eq_ok_iff.mp decided).resolved
    rw [busy.setup.table] at resolved
    have begun : machine.Busy
        ((session.dispatched submission).apply submission.event target session.now).machine :=
      busy.of_same ⟨rfl, rfl, rfl⟩ rfl
    rw [runCallbacks_eq, Run.andThen_eq_some_iff] at ran
    rcases ran with ⟨between, acted, entered⟩ | ⟨failure, rfl, failed⟩
    · obtain ⟨busy, first, begins, action⟩ := act_tells handled submission acted begun
      obtain ⟨busy, second, goes, entry⟩ := enter_tells handled _ entered busy
      exact ⟨busy.of_same ⟨rfl, rfl, rfl⟩ rfl,
        .dispatched submission session.machine.depth :: .applied (session.transition submission target) ::
          (first ++ (second ++ [.settled submission.event outcome])),
        by simp [goes, begins, transition], .applied resolved action entry⟩
    · obtain ⟨busy, first, begins, action⟩ := act_tells handled submission failed begun
      exact ⟨busy.of_same ⟨rfl, rfl, rfl⟩ rfl,
        .dispatched submission session.machine.depth :: .applied (session.transition submission target) ::
          (first ++ [.settled submission.event (.error failure)]),
        by simp [begins, transition], .failed resolved action⟩

private theorem drain_tells (fuel : Nat) : Run.Tells machine .queue (drain submit fuel) := by
  induction fuel using Nat.strongRecOn with
  | ind fuel ih =>
    intro session outcome after drained busy
    rcases drain_cases drained with ⟨empty, rfl, rfl⟩ | ⟨submission, rest, less, first, rfl, parts⟩
    · exact ⟨busy, [], by simp, .drained⟩
    have begun : machine.Busy (session.dequeue rest).machine := busy.of_same ⟨rfl, rfl, rfl⟩ rfl
    rcases Run.andThen_eq_some_iff.mp parts with ⟨reached, dispatched, drained⟩ | ⟨failure, rfl, failed⟩
    · obtain ⟨busy, inner, begins, dispatch⟩ := dispatch_tells handled submission dispatched begun
      obtain ⟨busy, log, goes, queue⟩ := ih less (Nat.lt_succ_self less) drained busy
      exact ⟨busy, .taken :: (inner ++ log), by simp [goes, begins], .served dispatch queue⟩
    · obtain ⟨busy, log, goes, dispatch⟩ := dispatch_tells handled submission failed begun
      exact ⟨busy, .taken :: log, by simp [goes], .stopped dispatch⟩

end Session

end Handled

theorem Session.submit_tells (fuel : Nat) (submission : Submission P) :
    (Session.submit fuel submission : Run D P σ _).Tells machine (.submission submission) := by
  induction fuel using Nat.strongRecOn generalizing submission with
  | ind fuel ih =>
    intro session outcome after submitted busy
    have policy := busy.setup.policy
    rcases submit_cases submitted with ⟨queued, draining, rfl, rfl⟩ | ⟨less, rfl, ran⟩
    · exact ⟨busy.of_same ⟨rfl, rfl, rfl⟩ rfl, _, session.trace_defer submission,
        .deferred (by rw [← policy, queued])⟩
    rcases ran with ⟨nested, dispatched⟩ | ⟨queued, idle, _⟩
    · obtain ⟨busy, log, trace, report⟩ :=
        dispatch_tells (ih less (Nat.lt_succ_self less)) submission dispatched busy
      exact ⟨busy, log, trace, .nested (by rw [← policy, nested]) report⟩
    · -- In queued mode the queue is open already, so no other one is opened.
      rcases busy.inside with nested | draining
      · cases nested.symm.trans queued
      · cases draining.symm.trans idle

/-- The queue may be closed with a word about what is dropped from it. -/
def Closing (closing : List (Event D P)) : Prop := closing = [] ∨ ∃ count, closing = [.dropped count]

theorem Session.closing (session : Session D P σ) :
    ∃ closing, session.close.world.trace = session.world.trace ++ closing ∧ Closing closing := by
  refine ⟨_, session.trace_close, ?_⟩
  by_cases empty : session.machine.pending = []
  · exact .inl (if_pos empty)
  · exact .inr ⟨session.machine.pending.length, if_neg empty⟩

/-- The events that a call of a machine at rest may report, and the state that it leaves the machine in. -/
inductive Call.Report (machine : Machine D P σ) :
    Call P → Except Failure Unit → List (Event D P) → StateId → Prop where
  | unknown {token : Token} {failure : Failure} (absent : machine.table.findEvent key = .error failure) :
      Report machine (.trigger key payload token) (.error failure) [] machine.current
  | trigger {token : Token} (mode : machine.policy.dispatch = .nested)
      (known : machine.table.findEvent key = .ok event)
      (submitted : StateMachine.Report machine (.submission ⟨event, payload, token⟩ outcome) machine.current
        log last) :
      Report machine (.trigger key payload token) outcome log last
  | start {token : Token} (mode : machine.policy.dispatch = .nested)
      (entered : StateMachine.Report machine (.entry outcome) machine.current log last) :
      Report machine (.start token) outcome log last
  | queuedTrigger {token : Token} (mode : machine.policy.dispatch = .queued)
      (known : machine.table.findEvent key = .ok event)
      (served : StateMachine.Report machine (.queue outcome) machine.current log last)
      (closes : Closing closing) :
      Report machine (.trigger key payload token) outcome
        (.accepted ⟨event, payload, token⟩ :: (log ++ closing)) last
  | queuedStart {token : Token} (mode : machine.policy.dispatch = .queued)
      (entered : StateMachine.Report machine (.entry (.ok ())) machine.current first between)
      (served : StateMachine.Report machine (.queue outcome) between log last) (closes : Closing closing) :
      Report machine (.start token) outcome (first ++ (log ++ closing)) last
  | haltedStart {token : Token} {failure : Failure} (mode : machine.policy.dispatch = .queued)
      (entered : StateMachine.Report machine (.entry (.error failure)) machine.current log last)
      (closes : Closing closing) :
      Report machine (.start token) (.error failure) (log ++ closing) last

/-- Whatever a call that returns has reported is a report of such a call. -/
theorem Call.Returns.report {call : Call P} {session after : Session D P σ} {outcome : Except Failure Unit}
    (returned : call.Returns session outcome after) (idle : session.machine.draining = false) :
    ∃ log, after.world.trace = session.world.trace ++ log ∧
      call.Report session.machine outcome log after.machine.current := by
  obtain ⟨fuel, ran⟩ := returned
  have tells (less : Nat) (submission : Submission P) :
      (Session.submit less submission : Run D P σ _).Tells session.machine (.submission submission) :=
    Session.submit_tells less submission
  cases call with
  | trigger key payload token =>
    simp only [Call.run, Session.trigger] at ran
    cases known : session.machine.table.findEvent key with
    | error failure =>
      simp only [known] at ran
      cases ran
      exact ⟨[], by simp, .unknown known⟩
    | ok event =>
      simp only [known] at ran
      cases mode : session.machine.policy.dispatch with
      | nested =>
        obtain ⟨_, log, trace, submitted⟩ := tells fuel _ ran ⟨⟨rfl, rfl, rfl⟩, .inl mode⟩
        exact ⟨log, trace, .trigger mode known submitted⟩
      | queued =>
        rcases Session.submit_cases ran with ⟨_, draining, _⟩ | ⟨less, rfl, ⟨nested, _⟩ | ⟨_, _, ran⟩⟩
        · cases idle.symm.trans draining
        · cases mode.symm.trans nested
        obtain ⟨drained, drains, rfl⟩ := Session.runQueued_eq_some_iff.mp ran
        rw [Run.andThen_ok rfl] at drains
        obtain ⟨_, log, trace, served⟩ :=
          Session.drain_tells (tells less) less drains ⟨⟨rfl, rfl, rfl⟩, .inr rfl⟩
        obtain ⟨closing, closed, closes⟩ := drained.closing
        refine ⟨.accepted ⟨event, payload, token⟩ :: (log ++ closing), by simp [closed, trace], ?_⟩
        rw [Session.machine_close]
        exact .queuedTrigger mode known served closes
  | start token =>
    simp only [Call.run, Session.start] at ran
    cases mode : session.machine.policy.dispatch with
    | nested =>
      simp only [mode] at ran
      obtain ⟨_, log, trace, entered⟩ :=
        Session.enter_tells (tells fuel) token ran ⟨⟨rfl, rfl, rfl⟩, .inl mode⟩
      exact ⟨log, trace, .start mode entered⟩
    | queued =>
      simp only [mode, idle] at ran
      obtain ⟨drained, parts, rfl⟩ := Session.runQueued_eq_some_iff.mp ran
      obtain ⟨closing, closed, closes⟩ := drained.closing
      rw [Session.machine_close]
      have busy : session.machine.Busy (session.setDraining true).machine := ⟨⟨rfl, rfl, rfl⟩, .inr rfl⟩
      rcases Run.andThen_eq_some_iff.mp parts with ⟨reached, entered, drains⟩ | ⟨failure, rfl, failed⟩
      · obtain ⟨busy, first, begins, entered⟩ := Session.enter_tells (tells fuel) token entered busy
        obtain ⟨_, log, goes, served⟩ := Session.drain_tells (tells fuel) fuel drains busy
        exact ⟨first ++ (log ++ closing), by simp [closed, goes, begins],
          .queuedStart mode entered served closes⟩
      · obtain ⟨_, log, goes, entered⟩ := Session.enter_tells (tells fuel) token failed busy
        exact ⟨log ++ closing, by simp [closed, goes], .haltedStart mode entered closes⟩

end StateMachine
