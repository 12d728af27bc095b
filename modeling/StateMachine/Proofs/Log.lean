import StateMachine.Machine.Log
import StateMachine.Proofs.Line
import StateMachine.Proofs.Order
import StateMachine.Proofs.Unrecorded

/-!
What the log tells: the transitions that the journal gains, the dispatches for which there is no rule, the
triggers of callbacks that join the queue, and how many of them are dropped in the end.
-/
namespace StateMachine

variable {D P σ : Type}

/-- The records with this message, in the order in which they are reported. -/
def records (table : Table) (message : String) (events : List (Event D P)) : List LogRecord :=
  (events.filterMap (Event.log? table)).filter fun record => record.message = message

namespace Table

variable (table : Table)

def logApplied (transition : Transition) : LogRecord :=
  ⟨.debug, "applied transition",
    [("machine", .text table.name), ("from", .text (table.stateLabel transition.source)),
      ("to", .text (table.stateLabel transition.target)),
      ("event", .text (table.eventLabel transition.event)), ("depth", .count transition.depth)]⟩

def logRejected (state event : String) : LogRecord :=
  ⟨.debug, "rejected invalid transition",
    [("machine", .text table.name), ("state", .text state), ("event", .text event)]⟩

def logDeferred (event : EventId) (waiting : Nat) : LogRecord :=
  ⟨.trace, "deferred reentrant trigger",
    [("machine", .text table.name), ("event", .text (table.eventLabel event)), ("queued", .count waiting)]⟩

def logDropped (count : Nat) : LogRecord :=
  ⟨.debug, "dropped queued triggers after failure",
    [("machine", .text table.name), ("dropped", .count count)]⟩

end Table

/-- The state and the event of an invalid transition, if that is what a dispatch failed with. -/
def Failure.invalid? : Failure → Option (String × String)
  | .invalidTransition state event => some (state, event)
  | _ => none

/-- The state and the event of a result that is an invalid transition. -/
def invalid? : Except Failure Unit → Option (String × String)
  | .error failure => failure.invalid?
  | .ok () => none

private theorem invalid?_mapError (callback : Callback) (result : Except Cause Unit) :
    invalid? (result.mapError (.callback callback)) = none := by
  cases result <;> rfl

namespace Event

def rejection? : Event D P → Option (String × String)
  | .refused failure => failure.invalid?
  | _ => none

def deferral? : Event D P → Option (EventId × Nat)
  | .deferred event waiting => some (event, waiting)
  | _ => none

def drop? : Event D P → Option Nat
  | .dropped count => some count
  | _ => none

end Event

private theorem results_append (first second : List (Event D P)) :
    results (first ++ second) = results first ++ results second := List.filterMap_append

private theorem dispatches_append (first second : List (Event D P)) :
    dispatches (first ++ second) = dispatches first ++ dispatches second := List.filterMap_append

private theorem accepted_append (first second : List (Event D P)) :
    accepted (first ++ second) = accepted first ++ accepted second := List.filterMap_append

def deferrals (events : List (Event D P)) : List (EventId × Nat) := events.filterMap Event.deferral?

private theorem deferrals_append (first second : List (Event D P)) :
    deferrals (first ++ second) = deferrals first ++ deferrals second := List.filterMap_append

def drops (events : List (Event D P)) : List Nat := events.filterMap Event.drop?

private theorem drops_append (first second : List (Event D P)) :
    drops (first ++ second) = drops first ++ drops second := List.filterMap_append

section Records

variable (table : Table)

private theorem records_eq_map {α : Type} {message : String} (read : Event D P → Option α)
    (write : α → LogRecord)
    (reads : ∀ event, (event.log? table).filter (fun record => record.message = message) =
      (read event).map write) (events : List (Event D P)) :
    records table message events = (events.filterMap read).map write := by
  rw [records, List.filter_filterMap, List.map_filterMap]
  exact congrArg (events.filterMap ·) (funext reads)

private theorem records_applied (events : List (Event D P)) :
    records table "applied transition" events = (transitions events).map table.logApplied := by
  refine records_eq_map table _ _ (fun event => ?_) events
  cases event with
  | refused failure => cases failure <;> rfl
  | _ => rfl

private theorem records_rejected (events : List (Event D P)) :
    records table "rejected invalid transition" events =
      (events.filterMap Event.rejection?).map fun place => table.logRejected place.1 place.2 := by
  refine records_eq_map table _ _ (fun event => ?_) events
  cases event with
  | refused failure => cases failure <;> rfl
  | _ => rfl

private theorem records_deferred (events : List (Event D P)) :
    records table "deferred reentrant trigger" events =
      (deferrals events).map fun deferral => table.logDeferred deferral.1 deferral.2 := by
  refine records_eq_map table _ _ (fun event => ?_) events
  cases event with
  | refused failure => cases failure <;> rfl
  | _ => rfl

private theorem records_dropped (events : List (Event D P)) :
    records table "dropped queued triggers after failure" events =
      (drops events).map table.logDropped := by
  refine records_eq_map table _ _ (fun event => ?_) events
  cases event with
  | refused failure => cases failure <;> rfl
  | _ => rfl

end Records

/-- Every dispatch has a result, and those results that are invalid transitions are reported as such. -/
structure Answered (log : List (Event D P)) : Prop where
  each : (results log).length = (dispatches log).length
  rejected : log.filterMap Event.rejection? = (results log).filterMap invalid?

namespace Answered

variable {first second log : List (Event D P)}

theorem nil : Answered ([] : List (Event D P)) := ⟨rfl, rfl⟩

theorem append (begins : Answered first) (goes : Answered second) : Answered (first ++ second) := by
  constructor
  · rw [results_append, dispatches_append, List.length_append, List.length_append, begins.each, goes.each]
  · rw [results_append, List.filterMap_append, List.filterMap_append, begins.rejected, goes.rejected]

/-- What is neither a dispatch nor a result does not matter. -/
theorem cons {event : Event D P} (apart : event.dispatch? = none) (quiet : event.result? = none)
    (answered : Answered log) : Answered (event :: log) := by
  have calm : event.rejection? = none := by
    cases event with
    | refused failure => cases quiet
    | _ => rfl
  refine ⟨?_, ?_⟩
  · simpa only [results, dispatches, List.filterMap_cons, apart, quiet] using answered.each
  · simpa only [results, List.filterMap_cons, calm, quiet] using answered.rejected

theorem refused {submission : Submission P} {depth : Nat} {failure : Failure} :
    Answered ([.dispatched submission depth, .refused failure] : List (Event D P)) := by
  refine ⟨rfl, ?_⟩
  cases failure <;> rfl

/-- A dispatch is applied, and settles with something else than an invalid transition. -/
theorem settled {submission : Submission P} {depth : Nat} {transition : Transition} {event : EventId}
    {outcome : Except Failure Unit} (answered : Answered log) (calm : invalid? outcome = none) :
    Answered (.dispatched submission depth :: .applied transition :: (log ++ [.settled event outcome])) := by
  have each := answered.each
  have rejected := answered.rejected
  refine ⟨?_, ?_⟩
  · simpa [results, dispatches, List.filterMap_cons, Event.result?, Event.dispatch?] using each
  · simpa [results, List.filterMap_cons, Event.result?, Event.rejection?, calm] using rejected

end Answered

namespace Report

variable {machine : Machine D P σ} {state last : StateId} {log : List (Event D P)}

theorem calm {part : Part P} {outcome : Except Failure Unit} (report : Report machine part state log last)
    (inner : part = .entry outcome ∨ ∃ submission, part = .action submission outcome) :
    invalid? outcome = none := by
  cases report with
  | noAction absent | noEntry absent =>
    rcases inner with same | ⟨_, same⟩ <;> cases same
    rfl
  | action present ran | entry present ran =>
    rcases inner with same | ⟨_, same⟩ <;> cases same
    exact invalid?_mapError _ _
  | _ => rcases inner with same | ⟨_, same⟩ <;> cases same

private theorem answered {part : Part P} (report : Report machine part state log last) : Answered log := by
  induction report with
  | finished | noAction | noEntry | drained => exact .nil
  | wrote onward ih | raised onward ih => exact .cons rfl rfl ih
  | triggered submitted onward submits ih => exact submits.append ih
  | nested mode dispatched ih => exact ih
  | deferred mode => exact .cons rfl rfl (.cons rfl rfl .nil)
  | refused => exact .refused
  | action present ran ih | entry present ran ih => exact .cons rfl rfl (ih.append (.cons rfl rfl .nil))
  | applied resolved acted entered acts enters =>
    rw [← List.append_assoc]
    exact .settled (acts.append enters) (entered.calm (.inl rfl))
  | failed resolved acted acts => exact .settled acts (acted.calm (.inr ⟨_, rfl⟩))
  | served dispatched onward dispatches ih => exact .cons rfl rfl (dispatches.append ih)
  | stopped dispatched ih => exact .cons rfl rfl ih

private theorem last_result {submission : Submission P} {outcome : Except Failure Unit}
    (report : Report machine (.dispatch submission outcome) state log last) :
    (results log).getLast? = some outcome := by
  cases report with
  | refused => rfl
  | applied | failed => simp [results, List.filterMap_cons, Event.result?]

end Report

private theorem Closing.answered {closing : List (Event D P)} (closes : Closing closing) :
    Answered closing := by
  rcases closes with rfl | ⟨count, rfl⟩
  · exact .nil
  · exact .cons rfl rfl .nil

private theorem Call.Report.answered {machine : Machine D P σ} {call : Call P}
    {outcome : Except Failure Unit}
    {log : List (Event D P)} {last : StateId} (report : call.Report machine outcome log last) :
    Answered log := by
  cases report with
  | unknown absent => exact .nil
  | trigger mode known submitted => exact submitted.answered
  | start mode entered => exact entered.answered
  | queuedTrigger mode known served closes => exact .cons rfl rfl (served.answered.append closes.answered)
  | queuedStart mode entered served closes =>
    exact entered.answered.append (served.answered.append closes.answered)
  | haltedStart mode entered closes => exact entered.answered.append closes.answered

/-- How many of the submissions that have been accepted wait to be dispatched. -/
def waiting (events : List (Event D P)) : Nat := (accepted events).length - (dispatches events).length

/-- The submissions that join the queue after some earlier events, each with the number of those that wait
once it has joined. -/
def joinings (earlier : List (Event D P)) : List (Event D P) → List (Submission P × Nat)
  | [] => []
  | event :: later =>
    event.acceptance?.toList.map (fun submission => (submission, waiting (earlier ++ [event]))) ++
      joinings (earlier ++ [event]) later

private theorem joinings_append (earlier first second : List (Event D P)) :
    joinings earlier (first ++ second) = joinings earlier first ++ joinings (earlier ++ first) second := by
  induction first generalizing earlier with
  | nil => simp [joinings]
  | cons event first ih => simp only [List.cons_append, joinings, ih, List.append_assoc, List.nil_append]

private theorem joinings_quiet {earlier events : List (Event D P)} (quiet : accepted events = []) :
    joinings earlier events = [] := by
  induction events generalizing earlier with
  | nil => rfl
  | cons event events ih =>
    cases joins : event.acceptance? with
    | some submission => simp [accepted, joins] at quiet
    | none =>
      rw [accepted, List.filterMap_cons_none joins] at quiet
      simp [joinings, joins, ih quiet]

private theorem waiting_accepted {past : List (Event D P)} {pending : List (Submission P)}
    (submission : Submission P) (counts : accepted past = dispatches past ++ pending) :
    waiting (past ++ [.accepted submission]) = pending.length + 1 := by
  have joins : accepted [(.accepted submission : Event D P)] = [submission] := rfl
  have leaves : dispatches [(.accepted submission : Event D P)] = [] := rfl
  rw [waiting, accepted_append, dispatches_append, counts, joins, leaves]
  simp only [List.length_append, List.length_cons, List.length_nil]
  omega

private theorem joinings_deferred (earlier : List (Event D P)) (submission : Submission P) (event : EventId)
    (count : Nat) :
    joinings earlier [.accepted submission, .deferred event count] =
      [(submission, waiting (earlier ++ [.accepted submission]))] := rfl

/-- What the trigger of a known event reports first in queued mode: that it has joined the queue itself. -/
def Call.own (table : Table) : Call P → List (Event D P)
  | .trigger key payload token =>
    match table.findEvent key with
    | .ok event => [.accepted ⟨event, payload, token⟩]
    | .error _ => []
  | .start _ => []

/-- A trigger from outside is neither deferred nor dropped when it joins the queue. -/
theorem Call.own_quiet (table : Table) (call : Call P) :
    deferrals (call.own table : List (Event D P)) = [] ∧ drops (call.own table : List (Event D P)) = [] := by
  unfold Call.own
  split
  · split <;> exact ⟨rfl, rfl⟩
  · exact ⟨rfl, rfl⟩

/-- Nothing is left to be done. -/
def Moment.Finished (moment : Moment D P σ) : Prop :=
  ∃ outcome, moment.control = .outcome outcome ∧ moment.stack = []

/-- While the queue is open, all that joins it is reported as deferred, and nothing is dropped before the
queue is closed. -/
theorem Step.logs {before after : Moment D P σ} (step : Step before after)
    (queued : before.session.machine.policy.dispatch = .queued)
    (draining : before.session.machine.draining = true) (bottomed : Frame.Bottomed before.stack) :
    ∃ more, after.session.world.trace = before.session.world.trace ++ more ∧
      ((∃ submission, before.control = .submit submission ∧ more =
          [.accepted submission, .deferred submission.event (before.session.machine.pending.length + 1)]) ∨
        accepted more = [] ∧ deferrals more = []) ∧
      (drops more = [] ∨ after.Finished) := by
  cases step with
  | nest nested => cases nested.symm.trans queued
  | drain _ idle => cases idle.symm.trans draining
  | defer => exact ⟨_, Session.trace_defer _ _, .inl ⟨_, rfl, rfl⟩, .inl rfl⟩
  | refuse refused => exact ⟨[_, _], List.append_assoc .., .inr ⟨rfl, rfl⟩, .inl rfl⟩
  | apply found => exact ⟨[_, _], List.append_assoc .., .inr ⟨rfl, rfl⟩, .inl rfl⟩
  | skipAction | skipEntry | look | share | read | misname | trigger | resume =>
    exact ⟨[], (List.append_nil _).symm, .inr ⟨rfl, rfl⟩, .inl rfl⟩
  | close empty =>
    exact ⟨[], by simp [Session.trace_close, empty], .inr ⟨rfl, rfl⟩, .inl rfl⟩
  | abandon =>
    refine ⟨_, Session.trace_close _, .inr ?_, .inr ⟨_, rfl, bottomed.last⟩⟩
    split
    · exact ⟨rfl, rfl⟩
    · exact ⟨rfl, rfl⟩
  | _ => exact ⟨[_], rfl, .inr ⟨rfl, rfl⟩, .inl rfl⟩

/-- While something waits, the queue is open, and waits below the rest. What has been accepted and not
dispatched is taken or pending. -/
theorem Moment.InLine.serves {session : Session D P σ} {moment : Moment D P σ} (line : moment.InLine session)
    (waits : moment.stack ≠ []) :
    moment.session.machine.draining = true ∧ Frame.Bottomed moment.stack ∧
      ∀ past, moment.session.world.trace = session.world.trace ++ past →
        accepted past = dispatches past ++ (moment.control.taken ++ moment.session.machine.pending) := by
  cases line with
  | fresh | closed => exact absurd rfl waits
  | serving draining bottomed dispatched accepts =>
    refine ⟨draining, bottomed, fun past trace => ?_⟩
    rw [trace, dispatches_append, List.append_cancel_left_eq] at dispatched
    rw [trace, accepted_append, List.append_cancel_left_eq] at accepts
    rw [accepts, dispatched, List.append_assoc]

/-- How far the log has come at a moment of a call that has opened its queue: whatever has joined the queue
since then is reported as deferred, and nothing has been dropped before the end. -/
structure Moment.Logged (session : Session D P σ) (own : List (Event D P)) (moment : Moment D P σ) :
    Prop where
  line : moment.InLine session
  under : moment.stack ≠ [] ∨ moment.Finished
  log : ∃ later, moment.session.world.trace = session.world.trace ++ (own ++ later) ∧
    deferrals later = (joinings own later).map (fun joining => (joining.1.event, joining.2)) ∧
    (drops later = [] ∨ moment.Finished)

private theorem Moment.Finished.no_step {before after : Moment D P σ} (finished : before.Finished) :
    ¬ Step before after := by
  intro step
  obtain ⟨control, stack, session⟩ := before
  obtain ⟨outcome, rfl, rfl⟩ := finished
  cases step

theorem Moment.Finished.stays {moment later : Moment D P σ} (finished : moment.Finished)
    (steps : Steps moment later) : later = moment := by
  rcases steps.cases_head with rfl | ⟨_, step, _⟩
  · rfl
  · exact absurd step finished.no_step

private theorem Step.logged {session : Session D P σ} {own : List (Event D P)} {before after : Moment D P σ}
    (step : Step before after) (queued : before.session.machine.policy.dispatch = .queued)
    (logged : before.Logged session own) : after.Logged session own := by
  obtain ⟨line, under, later, trace, deferred, dropped⟩ := logged
  have running : ¬ before.Finished := fun finished => finished.no_step step
  obtain ⟨draining, bottomed, accepts⟩ := line.serves (under.resolve_right running)
  obtain ⟨more, goes, joins, drop⟩ := step.logs queued draining bottomed
  refine ⟨step.inLine queued line, ?_, later ++ more, ?_, ?_, ?_⟩
  · rcases step.queue queued draining bottomed with ⟨_, ⟨inner, stack, _⟩, _⟩ | ⟨outcome, ended, empty, _⟩
    · exact .inl (by simp [stack])
    · exact .inr ⟨outcome, ended, empty⟩
  · rw [goes, trace, List.append_assoc, List.append_assoc]
  · rw [deferrals_append, deferred, joinings_append, List.map_append]
    congr 1
    rcases joins with ⟨submission, submitted, rfl⟩ | ⟨quiet, none⟩
    · have counts := accepts _ trace
      simp only [submitted, Control.taken, List.nil_append] at counts
      rw [joinings_deferred, waiting_accepted submission counts]
      rfl
    · rw [joinings_quiet quiet]
      exact none
  · rw [drops_append, dropped.resolve_right running, List.nil_append]
    exact drop

private theorem Steps.logged {session : Session D P σ} {own : List (Event D P)}
    {before after : Moment D P σ}
    (steps : Steps before after) (queued : before.session.machine.policy.dispatch = .queued)
    (logged : before.Logged session own) : after.Logged session own := by
  induction steps with
  | refl => exact logged
  | tail steps step ih =>
    refine step.logged ?_ ih
    rw [Steps.setup steps |>.policy]
    exact queued

private theorem Call.logged {call : Call P} {session : Session D P σ} {moment : Moment D P σ}
    (queued : session.machine.policy.dispatch = .queued) (quiescent : session.machine.Quiescent)
    (reached : Steps (call.moment session) moment) (begun : moment.control.submitted = []) :
    moment.Logged session (call.own session.machine.table) := by
  have same := (call.moment_dispatch session).trans queued
  have line := call.moment_inLine quiescent queued
  cases call with
  | start token =>
    refine reached.logged same ⟨line, .inl ?_, [], ?_, rfl, .inl rfl⟩
    · simp [Call.moment, queued, quiescent.draining]
    · rw [Call.moment_world]
      exact (List.append_nil _).symm
  | trigger key payload token =>
    cases known : session.machine.table.findEvent key with
    | error failure =>
      refine reached.logged same ⟨line, .inr ?_, [], ?_, rfl, .inl rfl⟩
      · simp [Call.moment, known, Moment.Finished]
      · simp [Call.moment_world, own, known]
    | ok event =>
      rcases reached.cases_head with rfl | ⟨next, step, onward⟩
      · simp [Call.moment, known, Control.submitted] at begun
      · have line := step.inLine same line
        simp only [Call.moment, known] at step
        cases step with
        | nest nested => cases nested.symm.trans queued
        | defer _ draining => cases draining.symm.trans quiescent.draining
        | drain _ _ =>
          refine Steps.logged onward queued ⟨line, .inl (List.cons_ne_nil _ _), [], ?_, rfl, .inl rfl⟩
          simp [own, known]

/-- The step from an open queue to the end of a call closes the queue. -/
theorem Step.closes {before : Moment D P σ} {outcome : Except Failure Unit} {after : Session D P σ}
    (step : Step before ⟨.outcome outcome, [], after⟩) (bottomed : Frame.Bottomed before.stack) :
    before = ⟨.outcome outcome, [.draining], before.session⟩ ∧ after = before.session.close ∧
      (outcome = .ok () → before.session.machine.pending = []) := by
  cases step with
  | close empty => exact ⟨rfl, rfl, fun _ => empty⟩
  | abandon => exact ⟨rfl, rfl, nofun⟩
  | settle =>
    obtain ⟨inner, impossible, _⟩ := bottomed.pop nofun
    simp at impossible
  | _ =>
    obtain ⟨inner, impossible, _⟩ := bottomed
    simp at impossible

/-- A call in queued mode that returns has failed at once, or closes its queue in the end. -/
theorem Call.Returns.closes {call : Call P} {session after : Session D P σ} {outcome : Except Failure Unit}
    (returned : call.Returns session outcome after) (queued : session.machine.policy.dispatch = .queued)
    (quiescent : session.machine.Quiescent) :
    (call.moment session).Finished ∨ ∃ last : Session D P σ,
      Steps (call.moment session) ⟨.outcome outcome, [.draining], last⟩ ∧ after = last.close ∧
      (outcome = .ok () → last.machine.pending = []) := by
  have same := (call.moment_dispatch session).trans queued
  rcases returned.steps.cases_tail with ended | ⟨before, steps, step⟩
  · exact .inl ⟨outcome, by rw [← ended], by rw [← ended]⟩
  · cases Steps.inLine steps same (call.moment_inLine quiescent queued) with
    | fresh idle =>
      cases step with
      | defer _ draining => cases draining.symm.trans idle
    | serving draining bottomed =>
      obtain ⟨closes, rfl, complete⟩ := step.closes bottomed
      rw [closes] at steps
      exact .inr ⟨_, steps, rfl, complete⟩
    | closed => cases step

/-- What is pending when the queue of a call is closed is dropped, and with it all that has been accepted
and not dispatched. -/
theorem Call.drops_pending {call : Call P} {session last : Session D P σ} {outcome : Except Failure Unit}
    {past : List (Event D P)} (queued : session.machine.policy.dispatch = .queued)
    (quiescent : session.machine.Quiescent)
    (reached : Steps (call.moment session) ⟨.outcome outcome, [.draining], last⟩)
    (trace : last.close.world.trace = session.world.trace ++ past) :
    drops past = (if last.machine.pending = [] then [] else [last.machine.pending.length]) ∧
      accepted past = dispatches past ++ last.machine.pending := by
  obtain ⟨line, _, later, begins, _, dropped⟩ := Call.logged queued quiescent reached rfl
  have none : drops later = [] := dropped.resolve_right (by simp [Moment.Finished])
  have accepts := (line.serves nofun).2.2 _ begins
  rw [Session.trace_close, begins, List.append_assoc, List.append_cancel_left_eq] at trace
  rw [← trace]
  by_cases empty : last.machine.pending = []
  · rw [if_pos empty, if_pos empty, List.append_nil, drops_append, (Call.own_quiet ..).2, none]
    exact ⟨rfl, accepts⟩
  · have joins : accepted [(.dropped last.machine.pending.length : Event D P)] = [] := rfl
    have leaves : dispatches [(.dropped last.machine.pending.length : Event D P)] = [] := rfl
    rw [if_neg empty, if_neg empty, drops_append, drops_append, (Call.own_quiet ..).2, none, accepted_append,
      dispatches_append, accepts, joins, leaves, List.append_nil, List.append_nil, List.append_nil]
    exact ⟨rfl, rfl⟩

/-- While nothing is pending in nested mode, nothing joins a queue, and nothing is dropped from one. -/
theorem Step.stays_empty {before after : Moment D P σ} (step : Step before after)
    (nested : before.session.machine.policy.dispatch = .nested)
    (empty : before.session.machine.pending = []) :
    after.session.machine.pending = [] ∧ drops after.session.world.trace = drops before.session.world.trace := by
  cases step with
  | defer queued _ | drain queued _ => cases nested.symm.trans queued
  | take first => cases first.symm.trans empty
  | close _ | abandon =>
    refine ⟨by simp, ?_⟩
    rw [Session.trace_close, if_pos empty, List.append_nil]
  | _ => exact ⟨by simpa using empty, by simp [drops, Event.drop?]⟩

private theorem Steps.stay_empty {before after : Moment D P σ} (steps : Steps before after)
    (nested : before.session.machine.policy.dispatch = .nested)
    (empty : before.session.machine.pending = []) :
    after.session.machine.pending = [] ∧ drops after.session.world.trace = drops before.session.world.trace := by
  induction steps with
  | refl => exact ⟨empty, rfl⟩
  | tail steps step ih =>
    have same := Steps.setup steps |>.policy
    obtain ⟨still, unchanged⟩ := step.stays_empty (by rw [same]; exact nested) ih.1
    exact ⟨still, unchanged.trans ih.2⟩

/-- A call fails with pending triggers if some are left when its queue is closed after a failure. -/
def Call.FailsPending (call : Call P) (session : Session D P σ) : Prop :=
  ∃ failure last, Steps (call.moment session) ⟨.outcome (.error failure), [.draining], last⟩ ∧
    last.machine.pending ≠ []

/-- When the queue of a call is closed after a failure, the call returns with this failure. -/
theorem Call.Returns.ends_closed {call : Call P} {session after last : Session D P σ}
    {outcome : Except Failure Unit} {failure : Failure} (returned : call.Returns session outcome after)
    (reached : Steps (call.moment session) ⟨.outcome (.error failure), [.draining], last⟩) :
    outcome = .error failure ∧ after = last.close := by
  rcases (returned.steps.ends reached).cases_head with impossible | ⟨next, step, rest⟩
  · cases impossible
  · cases step with
    | abandon =>
      cases Moment.Finished.stays ⟨_, rfl, rfl⟩ rest
      exact ⟨rfl, rfl⟩

/-- What the log says about a call: the transitions that it adds to the journal, the results of its
dispatches that are invalid transitions, the triggers of its callbacks that join the queue, each with the
number of submissions that then wait, and how many are dropped if it fails while some are pending. -/
structure Call.Accounted (call : Call P) (session after : Session D P σ) (past : List (Event D P)) :
    Prop where
  applied : session.machine.policy.recordHistory = true → ∃ added,
    after.machine.journal.transitions = session.machine.journal.transitions ++ added ∧
    records session.machine.table "applied transition" past = added.map session.machine.table.logApplied
  rejected : records session.machine.table "rejected invalid transition" past =
    ((results past).filterMap invalid?).map fun place => session.machine.table.logRejected place.1 place.2
  answered : (results past).length = (dispatches past).length
  deferred : session.machine.policy.dispatch = .queued → ∃ later,
    past = call.own session.machine.table ++ later ∧
    records session.machine.table "deferred reentrant trigger" past =
      (joinings (call.own session.machine.table) later).map fun joining =>
        session.machine.table.logDeferred joining.1.event joining.2
  dropped : ∃ dropped : List (Submission P),
    records session.machine.table "dropped queued triggers after failure" past =
      (if dropped = [] then [] else [session.machine.table.logDropped dropped.length]) ∧
    (dropped ≠ [] ↔ call.FailsPending session) ∧
    (session.machine.policy.dispatch = .queued → accepted past = dispatches past ++ dropped)

section Returned

variable {call : Call P} {session after : Session D P σ} {outcome : Except Failure Unit}
variable {past : List (Event D P)} (returned : call.Returns session outcome after)
  (quiescent : session.machine.Quiescent) (trace : after.world.trace = session.world.trace ++ past)
include returned quiescent trace

theorem Call.Returns.deferred (queued : session.machine.policy.dispatch = .queued) :
    ∃ later, past = call.own session.machine.table ++ later ∧
      deferrals past = (joinings (call.own session.machine.table) later).map fun joining =>
        (joining.1.event, joining.2) := by
  obtain ⟨_, _, later, same, deferred, _⟩ := Call.logged queued quiescent returned.steps rfl
  rw [trace, List.append_cancel_left_eq] at same
  exact ⟨later, same, by rw [same, deferrals_append, (Call.own_quiet ..).1, deferred, List.nil_append]⟩

theorem Call.Returns.dropped : ∃ dropped : List (Submission P),
    drops past = (if dropped = [] then [] else [dropped.length]) ∧
    (dropped ≠ [] ↔ call.FailsPending session) ∧
    (session.machine.policy.dispatch = .queued → accepted past = dispatches past ++ dropped) := by
  cases mode : session.machine.policy.dispatch with
  | nested =>
    have same := (call.moment_dispatch session).trans mode
    have empty : (call.moment session).session.machine.pending = [] := by
      obtain ⟨draining, machine⟩ := call.moment_machine session
      rw [machine]
      exact quiescent.pending
    have none := (returned.steps.stay_empty same empty).2
    rw [call.moment_world, trace, drops_append] at none
    refine ⟨[], List.append_right_eq_self.mp none, ⟨absurd rfl, ?_⟩, nofun⟩
    intro fails
    obtain ⟨failure, last, reached, pending⟩ := fails
    exact absurd (reached.stay_empty same empty).1 pending
  | queued =>
    rcases returned.closes mode quiescent with finished | ⟨last, reached, rfl, complete⟩
    · have stays := finished.stays returned.steps
      have same : after.world.trace = session.world.trace := by
        rw [← call.moment_world session, ← stays]
      rw [trace] at same
      obtain rfl := List.append_right_eq_self.mp same
      refine ⟨[], rfl, ⟨absurd rfl, fun fails => ?_⟩, fun _ => rfl⟩
      obtain ⟨failure, last, reached, _⟩ := fails
      cases (finished.stays reached).trans stays.symm
    · obtain ⟨drop, accepts⟩ := Call.drops_pending mode quiescent reached trace
      refine ⟨last.machine.pending, drop, ⟨fun pending => ?_, fun fails => ?_⟩, fun _ => accepts⟩
      · cases outcome with
        | ok => exact absurd (complete rfl) pending
        | error failure => exact ⟨failure, last, reached, pending⟩
      · obtain ⟨failure, other, reaches, pending⟩ := fails
        have again := Call.drops_pending mode quiescent reaches
          (by rw [← (returned.ends_closed reaches).2, trace])
        intro empty
        rw [drop, if_pos empty, if_neg pending] at again
        cases again.1

end Returned

/-- The log accounts for every trigger of a call. It tells of the transitions that the call adds to the
journal, of each dispatch that comes to an invalid transition, of each trigger of a callback that joins the
queue, with the number of submissions that have been accepted and not dispatched by then, and, exactly if
the call fails with pending triggers, of how many are dropped. Each dispatch on the way has one result, and
so has every dispatch within it. -/
theorem log_accounts_for_triggers {call : Call P} {session after : Session D P σ}
    {outcome : Except Failure Unit} (quiescent : session.machine.Quiescent)
    (returned : call.Returns session outcome after) :
    (∃ past, after.world.trace = session.world.trace ++ past ∧ call.Accounted session after past) ∧
    ∀ moment submission, Steps (call.moment session) moment → moment.control = .dispatch submission →
      ∃ result ended log, Steps moment ⟨.outcome result, moment.stack, ended⟩ ∧
        ended.world.trace = moment.session.world.trace ++ log ∧ Answered log ∧
        (results log).getLast? = some result := by
  constructor
  · obtain ⟨past, trace, report⟩ := returned.report quiescent.draining
    have answered := report.answered
    refine ⟨past, trace, fun kept => ?_, ?_, answered.each, fun queued => ?_, ?_⟩
    · obtain ⟨events, same, added⟩ := returned.journal kept
      rw [trace, List.append_cancel_left_eq] at same
      subst same
      exact ⟨transitions past, added, records_applied _ _⟩
    · rw [records_rejected, answered.rejected]
    · obtain ⟨later, same, deferred⟩ := returned.deferred quiescent trace queued
      refine ⟨later, same, ?_⟩
      rw [records_deferred, deferred, List.map_map]
      rfl
    · obtain ⟨dropped, drop, rest⟩ := returned.dropped quiescent trace
      refine ⟨dropped, ?_, rest⟩
      rw [records_dropped, drop]
      split <;> rfl
  · intro moment submission reached dispatching
    obtain ⟨fuel, result, ended, _, steps, log, trace, report, _⟩ :=
      (returned.moment_reports quiescent reached).dispatch submission dispatching
    exact ⟨result, ended, log, steps, trace, report.answered, report.last_result⟩

/-- The sample session in queued mode: the trigger of the entry is deferred, as the only one that waits. -/
theorem sample_log_accounts_for_triggers :
    (Sample.session { dispatch := .queued }).machine.Quiescent ∧ ∃ outcome after past,
      Call.Returns (.trigger (.name "run") () {}) (Sample.session { dispatch := .queued }) outcome after ∧
      after.world.trace = [] ++ past ∧
      Call.Accounted (.trigger (.name "run") () {}) (Sample.session { dispatch := .queued }) after past ∧
      records Sample.table "deferred reentrant trigger" past = [Sample.table.logDeferred ⟨1⟩ 1] := by
  have quiescent : (Sample.session { dispatch := .queued }).machine.Quiescent := ⟨rfl, rfl, rfl⟩
  have returned : Call.Returns (.trigger (.name "run") () {}) (Sample.session { dispatch := .queued }) _ _ :=
    ⟨3, rfl⟩
  obtain ⟨⟨past, trace, accounted⟩, _⟩ := log_accounts_for_triggers quiescent returned
  refine ⟨quiescent, _, _, past, returned, trace, accounted, ?_⟩
  rw [show past = _ from trace.symm]
  rfl

end StateMachine
