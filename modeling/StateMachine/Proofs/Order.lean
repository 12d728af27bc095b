import StateMachine.Proofs.Adequacy
import StateMachine.Proofs.Line
import StateMachine.Proofs.Report

/-!
The order of callbacks. A transition is followed at once by the action of its event. Callbacks end in the
opposite order to that in which they begin, and in queued mode there is never more than one of them.
-/
namespace StateMachine

variable {D P σ : Type}

/-- A callback that has begun. -/
inductive Running where
  | action (event : EventId)
  | entry (state : StateId)
  deriving DecidableEq

/-- The callbacks that are running after an event, the last one to begin first. Only this one can end. -/
def Event.track : List Running → Event D P → Option (List Running)
  | running, .actionBegan event _ _ => some (.action event :: running)
  | running, .entryBegan state _ => some (.entry state :: running)
  | .action begun :: running, .actionEnded event _ => if begun = event then some running else none
  | .entry begun :: running, .entryEnded state _ => if begun = state then some running else none
  | _, .actionEnded _ _ | _, .entryEnded _ _ => none
  | running, _ => some running

/-- Whether an event applies a transition or begins a callback. -/
def Event.starts : Event D P → Bool
  | .applied _ | .actionBegan _ _ _ | .entryBegan _ _ => true
  | _ => false

/-- The callbacks that are running after a log. -/
def track (running : List Running) (log : List (Event D P)) : Option (List Running) :=
  log.foldlM Event.track running

/-- Whatever begins comes to its end, and what was running before is running again, undisturbed. -/
def Bracketed (log : List (Event D P)) : Prop := ∀ running, track running log = some running

/-- Something holds of each event of a log, given what comes before it and what comes after it. -/
def Throughout (holds : List (Event D P) → Event D P → List (Event D P) → Prop)
    (log : List (Event D P)) : Prop :=
  ∀ before event later, log = before ++ event :: later → holds before event later

/-- An applied transition is followed at once by the beginning of the action of its event, if there is one,
and the state is then the one that the transition leads to. -/
def Prompt (machine : Machine D P σ) : List (Event D P) → Prop :=
  Throughout fun _ event later => ∀ transition action, event = .applied transition →
    machine.callbacks.action? transition.event = some action →
    ∃ payload, later.head? = some (.actionBegan transition.event payload transition.target)

/-- No transition is applied and no callback begins while a callback is running. -/
def Solitary : List (Event D P) → Prop :=
  Throughout fun before event _ => event.starts = true → track [] before = some []

/-- How transitions and callbacks follow one another in a log. -/
structure Orderly (machine : Machine D P σ) (log : List (Event D P)) : Prop where
  bracketed : Bracketed log
  prompt : Prompt machine log
  solitary : machine.policy.dispatch = .queued → Solitary log

section Logs

variable {event began ended : Event D P} {first second log : List (Event D P)}

private theorem track_append (running : List Running) (first second : List (Event D P)) :
    track running (first ++ second) = (track running first).bind fun running => track running second := by
  simp only [track, List.foldlM_append]
  rfl

private theorem track_cons (running : List Running) (event : Event D P) (log : List (Event D P)) :
    track running (event :: log) = (event.track running).bind fun running => track running log := rfl

private theorem throughout_cons {holds : List (Event D P) → Event D P → List (Event D P) → Prop} :
    Throughout holds (event :: log) ↔
      holds [] event log ∧ Throughout (fun before => holds (event :: before)) log := by
  constructor
  · intro all
    refine ⟨all [] event log rfl, ?_⟩
    intro before other later split
    exact all (event :: before) other later (congrArg (event :: ·) split)
  · rintro ⟨now, rest⟩ before other later split
    rcases List.cons_eq_append_iff.mp split with ⟨rfl, same⟩ | ⟨more, rfl, same⟩
    · cases same
      exact now
    · exact rest more other later same

theorem Throughout.append {holds : List (Event D P) → Event D P → List (Event D P) → Prop}
    (begins : Throughout (fun before event later => holds before event (later ++ second)) first)
    (goes : Throughout (fun before => holds (first ++ before)) second) :
    Throughout holds (first ++ second) := by
  induction first generalizing holds with
  | nil => exact goes
  | cons event first ih =>
    obtain ⟨now, begins⟩ := throughout_cons.mp begins
    exact throughout_cons.mpr ⟨now, ih begins goes⟩

theorem Throughout.imp {holds entails : List (Event D P) → Event D P → List (Event D P) → Prop}
    (all : Throughout holds log)
    (implies : ∀ before event later, holds before event later → entails before event later) :
    Throughout entails log :=
  fun before event later split => implies before event later (all before event later split)

theorem Bracketed.append (begins : Bracketed first) (goes : Bracketed second) :
    Bracketed (first ++ second) := by
  intro running
  rw [track_append, begins running]
  exact goes running

theorem Solitary.append (bracketed : Bracketed first) (begins : Solitary first) (goes : Solitary second) :
    Solitary (first ++ second) := by
  refine Throughout.append begins (goes.imp fun before event later alone starts => ?_)
  rw [track_append, bracketed]
  exact alone starts

private theorem solitary_of_quiet (quiet : ∀ event ∈ log, event.starts = false) : Solitary log := by
  intro before event later split starts
  have member : event ∈ log := by simp [split]
  cases (quiet event member).symm.trans starts

variable {machine : Machine D P σ}

theorem Prompt.append (begins : Prompt machine first) (goes : Prompt machine second) :
    Prompt machine (first ++ second) := by
  refine Throughout.append (begins.imp fun before event later prompt transition action applied present => ?_)
    goes
  obtain ⟨payload, head⟩ := prompt transition action applied present
  exact ⟨payload, by rw [List.head?_append, head, Option.some_or]⟩

namespace Orderly

theorem nil : Orderly machine ([] : List (Event D P)) :=
  ⟨fun _ => rfl, by simp [Prompt, Throughout], fun _ => solitary_of_quiet (by simp)⟩

theorem append (begins : Orderly machine first) (goes : Orderly machine second) :
    Orderly machine (first ++ second) :=
  ⟨begins.bracketed.append goes.bracketed, begins.prompt.append goes.prompt, fun queued =>
    .append begins.bracketed (begins.solitary queued) (goes.solitary queued)⟩

/-- An event that begins no callback and ends none may come first. If it is a transition, the action of its
event must come next. -/
theorem cons (still : ∀ running, event.track running = some running)
    (leads : ∀ transition action, event = .applied transition →
      machine.callbacks.action? transition.event = some action →
      ∃ payload, log.head? = some (.actionBegan transition.event payload transition.target))
    (orderly : Orderly machine log) : Orderly machine (event :: log) := by
  have passes (running : List Running) (later : List (Event D P)) :
      track running (event :: later) = track running later := by
    rw [track_cons, still, Option.bind_some]
  refine ⟨?_, throughout_cons.mpr ⟨leads, orderly.prompt⟩, ?_⟩
  · intro running
    exact (passes running log).trans (orderly.bracketed running)
  · intro queued
    refine throughout_cons.mpr ⟨fun _ => rfl, (orderly.solitary queued).imp ?_⟩
    intro before other later alone starts
    rw [passes]
    exact alone starts

/-- What happens between the beginning of a callback and its end stays between them. In queued mode nothing
starts there. -/
theorem around {callback : Running} (begins : ∀ running, began.track running = some (callback :: running))
    (ends : ∀ running, ended.track (callback :: running) = some running)
    (plain : ∀ transition, began ≠ .applied transition)
    (plain_too : ∀ transition, ended ≠ .applied transition)
    (quiet : machine.policy.dispatch = .queued → ∀ event ∈ log ++ [ended], event.starts = false)
    (inner : Orderly machine log) : Orderly machine (began :: (log ++ [ended])) := by
  refine ⟨?_, throughout_cons.mpr ⟨?_, ?_⟩, ?_⟩
  · intro running
    rw [track_cons, begins, Option.bind_some, track_append, inner.bracketed, Option.bind_some, track_cons,
      ends, Option.bind_some]
    rfl
  · intro transition _ applied
    exact absurd applied (plain transition)
  · refine inner.prompt.append (throughout_cons.mpr ⟨?_, ?_⟩)
    · intro transition _ applied
      exact absurd applied (plain_too transition)
    · simp [Throughout]
  · intro queued
    refine throughout_cons.mpr ⟨fun _ => rfl, ?_⟩
    intro before event later split starts
    have member : event ∈ log ++ [ended] := by simp [split]
    cases (quiet queued event member).symm.trans starts

end Orderly

end Logs

namespace Report

variable {machine : Machine D P σ} {state last : StateId} {log : List (Event D P)}

/-- In queued mode a callback only adds to the queue on its way. -/
theorem quiet {part : Part P} (report : Report machine part state log last)
    (queued : machine.policy.dispatch = .queued)
    (inner : part = .callback ∨ ∃ submission outcome, part = .submission submission outcome) :
    ∀ event ∈ log, event.starts = false := by
  induction report with
  | finished => simp
  | wrote onward ih => exact List.forall_mem_cons.mpr ⟨rfl, ih (.inl rfl)⟩
  | raised onward ih => exact List.forall_mem_cons.mpr ⟨rfl, ih (.inl rfl)⟩
  | triggered submitted onward submits ih =>
    exact List.forall_mem_append.mpr ⟨submits (.inr ⟨_, _, rfl⟩), ih (.inl rfl)⟩
  | nested mode dispatched _ => cases mode.symm.trans queued
  | deferred mode => simp [Event.starts]
  | _ => simp at inner

/-- The action of a dispatch, if there is one, begins in the state that the machine is in. -/
theorem leads {submission : Submission P} {outcome : Except Failure Unit} {action : Action D P σ}
    (report : Report machine (.action submission outcome) state log last)
    (present : machine.callbacks.action? submission.event = some action) (more : List (Event D P)) :
    ∃ payload, (log ++ more).head? = some (.actionBegan submission.event payload state) := by
  cases report with
  | noAction absent => cases absent.symm.trans present
  | action _ ran => exact ⟨submission.payload, rfl⟩

/-- Whatever part of a call is reported, the report is in order. -/
theorem orderly {part : Part P} (report : Report machine part state log last) : Orderly machine log := by
  induction report with
  | finished | noAction | noEntry | drained => exact .nil
  | wrote onward ih | raised onward ih => exact .cons (fun _ => rfl) nofun ih
  | triggered submitted onward submits ih => exact submits.append ih
  | nested mode dispatched ih => exact ih
  | deferred mode | refused => exact .cons (fun _ => rfl) nofun (.cons (fun _ => rfl) nofun .nil)
  | action present ran ih | entry present ran ih =>
    refine .around (fun _ => rfl) (fun _ => if_pos rfl) nofun nofun ?_ ih
    intro queued
    exact List.forall_mem_append.mpr ⟨ran.quiet queued (.inl rfl), by simp [Event.starts]⟩
  | applied resolved acted entered acts enters =>
    refine .cons (fun _ => rfl) nofun (.cons (fun _ => rfl) ?_ ?_)
    · rintro transition action ⟨⟩ present
      exact acted.leads present _
    · exact acts.append (enters.append (.cons (fun _ => rfl) nofun .nil))
  | failed resolved acted acts =>
    refine .cons (fun _ => rfl) nofun (.cons (fun _ => rfl) ?_ ?_)
    · rintro transition action ⟨⟩ present
      exact acted.leads present _
    · exact acts.append (.cons (fun _ => rfl) nofun .nil)
  | served dispatched onward dispatches ih => exact .cons (fun _ => rfl) nofun (dispatches.append ih)
  | stopped dispatched ih => exact .cons (fun _ => rfl) nofun ih

end Report

private theorem Closing.orderly {machine : Machine D P σ} {closing : List (Event D P)}
    (closes : Closing closing) :
    Orderly machine closing := by
  rcases closes with rfl | ⟨count, rfl⟩
  · exact .nil
  · exact .cons (fun _ => rfl) nofun .nil

private theorem Call.Report.orderly {machine : Machine D P σ} {call : Call P}
    {outcome : Except Failure Unit}
    {log : List (Event D P)} {last : StateId} (report : call.Report machine outcome log last) :
    Orderly machine log := by
  cases report with
  | unknown absent => exact .nil
  | trigger mode known submitted => exact submitted.orderly
  | start mode entered => exact entered.orderly
  | queuedTrigger mode known served closes =>
    exact .cons (fun _ => rfl) nofun (served.orderly.append closes.orderly)
  | queuedStart mode entered served closes =>
    exact entered.orderly.append (served.orderly.append closes.orderly)
  | haltedStart mode entered closes => exact entered.orderly.append closes.orderly

/-- While a call dispatches, its session is busy: in queued mode the queue is open then. -/
theorem Call.dispatches_busy {call : Call P} {session : Session D P σ} {moment : Moment D P σ}
    {submission : Submission P} (quiescent : session.machine.Quiescent)
    (reached : Steps (call.moment session) moment) (dispatching : moment.control = .dispatch submission) :
    session.machine.Busy moment.session.machine := by
  have setup := (call.moment_setup session).trans reached.setup
  refine ⟨setup, ?_⟩
  cases mode : session.machine.policy.dispatch with
  | nested => exact .inl (by rw [setup.policy, mode])
  | queued =>
    have begun : (call.moment session).session.machine.policy.dispatch = .queued := by
      rw [(call.moment_setup session).policy, mode]
    cases reached.inLine begun (call.moment_inLine quiescent mode) with
    | serving draining => exact .inr draining
    | fresh | closed => cases dispatching

/-- What happens from one session to another is an orderly report of a part of a call. -/
def Session.Reports (machine : Machine D P σ) (part : Part P) (before after : Session D P σ) : Prop :=
  ∃ log, after.world.trace = before.world.trace ++ log ∧
    Report machine part before.machine.current log after.machine.current ∧ Orderly machine log

theorem Session.Tells.reports {machine : Machine D P σ} {part : Part P} {before after : Session D P σ}
    (tells : Session.Tells machine part before after) : Session.Reports machine part before after := by
  obtain ⟨_, log, trace, report⟩ := tells
  exact ⟨log, trace, report, report.orderly⟩

/-- Whatever is dispatched or, in nested mode, triggered at a moment comes to an outcome, and is reported
until then. -/
structure Moment.Reports (machine : Machine D P σ) (moment : Moment D P σ) : Prop where
  dispatch : ∀ submission, moment.control = .dispatch submission → ∃ fuel outcome after,
    Session.dispatch (Session.submit fuel) submission moment.session = some (outcome, after) ∧
      Steps moment ⟨.outcome outcome, moment.stack, after⟩ ∧
      Session.Reports machine (.dispatch submission outcome) moment.session after
  trigger : machine.policy.dispatch = .nested → ∀ submission, moment.control = .submit submission →
    ∃ fuel outcome after, Session.submit fuel submission moment.session = some (outcome, after) ∧
      Steps moment ⟨.outcome outcome, moment.stack, after⟩ ∧
      Session.Reports machine (.submission submission outcome) moment.session after

theorem Call.Returns.moment_reports {call : Call P} {session after : Session D P σ}
    {outcome : Except Failure Unit} {moment : Moment D P σ} (returned : call.Returns session outcome after)
    (quiescent : session.machine.Quiescent) (reached : Steps (call.moment session) moment) :
    moment.Reports session.machine := by
  have setup := (call.moment_setup session).trans reached.setup
  obtain ⟨fuel, result, later, done⟩ := returned.finishes reached
  constructor
  · intro submission dispatching
    have busy := call.dispatches_busy quiescent reached dispatching
    obtain ⟨control, stack, reached_session⟩ := moment
    cases dispatching
    exact ⟨fuel, result, later, done, Session.dispatch_steps (Session.submit_handles fuel) done stack,
      (Session.dispatch_tells (Session.submit_tells fuel) submission done busy).reports⟩
  · intro nested submission submitting
    obtain ⟨control, stack, reached_session⟩ := moment
    cases submitting
    have busy : session.machine.Busy reached_session.machine := ⟨setup, .inl (by rw [setup.policy, nested])⟩
    exact ⟨fuel, result, later, done, Session.submit_handles fuel _ _ _ _ done stack,
      (Session.submit_tells fuel submission done busy).reports⟩

/-- What a call that returns has reported has the shape of such a call, and so has what each of its
dispatches and triggers has reported: a transition, then the action of its event, then, if there is no
action or it has not failed, the entry of the state that the machine is in by then. Callbacks are nested in
one another like brackets. In queued mode nothing starts while one of them is running. -/
theorem callbacks_in_order {call : Call P} {session after : Session D P σ} {outcome : Except Failure Unit}
    (quiescent : session.machine.Quiescent) (returned : call.Returns session outcome after) :
    (∃ log, after.world.trace = session.world.trace ++ log ∧
      call.Report session.machine outcome log after.machine.current ∧ Orderly session.machine log) ∧
    ∀ moment, Steps (call.moment session) moment → moment.Reports session.machine := by
  refine ⟨?_, fun moment reached => returned.moment_reports quiescent reached⟩
  obtain ⟨log, trace, report⟩ := returned.report quiescent.draining
  exact ⟨log, trace, report, report.orderly⟩

/-- The entry into the second state triggers the action that fails, which begins and ends within it. -/
theorem sample_callbacks_in_order :
    (Sample.session {}).machine.Quiescent ∧ ∃ outcome after,
      Call.Returns (.trigger (.name "run") () .unbounded) (Sample.session {}) outcome after ∧
      Call.Report (Sample.session {}).machine (.trigger (.name "run") () .unbounded) outcome
        after.world.trace after.machine.current ∧
      Orderly (Sample.session {}).machine after.world.trace ∧
      invocations after.world.trace = [.action ⟨0⟩ () ⟨1⟩, .entry ⟨1⟩ 1, .action ⟨1⟩ () ⟨2⟩] ∧
      (Call.moment (.trigger (.name "run") () .unbounded) (Sample.session {})).Reports
        (Sample.session {}).machine := by
  have quiescent : (Sample.session {}).machine.Quiescent := ⟨rfl, rfl, rfl⟩
  obtain ⟨outcome, after, returned, told⟩ : ∃ outcome after,
      Call.Returns (.trigger (.name "run") () .unbounded) (Sample.session {}) outcome after ∧
      invocations after.world.trace = [.action ⟨0⟩ () ⟨1⟩, .entry ⟨1⟩ 1, .action ⟨1⟩ () ⟨2⟩] :=
    ⟨_, _, ⟨3, rfl⟩, rfl⟩
  obtain ⟨⟨log, trace, report, orderly⟩, moments⟩ := callbacks_in_order quiescent returned
  have whole : after.world.trace = log := trace
  rw [← whole] at report orderly
  exact ⟨quiescent, outcome, after, returned, report, orderly, told, moments _ .refl⟩

end StateMachine
