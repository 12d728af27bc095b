import StateMachine.Proofs.Key
import StateMachine.Proofs.Line
import StateMachine.Proofs.Sample

/-!
Queued mode. Submissions are dispatched in the order in which they are accepted, none twice and none left
out, up to the first failure, which the call returns.
-/
namespace StateMachine

variable {D P σ : Type}

/-- Between two sessions of an open queue these submissions have been dispatched. -/
structure Session.Dispatches (before : Session D P σ) (submissions : List (Submission P))
    (after : Session D P σ) : Prop where
  policy : after.machine.policy = before.machine.policy
  draining : after.machine.draining = before.machine.draining
  trace : dispatches after.world.trace = dispatches before.world.trace ++ submissions

theorem Session.Dispatches.trans {first second third : Session D P σ} {ones others : List (Submission P)}
    (begins : first.Dispatches ones second) (goes : second.Dispatches others third) :
    first.Dispatches (ones ++ others) third :=
  ⟨goes.policy.trans begins.policy, goes.draining.trans begins.draining, by
    rw [goes.trace, begins.trace, List.append_assoc]⟩

/-- What is reported before and after does not matter unless it is a dispatch. -/
theorem Session.Dispatches.between {before reached : Session D P σ} {submissions : List (Submission P)}
    {began ended : Event D P} (goes : (before.emit began).Dispatches submissions reached)
    (quiet : began.dispatch? = none) (quiet_too : ended.dispatch? = none) :
    before.Dispatches submissions (reached.emit ended) :=
  ⟨goes.policy, goes.draining, by
    simpa [dispatches, List.filterMap_cons, quiet, quiet_too] using goes.trace⟩

section Open

variable {fuel : Nat} {session after : Session D P σ} {outcome : Except Failure Unit}

private theorem Program.run_open {role : Role} {program : Program D P σ role} {token : Token}
    {result : Except Cause Unit}
    (ran : program.run (Session.submit fuel) token session = some (result, after))
    (queued : session.machine.policy.dispatch = .queued) (draining : session.machine.draining = true) :
    session.Dispatches [] after := by
  induction program generalizing session with
  | done =>
    cases ran
    exact ⟨rfl, rfl, (List.append_nil _).symm⟩
  | look next ih =>
    have goes := ih _ ran queued draining
    exact ⟨goes.policy, goes.draining, goes.trace⟩
  | share update next ih =>
    have goes := ih _ ran queued draining
    exact ⟨goes.policy, goes.draining, goes.trace⟩
  | read next ih => exact ih _ ran queued draining
  | write update next ih =>
    have goes := ih ran queued draining
    exact ⟨goes.policy, goes.draining, goes.trace.trans (by simp [dispatches, Event.dispatch?])⟩
  | cancel flagged next ih =>
    have goes := ih ran queued draining
    exact ⟨goes.policy, goes.draining, goes.trace.trans (by simp [dispatches, Event.dispatch?])⟩
  | trigger key payload next ih =>
    simp only [Program.run] at ran
    split at ran
    · exact ih _ ran queued draining
    · simp only [Session.submit_deferred queued draining] at ran
      have goes := ih _ ran queued draining
      exact ⟨goes.policy, goes.draining, goes.trace.trans (by simp [dispatches, Event.dispatch?])⟩

namespace Session

private theorem enter_open {token : Token}
    (entered : enter (submit fuel) token session = some (outcome, after))
    (queued : session.machine.policy.dispatch = .queued) (draining : session.machine.draining = true) :
    session.Dispatches [] after := by
  simp only [enter] at entered
  split at entered
  · cases entered
    exact ⟨rfl, rfl, (List.append_nil _).symm⟩
  · split at entered
    · cases entered
    · rename_i done
      cases entered
      exact (Program.run_open done queued draining).between rfl rfl

private theorem act_open {submission : Submission P}
    (acted : act (submit fuel) submission session = some (outcome, after))
    (queued : session.machine.policy.dispatch = .queued) (draining : session.machine.draining = true) :
    session.Dispatches [] after := by
  simp only [act] at acted
  split at acted
  · cases acted
    exact ⟨rfl, rfl, (List.append_nil _).symm⟩
  · split at acted
    · cases acted
    · rename_i done
      cases acted
      exact (Program.run_open done queued draining).between rfl rfl

private theorem runCallbacks_open {submission : Submission P}
    (ran : runCallbacks (submit fuel) submission session = some (outcome, after))
    (queued : session.machine.policy.dispatch = .queued) (draining : session.machine.draining = true) :
    session.Dispatches [] after := by
  rw [runCallbacks_eq, Run.andThen_eq_some_iff] at ran
  rcases ran with ⟨reached, acted, entered⟩ | ⟨failure, rfl, failed⟩
  · have begins := act_open acted queued draining
    exact begins.trans (enter_open entered (begins.policy ▸ queued) (begins.draining.trans draining))
  · exact act_open failed queued draining

private theorem dispatch_open {submission : Submission P}
    (dispatched : dispatch (submit fuel) submission session = some (outcome, after))
    (queued : session.machine.policy.dispatch = .queued) (draining : session.machine.draining = true) :
    session.Dispatches [submission] after := by
  simp only [dispatch] at dispatched
  split at dispatched
  · cases dispatched
    exact ⟨rfl, rfl, by simp [dispatches, Event.dispatch?]⟩
  · split at dispatched
    · cases dispatched
    · rename_i ran
      have goes := runCallbacks_open ran queued draining
      cases dispatched
      exact ⟨goes.policy, goes.draining, by
        simpa [dispatches, List.filterMap_cons, Event.dispatch?] using goes.trace⟩

end Session

end Open

/-- An open queue is served: what is pending is dispatched one after the other, until nothing is left or a
dispatch fails. Then its failure is the outcome. -/
inductive Session.Serves (fuel : Nat) : Session D P σ → List (Submission P) → Except Failure Unit →
    Session D P σ → Prop where
  | all (empty : session.machine.pending = []) : Serves fuel session [] (.ok ()) session
  | next (first : session.machine.pending = submission :: rest)
      (dispatched : dispatch (submit fuel) submission (session.dequeue rest) = some (.ok (), reached))
      (onward : Serves fuel reached submissions outcome after) :
      Serves fuel session (submission :: submissions) outcome after
  | fail {failure : Failure} (first : session.machine.pending = submission :: rest)
      (dispatched : dispatch (submit fuel) submission (session.dequeue rest) =
        some (.error failure, after)) :
      Serves fuel session [submission] (.error failure) after

private theorem Session.drain_serves {fuel rounds : Nat} {session after : Session D P σ}
    {outcome : Except Failure Unit}
    (drained : drain (submit fuel) rounds session = some (outcome, after))
    (queued : session.machine.policy.dispatch = .queued) (draining : session.machine.draining = true) :
    ∃ submissions, session.Serves fuel submissions outcome after ∧
      session.Dispatches submissions after := by
  induction rounds using Nat.strongRecOn generalizing session with
  | ind rounds ih =>
    rcases drain_cases drained with ⟨empty, rfl, rfl⟩ | ⟨submission, rest, less, first, rfl, ran⟩
    · exact ⟨[], .all empty, rfl, rfl, (List.append_nil _).symm⟩
    have taken : session.Dispatches [] (session.dequeue rest) :=
      ⟨rfl, rfl, by simp [dispatches, List.filterMap_cons, Event.dispatch?]⟩
    rcases Run.andThen_eq_some_iff.mp ran with ⟨reached, dispatched, ran⟩ | ⟨failure, rfl, failed⟩
    · have begins := taken.trans (dispatch_open dispatched queued draining)
      obtain ⟨submissions, serves, goes⟩ := ih less (Nat.lt_succ_self less) ran (begins.policy ▸ queued)
        (begins.draining.trans draining)
      exact ⟨submission :: submissions, .next first dispatched serves, begins.trans goes⟩
    · exact ⟨[submission], .fail first failed, taken.trans (dispatch_open failed queued draining)⟩

/-- How a call in queued mode goes: the queue is opened, by a submission or by the entry of the current
state, it is served, and it is closed. -/
inductive Call.Drains (fuel : Nat) (session : Session D P σ) :
    Call P → List (Submission P) → Except Failure Unit → Session D P σ → Prop where
  | unknown {failure : Failure} (unknown : session.machine.table.findEvent key = .error failure) :
      Drains fuel session (.trigger key payload token) [] (.error failure) session
  | trigger (known : session.machine.table.findEvent key = .ok event)
      (serves : ((session.enqueue ⟨event, payload, token⟩).setDraining true).Serves fuel submissions
        outcome drained) :
      Drains fuel session (.trigger key payload token) submissions outcome drained.close
  | start (entered : Session.enter (Session.submit fuel) token (session.setDraining true) =
        some (.ok (), reached))
      (serves : reached.Serves fuel submissions outcome drained) :
      Drains fuel session (.start token) submissions outcome drained.close
  | halt {failure : Failure}
      (entered : Session.enter (Session.submit fuel) token (session.setDraining true) =
        some (.error failure, reached)) :
      Drains fuel session (.start token) [] (.error failure) reached.close

private theorem Session.dispatches_close (session : Session D P σ) :
    dispatches session.close.world.trace = dispatches session.world.trace := by
  by_cases empty : session.machine.pending = [] <;>
    simp [dispatches, trace_close, empty, List.filterMap_cons, Event.dispatch?]

theorem Call.Returns.drains {call : Call P} {session after : Session D P σ}
    {outcome : Except Failure Unit} (returned : call.Returns session outcome after)
    (queued : session.machine.policy.dispatch = .queued) (quiescent : session.machine.Quiescent) :
    ∃ fuel submissions, call.Drains fuel session submissions outcome after ∧
      dispatches after.world.trace = dispatches session.world.trace ++ submissions := by
  obtain ⟨fuel, ran⟩ := returned
  cases call with
  | trigger key payload token =>
    simp only [Call.run, Session.trigger] at ran
    cases known : session.machine.table.findEvent key with
    | error failure =>
      simp only [known] at ran
      cases ran
      exact ⟨fuel, [], .unknown known, (List.append_nil _).symm⟩
    | ok event =>
      simp only [known] at ran
      rcases Session.submit_cases ran with ⟨_, draining, _⟩ | ⟨less, rfl, ⟨nested, _⟩ | ⟨_, _, ran⟩⟩
      · cases draining.symm.trans quiescent.draining
      · cases nested.symm.trans queued
      obtain ⟨drained, parts, rfl⟩ := Session.runQueued_eq_some_iff.mp ran
      rcases Run.andThen_eq_some_iff.mp parts with ⟨reached, done, drains⟩ | ⟨failure, rfl, failed⟩
      · cases done
        obtain ⟨submissions, serves, goes⟩ := Session.drain_serves drains queued rfl
        refine ⟨less, submissions, .trigger known serves, ?_⟩
        rw [Session.dispatches_close, goes.trace]
        simp [dispatches, List.filterMap_cons, Event.dispatch?]
      · cases failed
  | start token =>
    simp only [Call.run, Session.start, queued, quiescent.draining] at ran
    obtain ⟨drained, parts, rfl⟩ := Session.runQueued_eq_some_iff.mp ran
    rcases Run.andThen_eq_some_iff.mp parts with ⟨reached, entered, drains⟩ | ⟨failure, rfl, failed⟩
    · have begins := Session.enter_open entered queued rfl
      obtain ⟨submissions, serves, goes⟩ :=
        Session.drain_serves drains (begins.policy ▸ queued) begins.draining
      refine ⟨fuel, submissions, .start entered serves, ?_⟩
      rw [Session.dispatches_close, (begins.trans goes).trace]
      rfl
    · have begins := Session.enter_open failed queued rfl
      refine ⟨fuel, [], .halt failed, ?_⟩
      rw [Session.dispatches_close, begins.trace]
      rfl

/-- What a trigger comes to that a callback issues while the queue is open: with an event of the table it
joins the queue, and nothing else happens; otherwise it fails. -/
structure Session.Enlists (session : Session D P σ) (key : EventKey) (payload : P) (token : Token) :
    Prop where
  known : ∀ event, session.machine.table.findEvent key = .ok event → ∃ after : Session D P σ,
    after.machine = { session.machine with
      pending := session.machine.pending ++ [⟨event, payload, token⟩] } ∧
    after.world = { session.world with
      trace := session.world.trace ++ [.accepted ⟨event, payload, token⟩,
        .deferred event (session.machine.pending.length + 1)] } ∧
    ∀ (fuel : Nat) {role : Role} (next : Except Failure Unit → Program D P σ role),
      (Program.trigger key payload next).run (Session.submit fuel) token session =
        (next (.ok ())).run (Session.submit fuel) token after
  unknown : ∀ failure, session.machine.table.findEvent key = .error failure →
    (∃ text, failure = .unknownEvent text) ∧
    ∀ (fuel : Nat) {role : Role} (next : Except Failure Unit → Program D P σ role),
      (Program.trigger key payload next).run (Session.submit fuel) token session =
        (next (.error failure)).run (Session.submit fuel) token session

private theorem Session.enlists {session : Session D P σ}
    (queued : session.machine.policy.dispatch = .queued) (draining : session.machine.draining = true)
    (key : EventKey) (payload : P) (token : Token) : session.Enlists key payload token := by
  constructor
  · intro event known
    refine ⟨session.defer ⟨event, payload, token⟩, session.machine_defer _, ?_, fun fuel role next => ?_⟩
    · simp [defer, enqueue, emit]
    · simp only [Program.run, known, submit_deferred queued draining]
  · intro failure unknown
    exact ⟨Table.findEvent_error unknown, fun fuel role next => by simp only [Program.run, unknown]⟩

/-- What holds at every moment of a call in queued mode: the dispatches are a beginning of what has been
accepted, only what is submitted is accepted, only what is taken is dispatched, and the triggers of
callbacks join the queue. -/
structure Moment.InOrder (session : Session D P σ) (moment : Moment D P σ) : Prop where
  order : ∃ past, moment.session.world.trace = session.world.trace ++ past ∧
    dispatches past <+: accepted past
  accepts : ∀ next, Step moment next → accepted next.session.world.trace =
    accepted moment.session.world.trace ++ moment.control.submitted
  dispatched : ∀ next, Step moment next → dispatches next.session.world.trace =
    dispatches moment.session.world.trace ++ moment.control.taken
  triggers : ∀ {role : Role} (duty : Duty P role) (token : Token) (program : Program D P σ role),
    moment.control = .callback duty token program → ∀ key payload,
      moment.session.Enlists key payload token

theorem Call.in_order {call : Call P} {session : Session D P σ} {moment : Moment D P σ}
    (queued : session.machine.policy.dispatch = .queued) (quiescent : session.machine.Quiescent)
    (reached : Steps (call.moment session) moment) : moment.InOrder session := by
  have same : moment.session.machine.policy.dispatch = .queued := by
    rw [reached.setup.policy, (call.moment_setup session).policy]
    exact queued
  have line := reached.inLine (by rw [(call.moment_setup session).policy]; exact queued)
    (call.moment_inLine quiescent queued)
  obtain ⟨past, trace⟩ := call.trace_moment reached
  refine ⟨⟨past, trace, line.dispatched_in_order trace⟩, fun next step => step.accepts same,
    fun next step => step.dispatches, ?_⟩
  intro role duty token program running key payload
  exact Session.enlists same (line.draining running) key payload token

/-- What a trigger of a known event has accepted begins with the submission that it makes. -/
theorem Call.Returns.accepts_first {session after : Session D P σ} {outcome : Except Failure Unit}
    {key : EventKey} {payload : P} {token : Token} {event : EventId} {past : List (Event D P)}
    (returned : Call.Returns (.trigger key payload token) session outcome after)
    (queued : session.machine.policy.dispatch = .queued) (quiescent : session.machine.Quiescent)
    (known : session.machine.table.findEvent key = .ok event)
    (trace : after.world.trace = session.world.trace ++ past) :
    ∃ later, accepted past = ⟨event, payload, token⟩ :: later := by
  have steps := returned.steps
  simp only [moment, known] at steps
  rcases steps.cases_head with impossible | ⟨next, step, onward⟩
  · cases impossible
  · cases step with
    | nest nested => cases nested.symm.trans queued
    | defer _ draining => cases draining.symm.trans quiescent.draining
    | drain _ _ =>
      obtain ⟨later, follows⟩ := Steps.follows onward
      have split := follows.trace.symm.trans trace
      simp only [Session.trace_setDraining, Session.trace_enqueue, List.append_assoc,
        List.append_cancel_left_eq] at split
      exact ⟨accepted later, by simp [← split, accepted, Event.acceptance?]⟩

/-- A call in queued mode dispatches what it accepts, in this order and with nothing in between left out.
The call returns without a failure when all of it has been dispatched; otherwise it returns the failure of
the last dispatch, or of the entry of a start, and the rest is dropped for good. Only a trigger of an
unknown event fails on its own account, before anything is accepted. -/
theorem queued_call_in_order {call : Call P} {session after : Session D P σ}
    {outcome : Except Failure Unit} (queued : session.machine.policy.dispatch = .queued)
    (quiescent : session.machine.Quiescent) (returned : call.Returns session outcome after) :
    (∀ moment, Steps (call.moment session) moment → moment.InOrder session) ∧
    (∃ past, after.world.trace = session.world.trace ++ past ∧
      (∃ fuel, call.Drains fuel session (dispatches past) outcome after) ∧
      (outcome = .ok () → dispatches past = accepted past) ∧
      ∀ key payload token event, call = .trigger key payload token →
        session.machine.table.findEvent key = .ok event →
        ∃ later, accepted past = ⟨event, payload, token⟩ :: later) ∧
    after.machine.Quiescent ∧
    ∀ later, after.Operations later → ∀ (other : Call P) moment, Steps (other.moment later) moment →
      moment.InOrder later := by
  have rest := returned.quiescent quiescent
  refine ⟨fun moment reached => Call.in_order queued quiescent reached, ?_, rest,
    fun later operations other moment reached => ?_⟩
  · obtain ⟨past, trace⟩ := call.trace_moment returned.steps
    refine ⟨past, trace, ?_, fun fine => ?_, ?_⟩
    · obtain ⟨fuel, submissions, drains, dispatched⟩ := returned.drains queued quiescent
      rw [trace] at dispatched
      simp only [dispatches, List.filterMap_append, List.append_cancel_left_eq] at dispatched
      subst dispatched
      exact ⟨fuel, drains⟩
    · subst fine
      have line := returned.steps.inLine (by rw [(call.moment_setup session).policy]; exact queued)
        (call.moment_inLine quiescent queued)
      exact line.all_dispatched trace
    · rintro key payload token event rfl known
      exact returned.accepts_first queued quiescent known trace
  · exact Call.in_order (by rw [operations.setup.2, returned.setup.policy]; exact queued)
      (operations.quiescent rest) reached

/-- A reentrant trigger whose action fails: both submissions are dispatched, and the failure of the second
one is returned as it is. -/
theorem queued_trigger_finishes_too_late :
    (Sample.session { dispatch := .queued }).machine.policy.dispatch = .queued ∧
      (Sample.session { dispatch := .queued }).machine.Quiescent ∧
      ∃ after past fuel, after.world.trace = [] ++ past ∧
        Call.Drains fuel (Sample.session { dispatch := .queued }) (.trigger (.name "run") () .unbounded)
          (dispatches past) (.error (.callback (.action "finish") (.foreign "too late"))) after ∧
        dispatches past = [⟨⟨0⟩, (), .unbounded⟩, ⟨⟨1⟩, (), .unbounded⟩] ∧
        after.machine.current = ⟨2⟩ := by
  have queued : (Sample.session { dispatch := .queued }).machine.policy.dispatch = .queued := rfl
  have quiescent : (Sample.session { dispatch := .queued }).machine.Quiescent := ⟨rfl, rfl, rfl⟩
  have returned : Call.Returns (.trigger (.name "run") () .unbounded)
      (Sample.session { dispatch := .queued }) _ _ := ⟨3, rfl⟩
  obtain ⟨_, ⟨past, trace, ⟨fuel, drains⟩, _⟩, _⟩ := queued_call_in_order queued quiescent returned
  refine ⟨queued, quiescent, _, past, fuel, trace, drains, ?_, rfl⟩
  rw [show past = _ from trace.symm]
  rfl

/-- The failure of a trigger of an unknown event is that of no dispatch, and of no start either. -/
theorem queued_trigger_fails_without_dispatch :
    ¬ ∀ (session after : Session Nat Unit Unit) (call : Call Unit) (failure : Failure)
        (past : List (Event Nat Unit)), session.machine.policy.dispatch = .queued →
      session.machine.Quiescent → call.Returns session (.error failure) after →
      after.world.trace = session.world.trace ++ past →
      dispatches past ≠ [] ∨ ∃ token, call = .start token := by
  intro claim
  have returned : Call.Returns (.trigger (.name "halt") () .unbounded)
      (Sample.session { dispatch := .queued }) (.error (.unknownEvent "halt"))
      (Sample.session { dispatch := .queued }) := ⟨0, rfl⟩
  rcases claim _ _ _ _ [] rfl ⟨rfl, rfl, rfl⟩ returned rfl with none | ⟨token, impossible⟩
  · exact none rfl
  · cases impossible

end StateMachine
