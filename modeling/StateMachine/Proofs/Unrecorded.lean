import StateMachine.Machine.Log
import StateMachine.Proofs.Journey

namespace StateMachine

variable {D P σ : Type}

/-- A machine as it is if nothing has been recorded, and nothing will be. -/
def Machine.unrecorded (machine : Machine D P σ) : Machine D P σ :=
  { machine with policy := machine.policy.withRecordHistory false, journal := {} }

namespace Session

variable (session : Session D P σ)

def unrecorded : Session D P σ := ⟨session.machine.unrecorded, session.world⟩

private theorem unrecorded_apply (event : EventId) (target : StateId) (time : Instant) :
    (session.apply event target time).unrecorded = session.unrecorded.apply event target time := rfl

private theorem unrecorded_close : session.close.unrecorded = session.unrecorded.close := by
  obtain ⟨⟨_, _, _, _, _, _, _, pending, _⟩, _⟩ := session
  cases pending <;> rfl

private theorem target_unrecorded (submission : Submission P) :
    session.unrecorded.target submission = session.target submission := rfl

end Session

/-- How a run ends if it is not recorded. -/
def Run.unrecorded {result : Type} (ended : Option (result × Session D P σ)) :
    Option (result × Session D P σ) :=
  ended.map fun (answer, session) => (answer, session.unrecorded)

/-- A run that ends in the same way whether it is recorded or not. -/
def Run.Blind {result : Type} (run : Run D P σ result) : Prop :=
  ∀ session, run session.unrecorded = Run.unrecorded (run session)

theorem Run.Blind.andThen {first next : Run D P σ (Except Failure Unit)} (blind : first.Blind)
    (blind_too : next.Blind) : (first.andThen next).Blind := by
  intro session
  unfold Run.andThen
  rw [blind]
  cases first session with
  | none => rfl
  | some ended =>
    obtain ⟨outcome, reached⟩ := ended
    cases outcome with
    | ok => exact blind_too reached
    | error failure => rfl

private theorem Run.unrecorded_map {result final : Type} {ended other : Option (result × Session D P σ)}
    {finish finish_too : result × Session D P σ → final × Session D P σ}
    (same : other = Run.unrecorded ended)
    (keeps : ∀ answer session, finish_too (answer, session.unrecorded) =
      ((finish (answer, session)).1, (finish (answer, session)).2.unrecorded)) :
    other.map finish_too = Run.unrecorded (ended.map finish) := by
  subst same
  cases ended with
  | none => rfl
  | some ended => exact congrArg some (keeps ended.1 ended.2)

section Handled

variable {submit : Submission P → Run D P σ (Except Failure Unit)}
variable (handled : ∀ submission, (submit submission).Blind)
include handled

private theorem Program.run_blind {role : Role} (program : Program D P σ role) (token : Token) :
    (program.run submit token).Blind := by
  induction program with
  | done result => exact fun session => rfl
  | look next ih => exact fun session => ih _ session.tick
  | share update next ih => exact fun session => ih _ (session.share update)
  | read next ih => exact fun session => ih _ session
  | write update next ih => exact fun session => ih (session.write update)
  | cancel flagged next ih => exact fun session => ih (session.cancel flagged)
  | trigger key payload next ih =>
    intro session
    have same : session.unrecorded.machine.table = session.machine.table := rfl
    simp only [run, same]
    cases session.machine.table.findEvent key with
    | error failure => exact ih _ session
    | ok event =>
      simp only [handled ⟨event, payload, token⟩ session]
      cases submit ⟨event, payload, token⟩ session with
      | none => rfl
      | some ended => exact ih _ ended.2

namespace Session

private theorem act_blind (submission : Submission P) : (act submit submission).Blind := by
  intro session
  cases present : session.machine.callbacks.action? submission.event with
  | none =>
    have absent : session.unrecorded.machine.callbacks.action? submission.event = none := present
    simp only [act, present, absent]
    rfl
  | some action =>
    have present_too : session.unrecorded.machine.callbacks.action? submission.event = some action := present
    have runs := (action submission.payload).run_blind handled
      (session.machine.forwarded submission.token)
      (session.emit (.actionBegan submission.event submission.payload session.machine.current))
    rw [act_present present, act_present present_too]
    exact Run.unrecorded_map runs fun _ _ => rfl

private theorem enter_blind (token : Token) : (enter submit token).Blind := by
  intro session
  cases present : session.machine.callbacks.entry? session.machine.current with
  | none =>
    have absent : session.unrecorded.machine.callbacks.entry? session.unrecorded.machine.current = none :=
      present
    simp only [enter, present, absent]
    rfl
  | some entry =>
    have present_too :
        session.unrecorded.machine.callbacks.entry? session.unrecorded.machine.current = some entry := present
    have runs := (entry session.machine.data).run_blind handled (session.machine.forwarded token)
      (session.emit (.entryBegan session.machine.current session.machine.data))
    rw [enter_present present, enter_present present_too]
    exact Run.unrecorded_map runs fun _ _ => rfl

private theorem runCallbacks_blind (submission : Submission P) : (runCallbacks submit submission).Blind :=
  (act_blind handled submission).andThen (enter_blind handled submission.token)

private theorem dispatch_blind (submission : Submission P) : (dispatch submit submission).Blind := by
  intro session
  have same := session.target_unrecorded submission
  cases decided : session.target submission with
  | error failure =>
    rw [dispatch_refused decided, dispatch_refused (same.trans decided)]
    rfl
  | ok target =>
    have runs := runCallbacks_blind handled submission
      ((session.dispatched submission).apply submission.event target session.now)
    -- The only step that asks whether to record; nothing reads what it leaves out.
    rw [unrecorded_apply] at runs
    rw [dispatch_found decided, dispatch_found (same.trans decided)]
    exact Run.unrecorded_map runs fun _ _ => rfl

omit handled in
private theorem drain_blind_empty {session : Session D P σ} (empty : session.machine.pending = [])
    (fuel : Nat) :
    drain submit fuel session.unrecorded = Run.unrecorded (drain submit fuel session) := by
  have empty_too : session.unrecorded.machine.pending = [] := empty
  rw [drain_empty empty, drain_empty empty_too]
  rfl

private theorem drain_blind (fuel : Nat) : (drain submit fuel).Blind := by
  intro session
  induction fuel generalizing session with
  | zero =>
    cases waiting : session.machine.pending with
    | nil => exact drain_blind_empty waiting 0
    | cons submission rest =>
      have waiting_too : session.unrecorded.machine.pending = submission :: rest := waiting
      rw [drain_spent waiting, drain_spent waiting_too]
      rfl
  | succ fuel ih =>
    cases waiting : session.machine.pending with
    | nil => exact drain_blind_empty waiting _
    | cons submission rest =>
      have waiting_too : session.unrecorded.machine.pending = submission :: rest := waiting
      rw [drain_first waiting, drain_first waiting_too]
      exact (dispatch_blind handled submission).andThen ih (session.dequeue rest)

private theorem runQueued_blind (fuel : Nat) {first : Run D P σ (Except Failure Unit)}
    (blind : first.Blind) :
    (runQueued submit fuel first).Blind := by
  intro session
  have drains := blind.andThen (drain_blind handled fuel) (session.setDraining true)
  rw [runQueued_eq, runQueued_eq]
  exact Run.unrecorded_map drains fun outcome drained => congrArg (outcome, ·) drained.unrecorded_close.symm

end Session

end Handled

namespace Session

private theorem submit_blind_deferred {session : Session D P σ} {submission : Submission P} {fuel : Nat}
    (queued : session.machine.policy.dispatch = .queued) (draining : session.machine.draining = true) :
    submit fuel submission session.unrecorded = Run.unrecorded (submit fuel submission session) := by
  have queued_too : session.unrecorded.machine.policy.dispatch = .queued := queued
  have draining_too : session.unrecorded.machine.draining = true := draining
  rw [submit_deferred queued draining, submit_deferred queued_too draining_too]
  rfl

variable (D P σ) in
private theorem submit_blind (fuel : Nat) (submission : Submission P) :
    (submit fuel submission : Run D P σ _).Blind := by
  induction fuel generalizing submission with
  | zero =>
    intro session
    rcases session.deferring_or_apart with ⟨queued, draining⟩ | apart
    · exact submit_blind_deferred queued draining
    · have apart_too : session.unrecorded.machine.policy.dispatch = .nested ∨
          session.unrecorded.machine.draining = false := apart
      rw [submit_spent apart, submit_spent apart_too]
      rfl
  | succ fuel ih =>
    intro session
    cases mode : session.machine.policy.dispatch with
    | nested =>
      have mode_too : session.unrecorded.machine.policy.dispatch = .nested := mode
      rw [submit_nested mode, submit_nested mode_too]
      exact dispatch_blind ih submission session
    | queued =>
      cases draining : session.machine.draining with
      | true => exact submit_blind_deferred mode draining
      | false =>
        have mode_too : session.unrecorded.machine.policy.dispatch = .queued := mode
        have draining_too : session.unrecorded.machine.draining = false := draining
        rw [submit_queued mode draining, submit_queued mode_too draining_too]
        exact runQueued_blind ih fuel (fun _ => rfl) (session.enqueue submission)

end Session

private theorem Call.run_blind (call : Call P) (fuel : Nat) : (call.run fuel : Run D P σ _).Blind := by
  intro session
  have handled := Session.submit_blind D P σ fuel
  cases call with
  | trigger key payload token =>
    have same : session.unrecorded.machine.table = session.machine.table := rfl
    simp only [run, Session.trigger, same]
    cases session.machine.table.findEvent key with
    | error failure => rfl
    | ok event => exact handled ⟨event, payload, token⟩ session
  | start token =>
    have enters := Session.enter_blind handled token
    have same : session.unrecorded.machine.policy.dispatch = session.machine.policy.dispatch := rfl
    have same_too : session.unrecorded.machine.draining = session.machine.draining := rfl
    simp only [run, Session.start, same, same_too]
    cases session.machine.policy.dispatch with
    | nested => exact enters session
    | queued =>
      cases session.machine.draining with
      | true => exact enters session
      | false => exact Session.runQueued_blind handled fuel enters session

private theorem Call.returns_unrecorded_iff {call : Call P} {session other : Session D P σ}
    {outcome : Except Failure Unit} :
    call.Returns session.unrecorded outcome other ↔
      ∃ after, call.Returns session outcome after ∧ other = after.unrecorded := by
  simp only [Returns, call.run_blind _ session, Run.unrecorded, Option.map_eq_some_iff, Prod.exists,
    Prod.mk.injEq]
  constructor
  · rintro ⟨fuel, _, after, ran, rfl, rfl⟩
    exact ⟨after, ⟨fuel, ran⟩, rfl⟩
  · rintro ⟨after, ⟨fuel, ran⟩, rfl⟩
    exact ⟨fuel, outcome, after, ran, rfl, rfl⟩

/-- What can be seen of a machine and its world after a call, apart from the journal. -/
structure Sight (D P σ : Type) where
  outcome : Except Failure Unit
  current : StateId
  data : D
  invocations : List (Invocation D P)
  log : List LogRecord
  flags : Flags
  shared : σ

def Session.sight (session : Session D P σ) (outcome : Except Failure Unit) : Sight D P σ where
  outcome := outcome
  current := session.machine.current
  data := session.machine.data
  invocations := StateMachine.invocations session.world.trace
  log := session.world.trace.filterMap (Event.log? session.machine.table)
  flags := session.world.flags
  shared := session.world.shared

/-- Calls that return one after the other, and what can be seen after each of them. -/
inductive Session.Shows : Session D P σ → List (Call P) → List (Sight D P σ) → Session D P σ → Prop where
  | none : Shows session [] [] session
  | next (returned : Call.Returns call session outcome reached) (onward : Shows reached calls sights after) :
      Shows session (call :: calls) (reached.sight outcome :: sights) after

/-- Nothing that can be seen depends on what has been recorded. -/
theorem Session.sight_unrecorded (session : Session D P σ) (outcome : Except Failure Unit) :
    session.unrecorded.sight outcome = session.sight outcome := rfl

private theorem Session.shows_unrecorded_iff {session other : Session D P σ} {calls : List (Call P)}
    {sights : List (Sight D P σ)} :
    session.unrecorded.Shows calls sights other ↔
      ∃ after, session.Shows calls sights after ∧ other = after.unrecorded := by
  induction calls generalizing session sights with
  | nil =>
    constructor
    · intro shows
      cases shows
      exact ⟨session, .none, rfl⟩
    · rintro ⟨after, shows, rfl⟩
      cases shows
      exact .none
  | cons call calls ih =>
    constructor
    · intro shows
      cases shows with
      | next returned onward =>
        obtain ⟨reached, recorded, rfl⟩ := Call.returns_unrecorded_iff.mp returned
        obtain ⟨after, later, rfl⟩ := ih.mp onward
        rw [sight_unrecorded]
        exact ⟨after, .next recorded later, rfl⟩
    · rintro ⟨after, shows, rfl⟩
      cases shows with
      | next returned onward =>
        have unrecorded := Call.returns_unrecorded_iff.mpr ⟨_, returned, rfl⟩
        rw [← sight_unrecorded]
        exact .next unrecorded (ih.mpr ⟨after, onward, rfl⟩)

/-- What a machine that keeps a journal records is what the trace says. -/
theorem Call.Returns.journal {call : Call P} {session after : Session D P σ}
    {outcome : Except Failure Unit} (returned : call.Returns session outcome after)
    (recorded : session.machine.policy.recordHistory = true) :
    ∃ events, after.world.trace = session.world.trace ++ events ∧
      after.machine.journal.transitions = session.machine.journal.transitions ++ transitions events := by
  obtain ⟨events, follows⟩ := returned.steps.follows
  obtain ⟨draining, begun⟩ := call.moment_machine session
  have grown := follows.journal
  simp only [begun, Machine.drainingAs, recorded, if_true] at grown
  exact ⟨events, by rw [follows.trace, call.moment_world], grown⟩

theorem Session.Shows.journal {session after : Session D P σ} {calls : List (Call P)}
    {sights : List (Sight D P σ)} (shows : session.Shows calls sights after)
    (recorded : session.machine.policy.recordHistory = true) :
    ∃ events, after.world.trace = session.world.trace ++ events ∧
      after.machine.journal.transitions = session.machine.journal.transitions ++ transitions events := by
  induction shows with
  | none => exact ⟨[], by simp, by simp [transitions]⟩
  | next returned onward ih =>
    obtain ⟨events, trace, journal⟩ := returned.journal recorded
    obtain ⟨later, trace_on, journal_on⟩ := ih (returned.setup.policy ▸ recorded)
    refine ⟨events ++ later, ?_, ?_⟩
    · rw [trace_on, trace, List.append_assoc]
    · rw [journal_on, journal, List.append_assoc]
      simp [transitions]

/-- A machine that keeps no journal gets through any calls as it does if it keeps one. After each of them
it shows the same, its callbacks and what it logs included. In the end the one has recorded the transitions
that were applied, and the other differs from it in nothing but its policy and its journal, which has
stayed empty. -/
theorem recording_changes_only_journal (machine : Machine D P σ) (world : World D P σ)
    (calls : List (Call P)) (sights : List (Sight D P σ)) (other : Session D P σ) :
    Session.Shows ⟨{ machine with policy := machine.policy.withRecordHistory false, journal := {} }, world⟩
        calls sights other ↔
      ∃ after,
        Session.Shows ⟨{ machine with policy := machine.policy.withRecordHistory true }, world⟩
          calls sights after ∧
        (∃ events, after.world.trace = world.trace ++ events ∧
          after.machine.journal.transitions = machine.journal.transitions ++ transitions events) ∧
        other = ⟨{ after.machine with
          policy := after.machine.policy.withRecordHistory false, journal := {} }, after.world⟩ := by
  let recorded : Session D P σ := ⟨{ machine with policy := machine.policy.withRecordHistory true }, world⟩
  have unrecorded : recorded.unrecorded = ⟨{ machine with
      policy := machine.policy.withRecordHistory false, journal := {} }, world⟩ := rfl
  rw [← unrecorded, Session.shows_unrecorded_iff]
  constructor
  · rintro ⟨after, shows, same⟩
    exact ⟨after, shows, shows.journal rfl, same⟩
  · rintro ⟨after, shows, _, same⟩
    exact ⟨after, shows, same⟩

end StateMachine
