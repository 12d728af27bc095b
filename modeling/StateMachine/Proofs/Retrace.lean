import StateMachine.Proofs.Adequacy
import StateMachine.Proofs.Lineage
import StateMachine.Proofs.Reachable

/-!
Journals retrace the way of a machine. If a journal is kept, then at any moment in the life of a machine
its records lead from the initial state through all states that the machine was moved into, and their
depths are those of a walk through the triggers that were made.
-/
namespace StateMachine

variable {D P σ : Type}

/-- Steps from one moment to another one, and the states that the machine was moved into on the way. -/
inductive Moment.Passes (first : Moment D P σ) : List StateId → Moment D P σ → Prop where
  | stay : Passes first [] first
  | go (passes : Passes first states before) (step : Step before after) :
      Passes first (states ++ after.arrival?.toList) after

theorem Moment.Passes.steps {first moment : Moment D P σ} {states : List StateId}
    (passes : first.Passes states moment) : Steps first moment := by
  induction passes with
  | stay => exact .refl
  | go _ step ih => exact ih.tail step

theorem Steps.passes {first moment : Moment D P σ} (steps : Steps first moment) :
    ∃ states, first.Passes states moment := by
  induction steps with
  | refl => exact ⟨[], .stay⟩
  | tail _ step ih =>
    obtain ⟨states, passes⟩ := ih
    exact ⟨_, passes.go step⟩

/-- A session since its machine was new, and all states that the machine was moved into. Apart from calls,
only callbacks are changed from outside, and the rest of the world. -/
inductive Session.Lives (table : Table) (policy : Policy) : List StateId → Session D P σ → Prop where
  | new (data : D) (world : World D P σ) : Lives table policy [] ⟨Machine.new table data policy, world⟩
  | call {call : Call P} (lives : Lives table policy states session)
      (passes : (call.moment session).Passes more ⟨.outcome outcome, [], after⟩) :
      Lives table policy (states ++ more) after
  | apart (lives : Lives table policy states session)
      (callbacks : Callbacks (Action D P σ) (Entry D P σ)) (world : World D P σ) :
      Lives table policy states ⟨{ session.machine with callbacks }, world⟩

private theorem Session.Operation.lives {table : Table} {policy : Policy} {states : List StateId}
    {session after : Session D P σ} (operation : session.Operation after)
    (lives : session.Lives table policy states) : ∃ more, after.Lives table policy (states ++ more) := by
  rcases operation.call_or_apart with ⟨_, _, returned⟩ | ⟨callbacks, world, rfl⟩
  · obtain ⟨more, passes⟩ := Steps.passes returned.steps
    exact ⟨more, lives.call passes⟩
  · exact ⟨[], (List.append_nil states).symm ▸ lives.apart callbacks world⟩

/-- Whatever operations bring about has a life since the machine was new. -/
theorem Session.Reachable.lives {table : Table} {policy : Policy} {session : Session D P σ}
    (reachable : session.Reachable table policy) : ∃ states, session.Lives table policy states := by
  obtain ⟨data, world, operations⟩ := reachable
  induction operations with
  | refl => exact ⟨[], .new data world⟩
  | tail _ operation ih =>
    obtain ⟨states, lives⟩ := ih
    obtain ⟨more, lives⟩ := operation.lives lives
    exact ⟨states ++ more, lives⟩

theorem Session.Lives.quiescent {table : Table} {policy : Policy} {states : List StateId}
    {session : Session D P σ} (lives : session.Lives table policy states) :
    session.machine.Quiescent := by
  induction lives with
  | new data world => exact Machine.quiescent_new table data policy
  | call _ passes ih => exact (Call.returns_iff_steps.mpr passes.steps).quiescent ih
  | apart _ callbacks world ih => exact ⟨ih.depth, ih.pending, ih.draining⟩

theorem Session.Lives.setup {table : Table} {policy : Policy} {states : List StateId}
    {session : Session D P σ} (lives : session.Lives table policy states) :
    session.machine.table = table ∧ session.machine.policy = policy := by
  induction lives with
  | new data world => exact ⟨rfl, rfl⟩
  | call _ passes ih =>
    have same := (Call.returns_iff_steps.mpr passes.steps).setup
    exact ⟨same.table.trans ih.1, same.policy.trans ih.2⟩
  | apart _ callbacks world ih => exact ih

/-- What a call has recorded up to a moment, on a way that passed through these states. -/
structure Moment.Records (session : Session D P σ) (states : List StateId) (records : List Transition)
    (moment : Moment D P σ) : Prop where
  journal : moment.session.machine.journal.transitions = session.machine.journal.transitions ++ records
  targets : records.map (·.target) = states
  walk : Walk records
  underway : moment.underway <+: (lineage records).map (·.event)
  flat : session.machine.policy.dispatch = .queued → ∀ transition ∈ records, transition.depth = 0

private theorem Call.moment_records (call : Call P) (session : Session D P σ) :
    (call.moment session).Records session [] [] := by
  obtain ⟨draining, same⟩ := call.moment_machine session
  refine ⟨by simp [same, Machine.drainingAs], rfl, .nil, ?_, by simp⟩
  rcases call.moment_cases session with
    ⟨_, same⟩ | ⟨_, _, _, _, _, same⟩ | ⟨_, _, same⟩ | ⟨_, _, _, same⟩ <;> rw [same] <;>
    simp [Moment.underway, Frame.settling?, List.filterMap_cons]

/-- The dispatches under way are those at the beginning of the lineage of the last record. -/
theorem Moment.Passes.records {call : Call P} {session : Session D P σ} {states : List StateId}
    {moment : Moment D P σ} (kept : session.machine.policy.recordHistory = true)
    (quiescent : session.machine.Quiescent) (passes : (call.moment session).Passes states moment) :
    ∃ records, moment.Records session states records := by
  induction passes with
  | stay => exact ⟨[], call.moment_records session⟩
  | @go states before after passes step ih =>
    obtain ⟨records, journal, targets, walk, underway, flat⟩ := ih
    rcases step.moves with ⟨none, same, fewer⟩ | ⟨submission, transition, dispatching, arrival, depth,
      recorded, more⟩
    · refine ⟨records, by rw [same, journal], by simp [none, targets], walk, fewer.trans underway, flat⟩
    have running : transition.depth = before.underway.length := by
      rw [depth, call.depth_eq_running quiescent passes.steps, before.length_underway]
    have bounded : transition.depth ≤ (lineage records).length := by
      have shorter := underway.length_le
      rwa [List.length_map, ← running] at shorter
    have kept_on : before.session.machine.policy.recordHistory = true := by
      rw [passes.steps.setup.policy, (call.moment_setup session).policy]
      exact kept
    refine ⟨records ++ [transition], ?_, ?_, walk.snoc bounded, ?_, fun queued => ?_⟩
    · simp [recorded kept_on, Journal.record, journal]
    · simp [arrival, targets]
    · have above := List.prefix_iff_eq_take.mp underway
      rw [more, lineage_snoc, List.map_append, List.map_take, running, ← above]
      exact List.prefix_rfl
    · have top : before.running = 0 := call.dispatches_flat queued quiescent passes.steps dispatching
      have length := before.length_underway
      rintro other member
      rcases List.mem_append.mp member with earlier | last
      · exact flat queued other earlier
      · rw [List.mem_singleton.mp last]
        omega

theorem Journey.append {table : Table} {first middle last : StateId} {begins goes : List Transition}
    (journey : Journey table first begins middle) (onward : Journey table middle goes last) :
    Journey table first (begins ++ goes) last := by
  induction journey with
  | stay => exact onward
  | move resolved _ ih => exact .move resolved (ih onward)

private theorem Journey.path_eq {table : Table} {journal : Journal} {first last : StateId}
    (journey : Journey table first journal.transitions last) :
    journal.path = if journal.transitions.map (·.target) = [] then []
      else first :: journal.transitions.map (·.target) := by
  obtain ⟨transitions⟩ := journal
  cases journey with
  | stay => rfl
  | move => rfl

/-- The records of a machine lead from the initial state through these states, each by a rule of the table,
and they are a walk that nothing but nesting takes below the top. -/
structure Machine.Retraces (table : Table) (states : List StateId) (machine : Machine D P σ) : Prop where
  journey : Journey table .initial machine.journal.transitions machine.current
  targets : machine.journal.transitions.map (·.target) = states
  walk : Walk machine.journal.transitions
  flat : machine.policy.dispatch = .queued →
    ∀ transition ∈ machine.journal.transitions, transition.depth = 0

private theorem Moment.Records.retraces {table : Table} {call : Call P} {session : Session D P σ}
    {moment : Moment D P σ} {states more : List StateId} {records : List Transition}
    (recorded : moment.Records session more records) (retraces : session.machine.Retraces table states)
    (same : session.machine.table = table) (kept : session.machine.policy.recordHistory = true)
    (reached : Steps (call.moment session) moment) :
    moment.session.machine.Retraces table (states ++ more) := by
  obtain ⟨draining, began⟩ := call.moment_machine session
  obtain ⟨events, follows⟩ := reached.follows
  have journey := follows.journey
  have journal := follows.journal
  simp only [began, Machine.drainingAs, kept, if_true, same] at journey journal
  rw [recorded.journal, List.append_cancel_left_eq] at journal
  rw [← journal] at journey
  have policy : moment.session.machine.policy = session.machine.policy := by
    rw [reached.setup.policy, (call.moment_setup session).policy]
  refine ⟨?_, ?_, ?_, ?_⟩
  · rw [recorded.journal]
    exact retraces.journey.append journey
  · rw [recorded.journal, List.map_append, retraces.targets, recorded.targets]
  · rw [recorded.journal]
    exact retraces.walk.append recorded.walk
  · rw [recorded.journal, policy]
    intro queued transition member
    rcases List.mem_append.mp member with earlier | later
    · exact retraces.flat queued transition earlier
    · exact recorded.flat queued transition later

private theorem Session.Lives.retraces {table : Table} {policy : Policy} {states : List StateId}
    {session : Session D P σ} (kept : policy.recordHistory = true)
    (lives : session.Lives table policy states) : session.machine.Retraces table states := by
  induction lives with
  | new data world => exact ⟨.stay, rfl, .nil, by simp [Machine.new]⟩
  | call lives passes ih =>
    obtain ⟨same, policy⟩ := lives.setup
    rw [← policy] at kept
    obtain ⟨records, recorded⟩ := passes.records kept lives.quiescent
    exact recorded.retraces ih same kept passes.steps
  | apart _ callbacks world ih => exact ⟨ih.journey, ih.targets, ih.walk, ih.flat⟩

/-- If a journal is kept, then at every moment of every call in the life of a machine the journal retraces
all that the machine has been through, whatever calls have failed. What a call records is a walk of its
own, which starts at the top, and of which the dispatches under way are the last lineage's beginning. -/
theorem journal_retraces_life {table : Table} {policy : Policy} {states more : List StateId}
    {session : Session D P σ} {call : Call P} {moment : Moment D P σ}
    (kept : policy.recordHistory = true) (lives : session.Lives table policy states)
    (passes : (call.moment session).Passes more moment) :
    moment.session.machine.Retraces table (states ++ more) ∧
    moment.session.machine.journal.path =
      (if states ++ more = [] then [] else .initial :: (states ++ more)) ∧
    ∃ records, moment.Records session more records := by
  obtain ⟨same, same_policy⟩ := lives.setup
  have kept_here : session.machine.policy.recordHistory = true := by
    rw [same_policy]
    exact kept
  obtain ⟨records, recorded⟩ := passes.records kept_here lives.quiescent
  have retraces := recorded.retraces (lives.retraces kept) same kept_here passes.steps
  refine ⟨retraces, ?_, records, recorded⟩
  rw [retraces.journey.path_eq, retraces.targets]

/-- A trigger under a trigger, the action of which fails: both transitions are on record, the second one
below the first. -/
theorem journal_retraces_failed_call :
    ({} : Policy).recordHistory = true ∧ (Sample.session {}).Lives Sample.table {} [] ∧
      ∃ states after, (Call.moment (.trigger (.name "run") () .unbounded) (Sample.session {})).Passes states
          ⟨.outcome (.error (.callback (.entry "running")
            (.failure (.callback (.action "finish") (.foreign "too late"))))), [], after⟩ ∧
        after.machine.Retraces Sample.table states ∧ states = [⟨1⟩, ⟨2⟩] ∧
        after.machine.journal.transitions.map (·.depth) = [0, 1] := by
  have lives : (Sample.session {}).Lives Sample.table {} [] :=
    .apart (.new 0 Sample.world) Sample.callbacks Sample.world
  have returned : Call.Returns (.trigger (.name "run") () .unbounded) (Sample.session {}) _ _ := ⟨3, rfl⟩
  obtain ⟨states, passes⟩ := Steps.passes returned.steps
  obtain ⟨retraces, _, _⟩ := journal_retraces_life rfl lives passes
  refine ⟨rfl, lives, states, _, passes, retraces, ?_, rfl⟩
  exact retraces.targets.symm

end StateMachine
