import StateMachine.Proofs.Account
import StateMachine.Proofs.Compilation
import StateMachine.Proofs.Quiescence
import StateMachine.Proofs.Sample

namespace StateMachine

variable {D P σ : Type}

namespace Table

/-- The label of a state is the name that the table declares, and not what stands in for it. -/
def NamesState (table : Table) (state : StateId) : Prop :=
  table.stateName? state = some (table.stateLabel state)

def NamesEvent (table : Table) (event : EventId) : Prop :=
  table.eventName? event = some (table.eventLabel event)

variable {table : Table}

private theorem namesState_iff {state : StateId} :
    table.NamesState state ↔ state.index < table.states.length := by
  by_cases known : state.index < table.states.length
  · simp [NamesState, stateLabel, stateName?, known]
  · simp [NamesState, stateName?, known]

private theorem namesEvent_iff {event : EventId} :
    table.NamesEvent event ↔ event.index < table.events.length := by
  by_cases known : event.index < table.events.length
  · simp [NamesEvent, eventLabel, eventName?, event?, known]
  · simp [NamesEvent, eventName?, event?, known]

end Table

section Named

variable (table : Table)

structure Transition.Named (transition : Transition) : Prop where
  source : table.NamesState transition.source
  target : table.NamesState transition.target
  event : table.NamesEvent transition.event

def Duty.Named : {role : Role} → Duty P role → Prop
  | _, .act submission => table.NamesEvent submission.event
  | _, .enter state => table.NamesState state

def Control.Named : Control D P σ → Prop
  | .submit submission | .dispatch submission | .act submission => table.NamesEvent submission.event
  | .callback duty _ _ => duty.Named table
  | .enter _ | .outcome _ => True

def Frame.Named : Frame D P σ → Prop
  | .waiting duty _ _ => duty.Named table
  | .settling event => table.NamesEvent event
  | .draining => True

/-- Every state and every event that is reported is one that the table declares. -/
def Event.Named : Event D P → Prop
  | .accepted submission | .dispatched submission _ => table.NamesEvent submission.event
  | .deferred event _ | .actionEnded event _ | .settled event _ => table.NamesEvent event
  | .applied transition => transition.Named table
  | .actionBegan event _ state => table.NamesEvent event ∧ table.NamesState state
  | .entryBegan state _ | .entryEnded state _ => table.NamesState state
  | .taken | .refused _ | .wrote _ | .raised _ | .dropped _ => True

/-- Every state and every event of a machine is one that its table declares. -/
structure Machine.Named (machine : Machine D P σ) : Prop where
  same : machine.table = table
  current : table.NamesState machine.current
  recorded : ∀ transition ∈ machine.journal.transitions, transition.Named table
  pending : ∀ submission ∈ machine.pending, table.NamesEvent submission.event

structure Moment.Named (moment : Moment D P σ) : Prop where
  machine : moment.session.machine.Named table
  control : moment.control.Named table
  stack : ∀ frame ∈ moment.stack, frame.Named table

end Named

variable {table : Table}

namespace Machine.Named

variable {machine : Machine D P σ} (named : machine.Named table)
include named

theorem enqueue {submission : Submission P} (known : table.NamesEvent submission.event) :
    { machine with pending := machine.pending ++ [submission] }.Named table := by
  refine { named with pending := fun other member => ?_ }
  rcases List.mem_append.mp member with before | last
  · exact named.pending other before
  · rw [List.mem_singleton.mp last]
    exact known

theorem dequeue {submission : Submission P} {rest : List (Submission P)}
    (first : machine.pending = submission :: rest) :
    table.NamesEvent submission.event ∧ { machine with pending := rest }.Named table := by
  have pending := named.pending
  rw [first] at pending
  obtain ⟨known, later⟩ := List.forall_mem_cons.mp pending
  exact ⟨known, { named with pending := later }⟩

theorem apply (closed : table.Closed) {event : EventId} {target : StateId} (time : Instant)
    (known : table.NamesEvent event) (resolved : machine.table.resolve? machine.current event = some target) :
    { machine with
      current := target
      journal := if machine.policy.recordHistory then
          machine.journal.record ⟨machine.current, target, event, machine.depth, time⟩
        else machine.journal
      depth := machine.depth + 1 }.Named table := by
  rw [named.same] at resolved
  have reached : table.NamesState target := Table.namesState_iff.mpr (closed.resolve resolved)
  refine { named with current := reached, recorded := ?_ }
  cases machine.policy.recordHistory with
  | false => exact named.recorded
  | true =>
    intro transition member
    rcases List.mem_append.mp member with before | last
    · exact named.recorded transition before
    · rw [List.mem_singleton.mp last]
      exact ⟨named.current, reached, known⟩

end Machine.Named

theorem Step.named (closed : table.Closed) {before after : Moment D P σ} (step : Step before after)
    (named : before.Named table) : after.Named table := by
  obtain ⟨machine, control, stack⟩ := named
  cases step with
  | nest nested => exact ⟨machine, control, stack⟩
  | defer queued draining => exact ⟨machine.enqueue control, trivial, stack⟩
  | drain queued idle =>
    exact ⟨{ machine.enqueue control with }, trivial, List.forall_mem_cons.mpr ⟨trivial, stack⟩⟩
  | refuse refused => exact ⟨machine, trivial, stack⟩
  | apply found =>
    have resolved := (Session.target_eq_ok_iff.mp found).resolved
    exact ⟨machine.apply closed _ control resolved, control, List.forall_mem_cons.mpr ⟨control, stack⟩⟩
  | skipAction absent => exact ⟨machine, trivial, stack⟩
  | beginAction present => exact ⟨machine, control, stack⟩
  | endAction => exact ⟨machine, trivial, stack⟩
  | failAction => exact ⟨machine, trivial, stack⟩
  | skipEntry absent => exact ⟨machine, trivial, stack⟩
  | beginEntry present => exact ⟨machine, machine.current, stack⟩
  | endEntry => exact ⟨machine, trivial, stack⟩
  | look => exact ⟨machine, control, stack⟩
  | share => exact ⟨machine, control, stack⟩
  | read => exact ⟨machine, control, stack⟩
  | write => exact ⟨{ machine with }, control, stack⟩
  | cancel => exact ⟨machine, control, stack⟩
  | misname unknown => exact ⟨machine, control, stack⟩
  | trigger known =>
    rw [machine.same] at known
    exact ⟨machine, Table.namesEvent_iff.mpr (Table.findEvent_lt known),
      List.forall_mem_cons.mpr ⟨control, stack⟩⟩
  | resume =>
    obtain ⟨first, rest⟩ := List.forall_mem_cons.mp stack
    exact ⟨machine, first, rest⟩
  | settle => exact ⟨{ machine with }, trivial, (List.forall_mem_cons.mp stack).2⟩
  | take first =>
    obtain ⟨known, later⟩ := machine.dequeue first
    exact ⟨later, known, stack⟩
  | close empty =>
    refine ⟨?_, trivial, (List.forall_mem_cons.mp stack).2⟩
    rw [Session.machine_close]
    exact { machine with pending := by simp }
  | abandon =>
    refine ⟨?_, trivial, (List.forall_mem_cons.mp stack).2⟩
    rw [Session.machine_close]
    exact { machine with pending := by simp }

/-- Whatever is reported, is reported with states and events that the table declares. -/
theorem Step.reports (closed : table.Closed) {before after : Moment D P σ} (step : Step before after)
    (named : before.Named table) :
    ∃ events, after.session.world.trace = before.session.world.trace ++ events ∧
      ∀ event ∈ events, event.Named table := by
  obtain ⟨machine, control, stack⟩ := named
  have one {event : Event D P} (known : event.Named table) : ∀ other ∈ [event], other.Named table :=
    List.forall_mem_singleton.mpr known
  have two {first second : Event D P} (known : first.Named table) (second_known : second.Named table) :
      ∀ other ∈ [first, second], other.Named table :=
    List.forall_mem_cons.mpr ⟨known, one second_known⟩
  cases step with
  | defer queued draining => exact ⟨_, Session.trace_defer _ _, two control control⟩
  | drain queued idle => exact ⟨_, Session.trace_enqueue _ _, one control⟩
  | refuse refused =>
    rename_i submission stack session failure
    exact ⟨[.dispatched submission session.machine.depth, .refused failure], by simp, two control trivial⟩
  | apply found =>
    have resolved := (Session.target_eq_ok_iff.mp found).resolved
    rw [machine.same] at resolved
    have reached := Table.namesState_iff.mpr (closed.resolve resolved)
    rename_i submission stack session target
    exact ⟨[.dispatched submission session.machine.depth, .applied
        ⟨session.machine.current, target, submission.event, session.machine.depth, session.now⟩],
      by simp, two control ⟨machine.current, reached, control⟩⟩
  | beginAction present => exact ⟨_, rfl, one ⟨control, machine.current⟩⟩
  | endAction => exact ⟨_, rfl, one control⟩
  | failAction => exact ⟨_, rfl, one control⟩
  | beginEntry present => exact ⟨_, rfl, one machine.current⟩
  | endEntry => exact ⟨_, rfl, one control⟩
  | write => exact ⟨_, rfl, one trivial⟩
  | cancel => exact ⟨_, rfl, one trivial⟩
  | settle => exact ⟨_, rfl, one (List.forall_mem_cons.mp stack).1⟩
  | take first => exact ⟨_, rfl, one trivial⟩
  | close empty => exact ⟨[], by simp [Session.trace_close, empty], by simp⟩
  | abandon =>
    rename_i stack session failure
    by_cases empty : session.machine.pending = []
    · exact ⟨[], by simp [Session.trace_close, empty], by simp⟩
    · exact ⟨[.dropped session.machine.pending.length], by simp [Session.trace_close, empty], one trivial⟩
  | nest | skipAction | skipEntry | look | share | read | misname | trigger | resume =>
    exact ⟨[], by simp, by simp⟩

theorem Steps.named (closed : table.Closed) {before after : Moment D P σ} (steps : Steps before after)
    (named : before.Named table) :
    after.Named table ∧ ∃ events, after.session.world.trace = before.session.world.trace ++ events ∧
      ∀ event ∈ events, event.Named table := by
  induction steps with
  | refl => exact ⟨named, [], by simp, by simp⟩
  | tail _ step ih =>
    obtain ⟨reached, events, trace, known⟩ := ih
    obtain ⟨more, goes, known_too⟩ := step.reports closed reached
    refine ⟨step.named closed reached, events ++ more, by rw [goes, trace, List.append_assoc], ?_⟩
    exact List.forall_mem_append.mpr ⟨known, known_too⟩

private theorem Call.moment_named (call : Call P) {session : Session D P σ}
    (named : session.machine.Named table) : (call.moment session).Named table := by
  rcases call.moment_cases session with
    ⟨_, same⟩ | ⟨_, _, _, _, known, same⟩ | ⟨_, _, same⟩ | ⟨_, _, _, same⟩ <;> rw [same]
  · exact ⟨named, trivial, by simp⟩
  · rw [named.same] at known
    exact ⟨named, Table.namesEvent_iff.mpr (Table.findEvent_lt known), by simp⟩
  · exact ⟨named, trivial, by simp⟩
  · exact ⟨{ named with }, trivial, List.forall_mem_singleton.mpr trivial⟩

theorem Session.Operation.named (closed : table.Closed) {before after : Session D P σ}
    (operation : before.Operation after) (named : before.machine.Named table) :
    after.machine.Named table := by
  rcases operation.call_or_apart with ⟨_, _, returned⟩ | ⟨_, _, rfl⟩
  · exact (returned.steps.named closed (Call.moment_named _ named)).1.machine
  · exact { named with }

/-- The sessions that operations from outside can bring about from a new machine of a table. -/
def Session.Reachable (table : Table) (policy : Policy) (session : Session D P σ) : Prop :=
  ∃ data world, Session.Operations ⟨Machine.new table data policy, world⟩ session

theorem Session.Reachable.named (closed : table.Closed) {policy : Policy} {session : Session D P σ}
    (reachable : session.Reachable table policy) : session.machine.Named table := by
  obtain ⟨data, world, operations⟩ := reachable
  induction operations with
  | refl => exact ⟨rfl, Table.namesState_iff.mpr closed.initial, nofun, nofun⟩
  | tail _ operation ih => exact operation.named closed ih

/-- A machine at rest: nothing is under way, nothing waits, and it is still set up in the same way. -/
structure Machine.Resting (table : Table) (policy : Policy) (machine : Machine D P σ) : Prop where
  quiescent : machine.Quiescent
  same_table : machine.table = table
  same_policy : machine.policy = policy
  current : machine.current.index < table.states.length
  recorded : ∀ transition ∈ machine.journal.transitions,
    transition.source.index < table.states.length ∧ transition.target.index < table.states.length ∧
      transition.event.index < table.events.length

theorem Session.Reachable.resting (closed : table.Closed) {policy : Policy} {session : Session D P σ}
    (reachable : session.Reachable table policy) : session.machine.Resting table policy := by
  have named := reachable.named closed
  obtain ⟨data, world, operations⟩ := reachable
  refine ⟨operations.quiescent (Machine.quiescent_new table data policy), operations.setup.1,
    operations.setup.2, Table.namesState_iff.mp named.current, fun transition member => ?_⟩
  obtain ⟨source, target, event⟩ := named.recorded transition member
  exact ⟨Table.namesState_iff.mp source, Table.namesState_iff.mp target, Table.namesEvent_iff.mp event⟩

/-- What holds at every moment of a call since its session. -/
structure Moment.Sound (table : Table) (session : Session D P σ) (moment : Moment D P σ) : Prop where
  depth : moment.session.machine.depth = moment.running
  pending : ∀ submission ∈ moment.session.machine.pending, submission.event.index < table.events.length
  named : moment.Named table
  reports : ∃ past, moment.session.world.trace = session.world.trace ++ past ∧
    ∀ event ∈ past, event.Named table

/-- A machine of a compiled table is at rest between the operations on it, however its calls end, and no
call changes its callbacks. While callbacks run, the depth counts the dispatches under way, and no state
or event is involved but those that the table declares. -/
theorem reachable_machine_rests {definition : Definition} {strictness : Strictness}
    {compilation : Compilation} {policy : Policy} {session : Session D P σ}
    (compiled : definition.compile strictness = .ok compilation)
    (reachable : session.Reachable compilation.table policy) :
    session.machine.Resting compilation.table policy ∧
    (∀ (call : Call P) outcome after, call.Returns session outcome after →
      after.machine.Resting compilation.table policy ∧
        after.machine.callbacks = session.machine.callbacks) ∧
    ∀ (call : Call P) moment, Steps (call.moment session) moment →
      moment.Sound compilation.table session := by
  have closed := Definition.compile_closed compiled
  have resting := reachable.resting closed
  refine ⟨resting, fun call outcome after returned => ⟨?_, returned.setup.callbacks⟩,
    fun call moment reached => ?_⟩
  · obtain ⟨data, world, operations⟩ := reachable
    exact Session.Reachable.resting closed ⟨data, world, operations.tail (.call returned)⟩
  · obtain ⟨named, past, trace, known⟩ := reached.named closed (call.moment_named (reachable.named closed))
    rw [call.moment_world] at trace
    exact ⟨call.depth_eq_running resting.quiescent reached,
      fun submission member => Table.namesEvent_iff.mp (named.machine.pending submission member), named,
      past, trace, known⟩

theorem Sample.operations (policy : Policy) :
    Session.Operations ⟨Machine.new Sample.table 0 policy, Sample.world⟩ (Sample.session policy) := by
  refine .tail (.tail (.single (.setAction (.name "run") (some Sample.run)))
    (.setAction (.name "finish") (some Sample.finish))) ?_
  exact .setEntry (.name "running") (some Sample.running)

theorem Sample.reachable (policy : Policy) : (Sample.session policy).Reachable Sample.table policy :=
  ⟨0, Sample.world, Sample.operations policy⟩

/-- After a failure under a failure the sample machine is at rest again. -/
theorem sample_machine_rests_after_failure :
    Definition.Sample.initFinal.compile .permissive = .ok ⟨Sample.table, 0⟩ ∧
      (Sample.session {}).Reachable Sample.table {} ∧
      ∃ after, Call.Returns (.trigger (.name "run") () .unbounded) (Sample.session {})
          (.error (.callback (.entry "running")
            (.failure (.callback (.action "finish") (.foreign "too late"))))) after ∧
        after.machine.Resting Sample.table {} ∧ after.machine.current = ⟨2⟩ := by
  have reachable := Sample.reachable {}
  have returned : Call.Returns (.trigger (.name "run") () .unbounded) (Sample.session {}) _ _ := ⟨3, rfl⟩
  obtain ⟨_, calls, _⟩ := reachable_machine_rests Sample.compile_initFinal reachable
  exact ⟨Sample.compile_initFinal, reachable, _, returned, (calls _ _ _ returned).1, rfl⟩

end StateMachine
