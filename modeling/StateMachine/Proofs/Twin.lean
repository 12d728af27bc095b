import StateMachine.Proofs.Forwarding
import StateMachine.Proofs.Mirror

namespace StateMachine

variable {D P σ : Type}

section Timely

variable (timed : Prop)

/-- Two views without a token that differ in the time at most, and only where the time does not count. -/
structure View.Twin (view other : View) : Prop where
  table : view.table = other.table
  state : view.state = other.state
  depth : view.depth = other.depth
  unbounded : view.token = .unbounded
  token : view.token = other.token
  cancelled : view.cancelled = other.cancelled
  now : timed → view.now = other.now

/-- Programs that look at the time only where it counts, when they are run without a token. -/
inductive Program.Timely : {role : Role} → Program D P σ role → Prop where
  | done {role : Role} {result : Except Cause Unit} : Timely (.done result : Program D P σ role)
  | look {role : Role} {next : View → Program D P σ role}
      (blind : ∀ view other, View.Twin timed view other → next view = next other)
      (onward : ∀ view : View, view.token = .unbounded → Timely (next view)) : Timely (.look next)
  | share {role : Role} {next : σ → Program D P σ role} (onward : ∀ shared, Timely (next shared)) :
      Timely (.share update next)
  | read {next : D → Program D P σ .action} (onward : ∀ data, Timely (next data)) : Timely (.read next)
  | write {next : Program D P σ .action} (onward : Timely next) : Timely (.write update next)
  | cancel {role : Role} {next : Program D P σ role} (onward : Timely next) :
      Timely (.cancel flagged next)
  | trigger {role : Role} {next : Except Failure Unit → Program D P σ role}
      (onward : ∀ outcome, Timely (next outcome)) : Timely (.trigger key payload next)

structure Callbacks.Timely (callbacks : Callbacks (Action D P σ) (Entry D P σ)) : Prop where
  action : ∀ event action, callbacks.action? event = some action →
    ∀ payload, (action payload).Timely timed
  entry : ∀ state entry, callbacks.entry? state = some entry → ∀ data, (entry data).Timely timed

end Timely

/-- Callbacks that without a token go on in the same way whatever the time is. -/
def Callbacks.Timeless (callbacks : Callbacks (Action D P σ) (Entry D P σ)) : Prop := callbacks.Timely False

/-- Where the time counts, two views that are twins are the same. -/
theorem View.Twin.eq {timed : Prop} {view other : View} (twin : View.Twin timed view other)
    (counts : timed) : view = other := by
  cases view
  cases other
  obtain ⟨rfl, rfl, rfl, _, rfl, rfl, now⟩ := twin
  cases now counts
  rfl

theorem Program.timely_of_timed {timed : Prop} (counts : timed) {role : Role}
    (program : Program D P σ role) : program.Timely timed := by
  induction program with
  | done => exact .done
  | look next ih =>
    exact .look (fun view other twin => congrArg next (twin.eq counts)) fun view _ => ih view
  | share update next ih => exact .share ih
  | read next ih => exact .read ih
  | write update next ih => exact .write ih
  | cancel flagged next ih => exact .cancel ih
  | trigger key payload next ih => exact .trigger ih

theorem Callbacks.timely_of_timed {timed : Prop} (counts : timed)
    (callbacks : Callbacks (Action D P σ) (Entry D P σ)) : callbacks.Timely timed :=
  ⟨fun _ action _ payload => (action payload).timely_of_timed counts,
    fun _ entry _ data => (entry data).timely_of_timed counts⟩

/-- What a journal says of a transition, apart from its time. -/
def Transition.timeless (transition : Transition) : (StateId × StateId × EventId) × Nat :=
  (transition.move, transition.depth)

/-- Two sessions of a machine that hands no token on. They differ in what is reported, and in the time
only where it does not count. -/
structure Session.Twins (timed : Prop) (first second : Session D P σ) : Prop where
  machine : ∃ journal, second.machine = { first.machine with journal } ∧
    first.machine.journal.transitions.map Transition.timeless =
      journal.transitions.map Transition.timeless
  timely : first.machine.callbacks.Timely timed
  detached : first.machine.policy.forwarding = .detach
  unbounded : ∀ submission ∈ first.machine.pending, submission.token = .unbounded
  flags : second.world.flags = first.world.flags
  shared : second.world.shared = first.world.shared
  invocations : invocations second.world.trace = invocations first.world.trace
  clock : timed → second.world.clock = first.world.clock ∧ second.world.readings = first.world.readings

/-- What is dropped was never begun. -/
theorem Session.invocations_close (session : Session D P σ) :
    StateMachine.invocations session.close.world.trace = StateMachine.invocations session.world.trace := by
  by_cases empty : session.machine.pending = []
  · simp [trace_close, empty]
  · simp [trace_close, empty, invocations_snoc, Event.invocation?]

namespace Session.Twins

variable {timed : Prop} {first second : Session D P σ} (twins : first.Twins timed second)
include twins

theorem tick : first.tick.Twins timed second.tick :=
  { twins with
    clock := fun counts => ⟨(twins.clock counts).1, congrArg (· + 1) (twins.clock counts).2⟩ }

/-- Whatever the two sessions report, callbacks begin in both. -/
theorem emit {event other : Event D P} (same : event.invocation? = other.invocation?) :
    (first.emit event).Twins timed (second.emit other) :=
  { twins with
    invocations := by simp only [trace_emit, invocations_snoc, twins.invocations, same] }

theorem share (update : σ → σ) : (first.share update).Twins timed (second.share update) :=
  { twins with shared := congrArg update twins.shared }

theorem cancel (token : Token) : (first.cancel token).Twins timed (second.cancel token) :=
  { twins with
    flags := congrArg (Flags.cancel · token) twins.flags
    invocations := by simp only [trace_cancel, invocations_snoc, twins.invocations] }

theorem write (update : D → D) : (first.write update).Twins timed (second.write update) := by
  obtain ⟨journal, same, records⟩ := twins.machine
  refine { twins with
    machine := ⟨journal, ?_, records⟩
    invocations := ?_ }
  · simp only [machine_write, same]
  · simp only [trace_write, invocations_snoc, twins.invocations]

theorem apply (event : EventId) (target : StateId) (time other : Instant) :
    (first.apply event target time).Twins timed (second.apply event target other) := by
  obtain ⟨journal, same, records⟩ := twins.machine
  refine { twins with
    machine := ⟨(second.apply event target other).machine.journal, ?_, ?_⟩
    invocations := ?_ }
  · simp only [machine_apply, same]
  · cases recorded : first.machine.policy.recordHistory <;>
      simp [same, recorded, records, Journal.record, Transition.timeless, Transition.move]
  · simp [invocations_snoc, Event.invocation?, twins.invocations]

theorem settle (event : EventId) (outcome : Except Failure Unit) :
    (first.settle event outcome).Twins timed (second.settle event outcome) := by
  obtain ⟨journal, same, records⟩ := twins.machine
  refine { twins with
    machine := ⟨journal, ?_, records⟩
    invocations := ?_ }
  · simp only [machine_settle, same]
  · simp [invocations_snoc, Event.invocation?, twins.invocations]

theorem enqueue {submission : Submission P} (unbounded : submission.token = .unbounded) :
    (first.enqueue submission).Twins timed (second.enqueue submission) := by
  obtain ⟨journal, same, records⟩ := twins.machine
  refine { twins with
    machine := ⟨journal, ?_, records⟩
    unbounded := ?_
    invocations := ?_ }
  · simp only [machine_enqueue, same]
  · exact List.forall_mem_append.mpr ⟨twins.unbounded, List.forall_mem_singleton.mpr unbounded⟩
  · simp only [trace_enqueue, invocations_snoc, twins.invocations]

theorem defer {submission : Submission P} (unbounded : submission.token = .unbounded) :
    (first.defer submission).Twins timed (second.defer submission) :=
  (twins.enqueue unbounded).emit rfl

theorem setDraining (draining : Bool) :
    (first.setDraining draining).Twins timed (second.setDraining draining) := by
  obtain ⟨journal, same, records⟩ := twins.machine
  exact { twins with machine := ⟨journal, by simp only [machine_setDraining, same], records⟩ }

/-- What is taken from a queue need not be the same, if the rest is. -/
theorem dequeue {rest : List (Submission P)}
    (unbounded : ∀ submission ∈ rest, submission.token = .unbounded) :
    (first.dequeue rest).Twins timed (second.dequeue rest) := by
  obtain ⟨journal, same, records⟩ := twins.machine
  refine { twins with
    machine := ⟨journal, ?_, records⟩
    unbounded := unbounded
    invocations := ?_ }
  · simp only [machine_dequeue, same]
  · simp [invocations_snoc, Event.invocation?, twins.invocations]

/-- A queue that one submission opens, which is taken from it. Its token is of no account. -/
theorem opened (submission : Submission P) (token : Token) :
    (((first.enqueue submission).setDraining true).dequeue []).Twins timed
      (((second.enqueue { submission with token }).setDraining true).dequeue []) := by
  obtain ⟨journal, same, records⟩ := twins.machine
  refine { twins with
    machine := ⟨journal, ?_, records⟩
    unbounded := by simp
    invocations := ?_ }
  · simp only [machine_dequeue, machine_setDraining, machine_enqueue, same]
  · simp only [trace_dequeue, trace_setDraining, trace_enqueue, invocations_snoc, twins.invocations,
      Event.invocation?]

theorem close : first.close.Twins timed second.close := by
  obtain ⟨journal, same, records⟩ := twins.machine
  refine ⟨⟨journal, ?_, by simpa using records⟩, ?_, ?_, ?_, ?_, ?_, ?_, fun counts => ?_⟩
  · simp only [machine_close, same]
  · simpa using twins.timely
  · simpa using twins.detached
  · simp
  · simp [twins.flags]
  · simp [twins.shared]
  · simp [invocations_close, twins.invocations]
  · simp [twins.clock counts]

theorem policy_eq : second.machine.policy = first.machine.policy := by
  obtain ⟨journal, same, records⟩ := twins.machine
  rw [same]

theorem draining_eq : second.machine.draining = first.machine.draining := by
  obtain ⟨journal, same, records⟩ := twins.machine
  rw [same]

theorem pending_eq : second.machine.pending = first.machine.pending := by
  obtain ⟨journal, same, records⟩ := twins.machine
  rw [same]

theorem view_twin : View.Twin timed (first.view .unbounded) (second.view .unbounded) := by
  obtain ⟨journal, same, records⟩ := twins.machine
  refine ⟨by simp [view, same], by simp [view, same], by simp [view, same], rfl, rfl, ?_, fun counts => ?_⟩
  · simp [view, twins.flags]
  · obtain ⟨clock, readings⟩ := twins.clock counts
    simp [view, now, clock, readings]

end Session.Twins

end StateMachine
