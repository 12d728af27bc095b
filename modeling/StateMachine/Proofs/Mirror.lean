import StateMachine.Proofs.Dispatch
import StateMachine.Proofs.Journey

namespace StateMachine

variable {D P σ : Type}

/-- Two views that differ in depth and time at most, and not in whether their token has expired. -/
structure View.Alike (view other : View) : Prop where
  table : view.table = other.table
  state : view.state = other.state
  token : view.token = other.token
  cancelled : view.cancelled = other.cancelled
  expired : view.expired = other.expired

/-- Programs without triggers but for the last step of an entry, whose outcome is the result. They go on
in the same way whatever the depth and the time are. -/
inductive Program.Tail : {role : Role} → Program D P σ role → Prop where
  | done {role : Role} {result : Except Cause Unit} : Tail (.done result : Program D P σ role)
  | look {role : Role} {next : View → Program D P σ role}
      (blind : ∀ view other, View.Alike view other → next view = next other)
      (tail : ∀ view, Tail (next view)) : Tail (.look next)
  | share {role : Role} {next : σ → Program D P σ role} (tail : ∀ shared, Tail (next shared)) :
      Tail (.share update next)
  | read {next : D → Program D P σ .action} (tail : ∀ data, Tail (next data)) : Tail (.read next)
  | write {next : Program D P σ .action} (tail : Tail next) : Tail (.write update next)
  | cancel {role : Role} {next : Program D P σ role} (tail : Tail next) : Tail (.cancel flagged next)
  | trigger {next : Except Failure Unit → Program D P σ .entry}
      (returns : ∀ outcome, next outcome = .done (outcome.mapError .failure)) :
      Tail (.trigger key payload next)

/-- Callbacks all of which trigger at their very end, if at all. -/
structure Callbacks.Tail (callbacks : Callbacks (Action D P σ) (Entry D P σ)) : Prop where
  action : ∀ event action, callbacks.action? event = some action → ∀ payload, (action payload).Tail
  entry : ∀ state entry, callbacks.entry? state = some entry → ∀ data, (entry data).Tail

/-- Both outcomes are fine, or both are failures with the same root. -/
inductive SameRoot : Except Failure Unit → Except Failure Unit → Prop where
  | fine : SameRoot (.ok ()) (.ok ())
  | failed {failure other : Failure} (same : failure.root = other.root) :
      SameRoot (.error failure) (.error other)

theorem SameRoot.refl (outcome : Except Failure Unit) : SameRoot outcome outcome := by
  cases outcome with
  | ok => exact .fine
  | error failure => exact .failed rfl

theorem SameRoot.trans {first second third : Except Failure Unit} (begins : SameRoot first second)
    (goes : SameRoot second third) : SameRoot first third := by
  cases begins with
  | fine => exact goes
  | failed same =>
    cases goes with
    | failed again => exact .failed (same.trans again)

/-- A callback that ends with the outcome of its trigger wraps its failure, and keeps the root. -/
theorem SameRoot.wrapped (callback : Callback) (outcome : Except Failure Unit) :
    SameRoot ((outcome.mapError Cause.failure).mapError (.callback callback)) outcome := by
  cases outcome with
  | ok => exact .fine
  | error failure => exact .failed (by simp only [Failure.root])

/-- Where a transition leads from, where to, and by which event. -/
def Transition.move (transition : Transition) : StateId × StateId × EventId :=
  (transition.source, transition.target, transition.event)

/-- Whether a token has expired does not depend on when it is looked at, and by which clock. -/
def Token.Steady (clock other : Nat → Instant) (token : Token) : Prop :=
  ∀ reading another, token.isExpired (clock reading) = token.isExpired (other another)

theorem Token.steady_unbounded (clock other : Nat → Instant) : Token.unbounded.Steady clock other :=
  fun _ _ => rfl

/-- A session in queued mode is what one in nested mode is, but for depth and time, and for what is
pending. -/
structure Session.Mirrors (clock other : Nat → Instant) (busy : Bool) (pending : List (Submission P))
    (first second : Session D P σ) : Prop where
  nested : first.machine.policy.dispatch = .nested
  queued : second.machine.policy.dispatch = .queued
  unlimited : first.machine.policy.maxDepth = none ∧ second.machine.policy.maxDepth = none
  forwarding : first.machine.policy.forwarding = second.machine.policy.forwarding
  recordHistory : first.machine.policy.recordHistory = second.machine.policy.recordHistory
  table : first.machine.table = second.machine.table
  callbacks : first.machine.callbacks = second.machine.callbacks
  tail : first.machine.callbacks.Tail
  current : first.machine.current = second.machine.current
  data : first.machine.data = second.machine.data
  moves : first.machine.journal.transitions.map Transition.move =
    second.machine.journal.transitions.map Transition.move
  flags : first.world.flags = second.world.flags
  shared : first.world.shared = second.world.shared
  invocations : invocations first.world.trace = invocations second.world.trace
  clock : first.world.clock = clock
  other : second.world.clock = other
  pending : second.machine.pending = pending
  draining : second.machine.draining = busy

theorem invocations_snoc (events : List (Event D P)) (event : Event D P) :
    invocations (events ++ [event]) = invocations events ++ event.invocation?.toList := by
  cases event <;> simp [invocations, List.filterMap_cons, Event.invocation?]

namespace Session.Mirrors

variable {clock other : Nat → Instant} {busy : Bool} {pending : List (Submission P)}
variable {first second : Session D P σ}
variable (mirrors : Mirrors clock other busy pending first second)
include mirrors

theorem tick : Mirrors clock other busy pending first.tick second.tick := { mirrors with }

theorem emit (event : Event D P) :
    Mirrors clock other busy pending (first.emit event) (second.emit event) :=
  { mirrors with
    invocations := by simp only [trace_emit, invocations_snoc, mirrors.invocations] }

/-- Whatever else one of the sessions reports, callbacks begin in both. -/
theorem emit_left {event : Event D P} (quiet : event.invocation? = none) :
    Mirrors clock other busy pending (first.emit event) second :=
  { mirrors with
    invocations := by simp [invocations_snoc, quiet, mirrors.invocations] }

theorem emit_right {event : Event D P} (quiet : event.invocation? = none) :
    Mirrors clock other busy pending first (second.emit event) :=
  { mirrors with
    invocations := by simp [invocations_snoc, quiet, mirrors.invocations] }

theorem share (update : σ → σ) :
    Mirrors clock other busy pending (first.share update) (second.share update) :=
  { mirrors with shared := congrArg update mirrors.shared }

theorem cancel (token : Token) : Mirrors clock other busy pending (first.cancel token) (second.cancel token) :=
  { mirrors with
    flags := congrArg (Flags.cancel · token) mirrors.flags
    invocations := by simp only [trace_cancel, invocations_snoc, mirrors.invocations] }

theorem write (update : D → D) :
    Mirrors clock other busy pending (first.write update) (second.write update) :=
  { mirrors with
    data := congrArg update mirrors.data
    invocations := by simp only [trace_write, invocations_snoc, mirrors.invocations] }

theorem dispatched (submission : Submission P) :
    Mirrors clock other busy pending (first.dispatched submission) (second.dispatched submission) :=
  (mirrors.tick.emit_left rfl).emit_right rfl

theorem apply (event : EventId) (target : StateId) (time another : Instant) :
    Mirrors clock other busy pending (first.apply event target time) (second.apply event target another) :=
  { mirrors with
    current := rfl
    moves := by
      cases recorded : second.machine.policy.recordHistory <;>
        simp [mirrors.recordHistory, recorded, Journal.record, Transition.move, mirrors.moves,
          mirrors.current]
    invocations := by simp [invocations_snoc, Event.invocation?, mirrors.invocations] }

theorem settle_left (event : EventId) (outcome : Except Failure Unit) :
    Mirrors clock other busy pending (first.settle event outcome) second :=
  { mirrors with
    invocations := by simp [invocations_snoc, Event.invocation?, mirrors.invocations] }

theorem settle_right (event : EventId) (outcome : Except Failure Unit) :
    Mirrors clock other busy pending first (second.settle event outcome) :=
  { mirrors with
    invocations := by simp [invocations_snoc, Event.invocation?, mirrors.invocations] }

theorem enqueue (submission : Submission P) :
    Mirrors clock other busy (pending ++ [submission]) first (second.enqueue submission) :=
  { mirrors with
    pending := by simp [mirrors.pending]
    invocations := by simp [invocations_snoc, Event.invocation?, mirrors.invocations] }

theorem defer (submission : Submission P) :
    Mirrors clock other busy (pending ++ [submission]) first (second.defer submission) :=
  (mirrors.enqueue submission).emit_right rfl

theorem dequeue (rest : List (Submission P)) :
    Mirrors clock other busy rest first (second.dequeue rest) :=
  { mirrors with
    pending := rfl
    invocations := by simp [invocations_snoc, Event.invocation?, mirrors.invocations] }

theorem setDraining (draining : Bool) :
    Mirrors clock other draining pending first (second.setDraining draining) :=
  { mirrors with draining := rfl }

theorem view_alike {token : Token} (steady : token.Steady clock other) :
    (first.view token).Alike (second.view token) where
  table := mirrors.table
  state := mirrors.current
  token := rfl
  cancelled := congrArg (Flags.isCancelled · token) mirrors.flags
  expired := by
    simp only [View.expired, view, now, mirrors.clock, mirrors.other]
    exact steady _ _

theorem target_eq {submission : Submission P} (steady : submission.token.Steady clock other) :
    first.target submission = second.target submission := by
  have expired : submission.token.isExpired first.now = submission.token.isExpired second.now := by
    simp only [now, mirrors.clock, mirrors.other]
    exact steady _ _
  simp only [target, Token.check, Machine.stateName, mirrors.unlimited, mirrors.flags, mirrors.table,
    mirrors.current, expired]

theorem forwarded_eq (token : Token) :
    first.machine.forwarded token = second.machine.forwarded token := by
  simp only [Machine.forwarded, mirrors.forwarding]

end Session.Mirrors

theorem Machine.forwarded_steady {clock other : Nat → Instant} (machine : Machine D P σ) {token : Token}
    (steady : token.Steady clock other) : (machine.forwarded token).Steady clock other := by
  cases forwarding : machine.policy.forwarding <;> simp only [forwarded, forwarding]
  · exact steady
  · exact Token.steady_unbounded clock other

end StateMachine
