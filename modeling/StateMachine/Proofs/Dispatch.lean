import StateMachine.Machine.Dispatch
import StateMachine.Proofs.Session

namespace StateMachine

variable {D P σ : Type}

@[simp] theorem mapError_ok (blame : Cause → Failure) (done : Unit) :
    (Except.ok done : Except Cause Unit).mapError blame = .ok done := rfl

@[simp] theorem mapError_error (blame : Cause → Failure) (cause : Cause) :
    (Except.error cause : Except Cause Unit).mapError blame = .error (blame cause) := rfl

/-- One run after another one, unless the first one fails. -/
def Run.andThen (first next : Run D P σ (Except Failure Unit)) : Run D P σ (Except Failure Unit) :=
  fun session =>
    match first session with
    | some (.ok (), session) => next session
    | stopped => stopped

theorem Run.andThen_ok {first next : Run D P σ (Except Failure Unit)} {session reached : Session D P σ}
    (done : first session = some (.ok (), reached)) : first.andThen next session = next reached := by
  unfold andThen
  simp only [done]

theorem Run.andThen_error {first next : Run D P σ (Except Failure Unit)} {session after : Session D P σ}
    {failure : Failure} (failed : first session = some (.error failure, after)) :
    first.andThen next session = some (.error failure, after) := by
  unfold andThen
  simp only [failed]

theorem Run.andThen_eq_some_iff {first next : Run D P σ (Except Failure Unit)}
    {session after : Session D P σ} {outcome : Except Failure Unit} :
    first.andThen next session = some (outcome, after) ↔
      (∃ reached, first session = some (.ok (), reached) ∧ next reached = some (outcome, after)) ∨
        ∃ failure, outcome = .error failure ∧ first session = some (.error failure, after) := by
  unfold Run.andThen
  split
  · rename_i reached done
    simp [done]
  · rename_i stopped
    constructor
    · intro ran
      cases outcome with
      | ok => exact absurd ran (stopped after)
      | error failure => exact .inr ⟨failure, rfl, ran⟩
    · rintro (⟨reached, done, _⟩ | ⟨failure, rfl, ran⟩)
      · exact absurd done (stopped reached)
      · exact ran

namespace Session

variable {session : Session D P σ} {submission : Submission P} {fuel : Nat}

/-- While a queue is drained, a submission joins it, and no fuel is spent. -/
theorem submit_deferred (queued : session.machine.policy.dispatch = .queued)
    (draining : session.machine.draining = true) :
    submit fuel submission session = some (.ok (), session.defer submission) := by
  unfold submit
  simp only [queued, draining]
  rfl

theorem submit_nested (nested : session.machine.policy.dispatch = .nested) :
    submit (fuel + 1) submission session = dispatch (submit fuel) submission session := by
  unfold submit
  simp only [nested]

theorem submit_queued (queued : session.machine.policy.dispatch = .queued)
    (idle : session.machine.draining = false) :
    submit (fuel + 1) submission session =
      runQueued (submit fuel) fuel (fun session => some (.ok (), session))
        (session.enqueue submission) := by
  unfold submit
  simp only [queued, idle]

theorem submit_spent (apart : session.machine.policy.dispatch = .nested ∨
    session.machine.draining = false) : submit 0 submission session = none := by
  unfold submit
  rcases apart with nested | idle
  · simp [nested]
  · cases mode : session.machine.policy.dispatch <;> simp [idle]

theorem deferring_or_apart (session : Session D P σ) :
    session.machine.policy.dispatch = .queued ∧ session.machine.draining = true ∨
      session.machine.policy.dispatch = .nested ∨ session.machine.draining = false := by
  cases session.machine.policy.dispatch <;> cases session.machine.draining <;> simp

/-- A submission that comes to an outcome has joined an open queue, has been dispatched at once, or has
opened the queue. -/
theorem submit_cases {after : Session D P σ} {outcome : Except Failure Unit}
    (submitted : submit fuel submission session = some (outcome, after)) :
    (session.machine.policy.dispatch = .queued ∧ session.machine.draining = true ∧
      outcome = .ok () ∧ after = session.defer submission) ∨
    ∃ less, fuel = less + 1 ∧
      (session.machine.policy.dispatch = .nested ∧
        dispatch (submit less) submission session = some (outcome, after) ∨
      session.machine.policy.dispatch = .queued ∧ session.machine.draining = false ∧
        runQueued (submit less) less (fun session => some (.ok (), session))
          (session.enqueue submission) = some (outcome, after)) := by
  cases mode : session.machine.policy.dispatch with
  | nested =>
    cases fuel with
    | zero => cases (submit_spent (.inl mode)).symm.trans submitted
    | succ fuel =>
      rw [submit_nested mode] at submitted
      exact .inr ⟨fuel, rfl, .inl ⟨rfl, submitted⟩⟩
  | queued =>
    cases draining : session.machine.draining with
    | true =>
      rw [submit_deferred mode draining] at submitted
      cases submitted
      exact .inl ⟨rfl, rfl, rfl, rfl⟩
    | false =>
      cases fuel with
      | zero => cases (submit_spent (.inr draining)).symm.trans submitted
      | succ fuel =>
        rw [submit_queued mode draining] at submitted
        exact .inr ⟨fuel, rfl, .inr ⟨rfl, rfl, submitted⟩⟩

variable {submit : Submission P → Run D P σ (Except Failure Unit)}

theorem drain_empty (empty : session.machine.pending = []) :
    drain submit fuel session = some (.ok (), session) := by
  unfold drain
  simp [empty]

theorem drain_spent {rest : List (Submission P)}
    (first : session.machine.pending = submission :: rest) :
    drain submit 0 session = none := by
  unfold drain
  simp [first]

theorem drain_first {rest : List (Submission P)}
    (first : session.machine.pending = submission :: rest) :
    drain submit (fuel + 1) session =
      Run.andThen (dispatch submit submission) (drain submit fuel) (session.dequeue rest) := by
  rw [drain]
  simp only [first]
  rfl

/-- Draining that comes to an outcome has found nothing pending, or has begun with what is pending first. -/
theorem drain_cases {after : Session D P σ} {outcome : Except Failure Unit}
    (drained : drain submit fuel session = some (outcome, after)) :
    (session.machine.pending = [] ∧ outcome = .ok () ∧ after = session) ∨
    ∃ submission rest less, session.machine.pending = submission :: rest ∧ fuel = less + 1 ∧
      Run.andThen (dispatch submit submission) (drain submit less) (session.dequeue rest) =
        some (outcome, after) := by
  cases pending : session.machine.pending with
  | nil =>
    rw [drain_empty pending] at drained
    cases drained
    exact .inl ⟨rfl, rfl, rfl⟩
  | cons submission rest =>
    cases fuel with
    | zero => cases (drain_spent pending).symm.trans drained
    | succ fuel =>
      rw [drain_first pending] at drained
      exact .inr ⟨submission, rest, fuel, rfl, rfl, drained⟩

theorem andThen_drain_empty {first : Run D P σ (Except Failure Unit)} {reached : Session D P σ}
    {outcome : Except Failure Unit} (done : first session = some (outcome, reached))
    (empty : reached.machine.pending = []) :
    first.andThen (drain submit fuel) session = some (outcome, reached) := by
  cases outcome with
  | ok => exact (Run.andThen_ok done).trans (drain_empty empty)
  | error failure => exact Run.andThen_error done

theorem dispatch_refused {failure : Failure} (refused : session.target submission = .error failure) :
    dispatch submit submission session =
      some (.error failure, (session.dispatched submission).emit (.refused failure)) := by
  simp only [dispatch, refused, dispatched]

theorem dispatch_found {target : StateId} (found : session.target submission = .ok target) :
    dispatch submit submission session =
      (runCallbacks submit submission
        ((session.dispatched submission).apply submission.event target session.now)).map
        fun (outcome, reached) => (outcome, reached.settle submission.event outcome) := by
  simp only [dispatch, found, dispatched]
  split
  · rename_i stopped
    rw [stopped]
    rfl
  · rename_i ran
    rw [ran]
    rfl

theorem dispatch_applied {target : StateId} {reached : Session D P σ} {outcome : Except Failure Unit}
    (found : session.target submission = .ok target)
    (ran : runCallbacks submit submission
      ((session.dispatched submission).apply submission.event target session.now) =
        some (outcome, reached)) :
    dispatch submit submission session = some (outcome, reached.settle submission.event outcome) := by
  rw [dispatch_found found, ran]
  rfl

theorem act_present {action : Action D P σ}
    (present : session.machine.callbacks.action? submission.event = some action) :
    act submit submission session =
      ((action submission.payload).run submit (session.machine.forwarded submission.token)
        (session.emit (.actionBegan submission.event submission.payload session.machine.current))).map
        fun (result, reached) =>
          (result.mapError (.callback (.action (session.machine.table.eventLabel submission.event))),
            reached.emit (.actionEnded submission.event result)) := by
  simp only [act, present]
  split
  · rename_i stopped
    rw [stopped]
    rfl
  · rename_i ran
    rw [ran]
    rfl

theorem enter_present {token : Token} {entry : Entry D P σ}
    (present : session.machine.callbacks.entry? session.machine.current = some entry) :
    enter submit token session =
      ((entry session.machine.data).run submit (session.machine.forwarded token)
        (session.emit (.entryBegan session.machine.current session.machine.data))).map
        fun (result, reached) =>
          (result.mapError (.callback (.entry (session.machine.table.stateLabel session.machine.current))),
            reached.emit (.entryEnded session.machine.current result)) := by
  simp only [enter, present]
  split
  · rename_i stopped
    rw [stopped]
    rfl
  · rename_i ran
    rw [ran]
    rfl

theorem runCallbacks_eq : runCallbacks submit submission =
    (act submit submission).andThen (enter submit submission.token) := rfl

theorem runQueued_eq {first : Run D P σ (Except Failure Unit)} :
    runQueued submit fuel first session =
      (first.andThen (drain submit fuel) (session.setDraining true)).map
        fun (outcome, drained) => (outcome, drained.close) := rfl

theorem runQueued_eq_some_iff {first : Run D P σ (Except Failure Unit)} {after : Session D P σ}
    {outcome : Except Failure Unit} :
    runQueued submit fuel first session = some (outcome, after) ↔
      ∃ drained, first.andThen (drain submit fuel) (session.setDraining true) = some (outcome, drained) ∧
        after = drained.close := by
  unfold runQueued Run.andThen
  simp only [Option.map_eq_some_iff, Prod.exists, Prod.mk.injEq]
  constructor
  · rintro ⟨_, drained, ran, rfl, rfl⟩
    exact ⟨drained, ran, rfl⟩
  · rintro ⟨drained, ran, rfl⟩
    exact ⟨outcome, drained, ran, rfl, rfl⟩

end Session

end StateMachine
