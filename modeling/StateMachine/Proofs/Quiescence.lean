import StateMachine.Proofs.Depth

namespace StateMachine

variable {D P σ : Type}

/-- Nothing is under way, and nothing waits. -/
structure Machine.Quiescent (machine : Machine D P σ) : Prop where
  depth : machine.depth = 0
  pending : machine.pending = []
  draining : machine.draining = false

theorem Machine.quiescent_new (table : Table) (data : D) (policy : Policy) :
    (Machine.new table data policy : Machine D P σ).Quiescent :=
  ⟨rfl, rfl, rfl⟩

/-- Whether the queue waits in a frame. -/
def Frame.isDraining : Frame D P σ → Bool
  | .draining => true
  | _ => false

/-- The queue is marked as being drained exactly while it waits in a frame, which it does once at most.
Otherwise nothing is pending. -/
structure Moment.Guarded (moment : Moment D P σ) : Prop where
  flag : moment.stack.countP Frame.isDraining = moment.session.machine.draining.toNat
  idle : moment.session.machine.draining = false → moment.session.machine.pending = []

private theorem Step.guarded {before after : Moment D P σ} (step : Step before after)
    (guarded : before.Guarded) : after.Guarded := by
  obtain ⟨flag, idle⟩ := guarded
  cases step with
  | defer queued draining =>
    refine ⟨flag, fun resting => ?_⟩
    cases draining.symm.trans resting
  | drain queued resting =>
    refine ⟨?_, by simp⟩
    simp [resting, List.countP_cons, Frame.isDraining] at flag ⊢
    exact flag
  | take first =>
    refine ⟨flag, fun resting => ?_⟩
    cases first.symm.trans (idle resting)
  | close empty =>
    refine ⟨?_, by simp⟩
    rename_i stack session
    cases draining : session.machine.draining <;>
      simp [draining, List.countP_cons, Frame.isDraining] at flag ⊢
    exact flag
  | abandon =>
    refine ⟨?_, by simp⟩
    rename_i stack session failure
    cases draining : session.machine.draining <;>
      simp [draining, List.countP_cons, Frame.isDraining] at flag ⊢
    exact flag
  | _ => exact ⟨by simpa [List.countP_cons, Frame.isDraining] using flag, by simpa using idle⟩

private theorem Steps.guarded {before after : Moment D P σ} (steps : Steps before after)
    (guarded : before.Guarded) : after.Guarded := by
  induction steps with
  | refl => exact guarded
  | tail _ step ih => exact step.guarded ih

namespace Call

variable {session : Session D P σ} (quiescent : session.machine.Quiescent) (call : Call P)
include quiescent

private theorem moment_guarded : (call.moment session).Guarded := by
  obtain ⟨_, pending, draining⟩ := quiescent
  rcases call.moment_cases session with
    ⟨_, same⟩ | ⟨_, _, _, _, _, same⟩ | ⟨_, _, same⟩ | ⟨_, _, _, same⟩ <;> rw [same]
  · exact ⟨by simp [draining], fun _ => pending⟩
  · exact ⟨by simp [draining], fun _ => pending⟩
  · exact ⟨by simp [draining], fun _ => pending⟩
  · exact ⟨by simp [Frame.isDraining], fun _ => pending⟩

private theorem moment_depth :
    (call.moment session).session.machine.depth = 0 + (call.moment session).running := by
  have depth := quiescent.depth
  rcases call.moment_cases session with
    ⟨_, same⟩ | ⟨_, _, _, _, _, same⟩ | ⟨_, _, same⟩ | ⟨_, _, _, same⟩ <;> rw [same] <;>
    simp [depth, Moment.running, Frame.isSettling]

/-- At every moment of a call the depth is the number of dispatches whose callbacks are under way. -/
theorem depth_eq_running {moment : Moment D P σ} (reached : Steps (call.moment session) moment) :
    moment.session.machine.depth = moment.running := by
  rw [reached.depth 0 (call.moment_depth quiescent), Nat.zero_add]

end Call

/-- A call that returns leaves a machine at rest, whatever its outcome is. -/
theorem Call.Returns.quiescent {call : Call P} {session after : Session D P σ}
    {outcome : Except Failure Unit} (returned : call.Returns session outcome after)
    (quiescent : session.machine.Quiescent) : after.machine.Quiescent := by
  have guarded := returned.steps.guarded (call.moment_guarded quiescent)
  have draining : after.machine.draining = false := by
    have flag := guarded.flag
    cases draining : after.machine.draining <;> simp [draining] at flag
    rfl
  exact ⟨call.depth_eq_running quiescent returned.steps, guarded.idle draining, draining⟩

/-- A machine after an attempt to change it. A failed attempt changes nothing. -/
def Machine.afterwards (machine : Machine D P σ) : Except Failure (Machine D P σ) → Machine D P σ
  | .ok changed => changed
  | .error _ => machine

/-- What can happen to a session from outside: calls that return, changes of callbacks, and whatever
happens in the rest of the world. -/
inductive Session.Operation (session : Session D P σ) : Session D P σ → Prop where
  | call (returned : Call.Returns call session outcome after) : Operation session after
  | setAction (key : EventKey) (action : Option (Action D P σ)) :
      Operation session
        ⟨session.machine.afterwards (session.machine.setAction key action), session.world⟩
  | setEntry (key : StateKey) (entry : Option (Entry D P σ)) :
      Operation session
        ⟨session.machine.afterwards (session.machine.setEntry key entry), session.world⟩
  | elsewhere (world : World D P σ) : Operation session ⟨session.machine, world⟩

/-- Any number of operations. -/
abbrev Session.Operations : Session D P σ → Session D P σ → Prop :=
  Relation.ReflTransGen Session.Operation

private theorem Machine.afterwards_callbacks {X : Type} (machine : Machine D P σ) (found : Except Failure X)
    (change : X → Callbacks (Action D P σ) (Entry D P σ)) :
    ∃ callbacks, machine.afterwards (found.map fun item => { machine with callbacks := change item }) =
      { machine with callbacks } := by
  cases found with
  | error => exact ⟨machine.callbacks, rfl⟩
  | ok item => exact ⟨change item, rfl⟩

/-- Apart from calls, only callbacks are changed from outside, and the rest of the world. -/
theorem Session.Operation.call_or_apart {before after : Session D P σ} (operation : before.Operation after) :
    (∃ call outcome, Call.Returns call before outcome after) ∨
      ∃ callbacks world, after = ⟨{ before.machine with callbacks }, world⟩ := by
  cases operation with
  | call returned => exact .inl ⟨_, _, returned⟩
  | setAction key action =>
    obtain ⟨callbacks, same⟩ := before.machine.afterwards_callbacks (before.machine.table.findEvent key)
      fun event => (before.machine.callbacks.putAction event action).1
    exact .inr ⟨callbacks, before.world, congrArg (Session.mk · before.world) same⟩
  | setEntry key entry =>
    obtain ⟨callbacks, same⟩ := before.machine.afterwards_callbacks (before.machine.table.findState key)
      fun state => (before.machine.callbacks.putEntry state entry).1
    exact .inr ⟨callbacks, before.world, congrArg (Session.mk · before.world) same⟩
  | elsewhere world => exact .inr ⟨before.machine.callbacks, world, rfl⟩

theorem Session.Operation.quiescent {before after : Session D P σ} (operation : before.Operation after)
    (quiescent : before.machine.Quiescent) : after.machine.Quiescent := by
  rcases operation.call_or_apart with ⟨_, _, returned⟩ | ⟨_, _, rfl⟩
  · exact returned.quiescent quiescent
  · exact ⟨quiescent.depth, quiescent.pending, quiescent.draining⟩

/-- No operation changes the table or the policy of a machine. -/
theorem Session.Operation.setup {before after : Session D P σ} (operation : before.Operation after) :
    after.machine.table = before.machine.table ∧ after.machine.policy = before.machine.policy := by
  rcases operation.call_or_apart with ⟨_, _, returned⟩ | ⟨_, _, rfl⟩
  · exact ⟨returned.setup.table, returned.setup.policy⟩
  · exact ⟨rfl, rfl⟩

theorem Session.Operations.quiescent {before after : Session D P σ}
    (operations : before.Operations after) (quiescent : before.machine.Quiescent) :
    after.machine.Quiescent := by
  induction operations with
  | refl => exact quiescent
  | tail _ operation ih => exact operation.quiescent ih

theorem Session.Operations.setup {before after : Session D P σ}
    (operations : before.Operations after) :
    after.machine.table = before.machine.table ∧ after.machine.policy = before.machine.policy := by
  induction operations with
  | refl => exact ⟨rfl, rfl⟩
  | tail _ operation ih => exact ⟨operation.setup.1.trans ih.1, operation.setup.2.trans ih.2⟩

end StateMachine
