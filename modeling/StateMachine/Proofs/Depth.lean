import StateMachine.Proofs.Steps

namespace StateMachine

variable {D P σ : Type}

/-- Whether a dispatch waits for its callbacks in a frame. -/
def Frame.isSettling : Frame D P σ → Bool
  | .settling _ => true
  | _ => false

/-- The number of dispatches whose callbacks are under way. -/
def Moment.running (moment : Moment D P σ) : Nat := moment.stack.countP Frame.isSettling

/-- A step changes the depth by what it changes about the running dispatches. -/
theorem Step.depth {before after : Moment D P σ} (step : Step before after) (base : Nat)
    (counted : before.session.machine.depth = base + before.running) :
    after.session.machine.depth = base + after.running := by
  cases step with
  | apply found =>
    simp [Moment.running, List.countP_cons, Frame.isSettling] at counted ⊢
    omega
  | settle =>
    simp [Moment.running, List.countP_cons, Frame.isSettling] at counted ⊢
    omega
  | _ => simpa [Moment.running, List.countP_cons, Frame.isSettling] using counted

theorem Steps.depth {before after : Moment D P σ} (steps : Steps before after) (base : Nat)
    (counted : before.session.machine.depth = base + before.running) :
    after.session.machine.depth = base + after.running := by
  induction steps with
  | refl => exact counted
  | tail _ step ih => exact step.depth base ih

end StateMachine
