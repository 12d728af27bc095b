import StateMachine.Proofs.Quiescence

namespace StateMachine

variable {D P σ : Type}

theorem Machine.forwarded_propagate {machine : Machine D P σ}
    (forwarding : machine.policy.forwarding = .propagate) : machine.forwarded = id := by
  funext token
  simp only [forwarded, forwarding, id_eq]

theorem Machine.forwarded_detach {machine : Machine D P σ}
    (forwarding : machine.policy.forwarding = .detach) : machine.forwarded = fun _ => .unbounded := by
  funext token
  simp only [forwarded, forwarding]

theorem Machine.SameSetup.forwarded {first second : Machine D P σ} (same : first.SameSetup second) :
    second.forwarded = first.forwarded := by
  funext token
  simp only [Machine.forwarded, same.policy]

section Hands

variable (forward : Token → Token) (good : Token → Prop)

/-- A submission is dispatched with its own token. From then on only what is forwarded counts. -/
def Duty.Hands : {role : Role} → Duty P role → Prop
  | _, .act submission => good (forward submission.token)
  | _, .enter _ => True

def Control.Hands : Control D P σ → Prop
  | .submit submission | .dispatch submission => good submission.token
  | .act submission => good (forward submission.token)
  | .enter token => good (forward token)
  | .callback duty token _ => duty.Hands forward good ∧ good token
  | .outcome _ => True

def Frame.Hands : Frame D P σ → Prop
  | .waiting duty token _ => duty.Hands forward good ∧ good token
  | .settling _ | .draining => True

/-- Every token that a dispatch can still be checked against is a good one. -/
structure Moment.Hands (moment : Moment D P σ) : Prop where
  forwarded : moment.session.machine.forwarded = forward
  control : moment.control.Hands forward good
  stack : ∀ frame ∈ moment.stack, frame.Hands forward good
  pending : ∀ submission ∈ moment.session.machine.pending, good submission.token

end Hands

variable {forward : Token → Token} {good : Token → Prop}

/-- If what is forwarded of a good token is good again, then nothing but good tokens is handed on. -/
theorem Step.hands (closed : ∀ token, good token → good (forward token)) {before after : Moment D P σ}
    (step : Step before after) (hands : before.Hands forward good) : after.Hands forward good := by
  have same := step.setup.forwarded.trans hands.forwarded
  obtain ⟨forwarded, control, stack, pending⟩ := hands
  cases step with
  | nest nested => exact ⟨same, control, stack, pending⟩
  | defer queued draining =>
    exact ⟨same, trivial, stack, List.forall_mem_append.mpr ⟨pending, List.forall_mem_singleton.mpr control⟩⟩
  | drain queued idle =>
    exact ⟨same, trivial, List.forall_mem_cons.mpr ⟨trivial, stack⟩,
      List.forall_mem_append.mpr ⟨pending, List.forall_mem_singleton.mpr control⟩⟩
  | refuse refused => exact ⟨same, trivial, stack, pending⟩
  | apply found => exact ⟨same, closed _ control, List.forall_mem_cons.mpr ⟨trivial, stack⟩, pending⟩
  | skipAction absent => exact ⟨same, control, stack, pending⟩
  | beginAction present =>
    refine ⟨same, ⟨control, ?_⟩, stack, pending⟩
    rw [forwarded]
    exact control
  | endAction => exact ⟨same, control.1, stack, pending⟩
  | failAction => exact ⟨same, trivial, stack, pending⟩
  | skipEntry absent => exact ⟨same, trivial, stack, pending⟩
  | beginEntry present =>
    refine ⟨same, ⟨trivial, ?_⟩, stack, pending⟩
    rw [forwarded]
    exact control
  | endEntry => exact ⟨same, trivial, stack, pending⟩
  | look | share | read | write | cancel | misname => exact ⟨same, control, stack, pending⟩
  | trigger known => exact ⟨same, control.2, List.forall_mem_cons.mpr ⟨control, stack⟩, pending⟩
  | resume =>
    obtain ⟨first, rest⟩ := List.forall_mem_cons.mp stack
    exact ⟨same, first, rest, pending⟩
  | settle => exact ⟨same, trivial, (List.forall_mem_cons.mp stack).2, pending⟩
  | take first =>
    rw [first] at pending
    obtain ⟨taken, rest⟩ := List.forall_mem_cons.mp pending
    exact ⟨same, taken, stack, rest⟩
  | close empty => exact ⟨same, trivial, (List.forall_mem_cons.mp stack).2, by simp⟩
  | abandon => exact ⟨same, trivial, (List.forall_mem_cons.mp stack).2, by simp⟩

theorem Steps.hands (closed : ∀ token, good token → good (forward token)) {before after : Moment D P σ}
    (steps : Steps before after) (hands : before.Hands forward good) : after.Hands forward good := by
  induction steps with
  | refl => exact hands
  | tail _ step ih => exact step.hands closed ih

end StateMachine
