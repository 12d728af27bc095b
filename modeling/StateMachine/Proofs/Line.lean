import StateMachine.Proofs.Journey
import StateMachine.Proofs.Quiescence

namespace StateMachine

variable {D P σ : Type}

/-- What is being submitted. -/
def Control.submitted : Control D P σ → List (Submission P)
  | .submit submission => [submission]
  | _ => []

/-- What has been taken from the queue to be dispatched next. -/
def Control.taken : Control D P σ → List (Submission P)
  | .dispatch submission => [submission]
  | _ => []

/-- In queued mode exactly what is submitted is accepted. -/
theorem Step.accepts {before after : Moment D P σ} (step : Step before after)
    (queued : before.session.machine.policy.dispatch = .queued) :
    accepted after.session.world.trace =
      accepted before.session.world.trace ++ before.control.submitted := by
  cases step with
  | nest nested => cases nested.symm.trans queued
  | close empty => simp [accepted, Session.trace_close, empty, Control.submitted]
  | abandon =>
    rename_i stack session failure
    by_cases empty : session.machine.pending = [] <;>
      simp [accepted, Session.trace_close, empty, Control.submitted, Event.acceptance?]
  | _ => simp [accepted, Control.submitted, Event.acceptance?]

/-- Exactly what is dispatched is reported as dispatched. -/
theorem Step.dispatches {before after : Moment D P σ} (step : Step before after) :
    dispatches after.session.world.trace =
      dispatches before.session.world.trace ++ before.control.taken := by
  cases step with
  | close empty => simp [StateMachine.dispatches, Session.trace_close, empty, Control.taken]
  | abandon =>
    rename_i stack session failure
    by_cases empty : session.machine.pending = [] <;>
      simp [StateMachine.dispatches, Session.trace_close, empty, Control.taken, Event.dispatch?]
  | _ => simp [StateMachine.dispatches, Control.taken, Event.dispatch?]

/-- The queue waits below everything else that waits. -/
def Frame.Bottomed (stack : List (Frame D P σ)) : Prop :=
  ∃ inner, stack = inner ++ [.draining] ∧ .draining ∉ inner

namespace Frame.Bottomed

variable {frame : Frame D P σ} {stack : List (Frame D P σ)}

theorem queue : Bottomed [(.draining : Frame D P σ)] := ⟨[], rfl, by simp⟩

private theorem push (bottomed : Bottomed stack) (apart : frame ≠ .draining) :
    Bottomed (frame :: stack) := by
  obtain ⟨inner, rfl, alone⟩ := bottomed
  exact ⟨frame :: inner, rfl, by simp [apart.symm, alone]⟩

theorem pop (bottomed : Bottomed (frame :: stack)) (apart : frame ≠ .draining) : Bottomed stack := by
  obtain ⟨inner, same, alone⟩ := bottomed
  cases inner with
  | nil =>
    obtain ⟨rfl, _⟩ := List.cons.inj same
    exact absurd rfl apart
  | cons first inner =>
    obtain ⟨rfl, rfl⟩ := List.cons.inj same
    exact ⟨inner, rfl, fun member => alone (List.mem_cons_of_mem _ member)⟩

theorem last (bottomed : Bottomed (.draining :: stack)) : stack = [] := by
  obtain ⟨inner, same, alone⟩ := bottomed
  cases inner with
  | nil => exact (List.cons.inj same).2
  | cons first inner =>
    obtain ⟨rfl, _⟩ := List.cons.inj same
    exact absurd (List.mem_cons_self ..) alone

end Frame.Bottomed

/-- While the queue is drained, a step takes from its front and adds to its end, or it closes the queue. -/
theorem Step.queue {before after : Moment D P σ} (step : Step before after)
    (queued : before.session.machine.policy.dispatch = .queued)
    (draining : before.session.machine.draining = true) (bottomed : Frame.Bottomed before.stack) :
    (after.session.machine.draining = true ∧ Frame.Bottomed after.stack ∧
      after.control.taken ++ after.session.machine.pending =
        before.session.machine.pending ++ before.control.submitted) ∨
    ∃ outcome, after.control = .outcome outcome ∧ after.stack = [] ∧ before.control.submitted = [] ∧
      (outcome = .ok () → before.session.machine.pending = []) := by
  cases step with
  | nest nested => cases nested.symm.trans queued
  | drain _ idle => cases idle.symm.trans draining
  | apply found =>
    exact .inl ⟨draining, bottomed.push (by simp), by simp [Control.taken, Control.submitted]⟩
  | trigger known =>
    exact .inl ⟨draining, bottomed.push (by simp), by simp [Control.taken, Control.submitted]⟩
  | resume => exact .inl ⟨draining, bottomed.pop (by simp), by simp [Control.taken, Control.submitted]⟩
  | settle => exact .inl ⟨draining, bottomed.pop (by simp), by simp [Control.taken, Control.submitted]⟩
  | take first => exact .inl ⟨draining, bottomed, by simp [Control.taken, Control.submitted, first]⟩
  | close empty => exact .inr ⟨_, rfl, bottomed.last, rfl, fun _ => empty⟩
  | abandon => exact .inr ⟨_, rfl, bottomed.last, rfl, by simp⟩
  | _ => exact .inl ⟨draining, bottomed, by simp [Control.taken, Control.submitted]⟩

/-- How far a queue has come since a session in which nothing was pending: what has been accepted is what
has been dispatched, and after it what is taken or pending. -/
inductive Moment.InLine (session : Session D P σ) : Moment D P σ → Prop where
  | fresh (idle : reached.machine.draining = false) (empty : reached.machine.pending = [])
      (dispatched : dispatches reached.world.trace = dispatches session.world.trace)
      (accepts : accepted reached.world.trace = accepted session.world.trace) :
      InLine session ⟨.submit submission, [], reached⟩
  | serving {control : Control D P σ} {stack : List (Frame D P σ)} {served : List (Submission P)}
      (draining : reached.machine.draining = true) (bottomed : Frame.Bottomed stack)
      (dispatched : dispatches reached.world.trace = dispatches session.world.trace ++ served)
      (accepts : accepted reached.world.trace =
        accepted session.world.trace ++ (served ++ control.taken ++ reached.machine.pending)) :
      InLine session ⟨control, stack, reached⟩
  | closed {served waiting : List (Submission P)}
      (dispatched : dispatches reached.world.trace = dispatches session.world.trace ++ served)
      (accepts : accepted reached.world.trace = accepted session.world.trace ++ (served ++ waiting))
      (complete : outcome = .ok () → waiting = []) :
      InLine session ⟨.outcome outcome, [], reached⟩

theorem Step.inLine {session : Session D P σ} {before after : Moment D P σ} (step : Step before after)
    (queued : before.session.machine.policy.dispatch = .queued) (line : before.InLine session) :
    after.InLine session := by
  have leaves := step.dispatches
  have joins := step.accepts queued
  cases line with
  | fresh idle empty dispatched accepts =>
    cases step with
    | nest nested => cases nested.symm.trans queued
    | defer _ draining => cases draining.symm.trans idle
    | drain _ _ =>
      rw [dispatched] at leaves
      rw [accepts] at joins
      refine .serving rfl .queue leaves ?_
      simpa [Control.taken, Control.submitted, empty] using joins
  | serving draining bottomed dispatched accepts =>
    rw [dispatched, List.append_assoc] at leaves
    rw [accepts, List.append_assoc] at joins
    obtain ⟨control, stack, reached⟩ := after
    rcases step.queue queued draining bottomed with
      ⟨draining, bottomed, pending⟩ | ⟨outcome, rfl, rfl, quiet, complete⟩
    · refine .serving draining bottomed leaves ?_
      rw [joins, List.append_assoc _ control.taken, pending, List.append_assoc, List.append_assoc]
    · rw [quiet, List.append_nil] at joins
      exact .closed leaves joins complete
  | closed _ _ _ => cases step

theorem Steps.inLine {session : Session D P σ} {before after : Moment D P σ} (steps : Steps before after)
    (queued : before.session.machine.policy.dispatch = .queued) (line : before.InLine session) :
    after.InLine session := by
  induction steps with
  | refl => exact line
  | tail steps step ih =>
    refine step.inLine ?_ ih
    rw [Steps.setup steps |>.policy]
    exact queued

namespace Moment.InLine

variable {session : Session D P σ} {moment : Moment D P σ} {past : List (Event D P)}

/-- What has been dispatched is what was accepted, in this order, as far as it goes. -/
theorem dispatched_in_order (line : moment.InLine session)
    (trace : moment.session.world.trace = session.world.trace ++ past) :
    dispatches past <+: accepted past := by
  have split : ∃ served waiting,
      dispatches moment.session.world.trace = dispatches session.world.trace ++ served ∧
        accepted moment.session.world.trace = accepted session.world.trace ++ (served ++ waiting) := by
    cases line with
    | fresh _ _ dispatched accepts => exact ⟨[], [], by simpa using dispatched, by simpa using accepts⟩
    | serving _ _ dispatched accepts => exact ⟨_, _, dispatched, by rw [accepts, List.append_assoc]⟩
    | closed dispatched accepts _ => exact ⟨_, _, dispatched, accepts⟩
  obtain ⟨served, waiting, dispatched, accepts⟩ := split
  rw [trace] at dispatched accepts
  simp only [dispatches, accepted, List.filterMap_append, List.append_cancel_left_eq]
    at dispatched accepts
  exact ⟨waiting, by rw [dispatches, accepted, dispatched, accepts]⟩

/-- When all has gone well, nothing accepted is left. -/
theorem all_dispatched {after : Session D P σ} (line : InLine session ⟨.outcome (.ok ()), [], after⟩)
    (trace : after.world.trace = session.world.trace ++ past) : dispatches past = accepted past := by
  cases line with
  | serving _ bottomed _ _ =>
    obtain ⟨inner, same, _⟩ := bottomed
    simp at same
  | closed dispatched accepts complete =>
    rw [trace, complete rfl, List.append_nil] at accepts
    rw [trace] at dispatched
    simp only [dispatches, accepted, List.filterMap_append, List.append_cancel_left_eq]
      at dispatched accepts
    rw [dispatches, accepted, dispatched, accepts]

theorem draining {role : Role} {duty : Duty P role} {token : Token} {program : Program D P σ role}
    (line : moment.InLine session) (running : moment.control = .callback duty token program) :
    moment.session.machine.draining = true := by
  cases line with
  | fresh => cases running
  | serving draining => exact draining
  | closed => cases running

end Moment.InLine

theorem Call.moment_inLine {session : Session D P σ} (call : Call P)
    (quiescent : session.machine.Quiescent) (queued : session.machine.policy.dispatch = .queued) :
    (call.moment session).InLine session := by
  obtain ⟨_, pending, draining⟩ := quiescent
  rcases call.moment_cases session with
    ⟨_, same⟩ | ⟨_, _, _, _, _, same⟩ | ⟨_, closed, same⟩ | ⟨_, _, _, same⟩ <;> rw [same]
  · exact .closed (List.append_nil _).symm (List.append_nil _).symm (by simp)
  · exact .fresh draining pending rfl rfl
  · rcases closed with nested | opened
    · cases nested.symm.trans queued
    · cases opened.symm.trans draining
  · refine .serving rfl .queue (List.append_nil _).symm ?_
    simp [Control.taken, pending]

end StateMachine
