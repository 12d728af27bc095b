import Mathlib.Data.List.Chain
import StateMachine.Proofs.Depth
import StateMachine.Proofs.Line

/-!
The transitions of a journal as a walk through trees: a transition lies under the one whose callbacks
made it, and the walk visits it before all that lies under it.
-/
namespace StateMachine

variable {D P σ : Type}

/-- A walk starts at the top, and goes down by one level at most at a time. -/
structure Walk (transitions : List Transition) : Prop where
  top : ∀ first ∈ transitions.head?, first.depth = 0
  descent : transitions.IsChain fun above next => next.depth ≤ above.depth + 1

/-- The last transition of a walk and, before it, all those that it lies under, the outermost one first. -/
def lineage (transitions : List Transition) : List Transition :=
  transitions.foldl (fun line transition => line.take transition.depth ++ [transition]) []

theorem lineage_snoc (transitions : List Transition) (transition : Transition) :
    lineage (transitions ++ [transition]) =
      (lineage transitions).take transition.depth ++ [transition] := by
  simp [lineage]

namespace Walk

variable {transitions later : List Transition} {transition : Transition}

theorem nil : Walk [] := ⟨by simp, .nil⟩

theorem append (walk : Walk transitions) (goes : Walk later) : Walk (transitions ++ later) := by
  constructor
  · intro first begins
    rw [List.head?_append, Option.mem_def, Option.or_eq_some_iff] at begins
    rcases begins with begins | ⟨_, begins⟩
    · exact walk.top first begins
    · exact goes.top first begins
  · refine List.isChain_append.mpr ⟨walk.descent, goes.descent, fun last _ first begins => ?_⟩
    have top := goes.top first begins
    omega

/-- The last transition of a walk is at the end of its lineage, and deeper by one than the one before. -/
theorem length_lineage (walk : Walk transitions) :
    (lineage transitions).length = (transitions.getLast?.map (·.depth + 1)).getD 0 := by
  induction transitions using List.reverseRecOn with
  | nil => rfl
  | append_singleton transitions transition ih =>
    obtain ⟨top, descent⟩ := walk
    obtain ⟨descent, _, joint⟩ := List.isChain_append.mp descent
    have length := ih ⟨fun first begins => top first (by simp [Option.mem_def.mp begins]), descent⟩
    have bounded : transition.depth ≤ (lineage transitions).length := by
      cases final : transitions.getLast? with
      | none =>
        have empty := List.getLast?_eq_none_iff.mp final
        subst empty
        have first := top transition (by simp)
        omega
      | some last =>
        have below := joint last final transition (by simp)
        simp only [length, final, Option.map_some, Option.getD_some]
        exact below
    simp [lineage_snoc, Nat.min_eq_left bounded]

/-- A walk goes on anywhere under its last transition, or under one of those that this one lies under. -/
theorem snoc (walk : Walk transitions) (bounded : transition.depth ≤ (lineage transitions).length) :
    Walk (transitions ++ [transition]) := by
  rw [walk.length_lineage] at bounded
  cases final : transitions.getLast? with
  | none =>
    have empty := List.getLast?_eq_none_iff.mp final
    subst empty
    simp at bounded
    exact ⟨by simp [bounded], by simp⟩
  | some last =>
    simp only [final, Option.map_some, Option.getD_some] at bounded
    constructor
    · intro first begins
      refine walk.top first ?_
      have some_first : transitions ≠ [] := by
        intro empty
        simp [empty] at final
      simpa [List.head?_append_of_ne_nil _ some_first] using begins
    · refine List.isChain_append.mpr ⟨walk.descent, by simp, fun above is_last next is_next => ?_⟩
      cases final.symm.trans is_last
      cases is_next
      exact bounded

end Walk

/-- The event of a dispatch that waits for its callbacks in a frame. -/
def Frame.settling? : Frame D P σ → Option EventId
  | .settling event => some event
  | _ => none

/-- The events of the dispatches whose callbacks are under way, the outermost one first. -/
def Moment.underway (moment : Moment D P σ) : List EventId :=
  moment.stack.reverse.filterMap Frame.settling?

theorem Moment.length_underway (moment : Moment D P σ) : moment.underway.length = moment.running := by
  obtain ⟨control, stack, session⟩ := moment
  induction stack with
  | nil => rfl
  | cons frame stack ih =>
    cases frame <;>
      simpa [underway, running, List.filterMap_cons, Frame.settling?, Frame.isSettling,
        List.countP_cons] using ih

/-- The state that the machine has just been moved into, before any callback begins. -/
def Moment.arrival? (moment : Moment D P σ) : Option StateId :=
  match moment.control with
  | .act _ => some moment.session.machine.current
  | _ => none

/-- A step leaves the journal as it is and begins no dispatch, or it applies a transition, which it
records at the depth of the machine. -/
theorem Step.moves {before after : Moment D P σ} (step : Step before after) :
    (after.arrival? = none ∧ after.session.machine.journal = before.session.machine.journal ∧
      after.underway <+: before.underway) ∨
    ∃ submission transition, before.control = .dispatch submission ∧
      after.arrival? = some transition.target ∧ transition.depth = before.session.machine.depth ∧
      (before.session.machine.policy.recordHistory = true →
        after.session.machine.journal = before.session.machine.journal.record transition) ∧
      after.underway = before.underway ++ [transition.event] := by
  cases step with
  | apply found =>
    rename_i submission stack session target
    refine .inr ⟨submission, ⟨session.machine.current, target, submission.event,
      session.machine.depth, session.now⟩, rfl, rfl, rfl, fun kept => ?_, ?_⟩
    · simp only at kept
      simp [kept]
    · simp [Moment.underway, Frame.settling?]
  | settle => exact .inl ⟨rfl, rfl, by simp [Moment.underway]⟩
  | _ => exact .inl ⟨rfl, by simp, by simp [Moment.underway, List.filterMap_cons, Frame.settling?]⟩

/-- In queued mode nothing is dispatched under another dispatch. -/
theorem Call.dispatches_flat {call : Call P} {session : Session D P σ} {moment : Moment D P σ}
    {submission : Submission P} (queued : session.machine.policy.dispatch = .queued)
    (quiescent : session.machine.Quiescent) (reached : Steps (call.moment session) moment)
    (dispatching : moment.control = .dispatch submission) : moment.running = 0 := by
  have mode : (call.moment session).session.machine.policy.dispatch = .queued := by
    rw [(call.moment_setup session).policy]
    exact queued
  rcases reached.cases_tail with same | ⟨before, steps, step⟩
  · subst same
    rcases call.moment_cases session with
      ⟨_, same⟩ | ⟨_, _, _, _, _, same⟩ | ⟨_, _, same⟩ | ⟨_, _, _, same⟩ <;>
      simp [same] at dispatching
  · have line := Steps.inLine steps mode (call.moment_inLine quiescent queued)
    cases step with
    | nest nested =>
      have same := (Steps.setup steps).policy
      simp only at same
      rw [same, mode] at nested
      cases nested
    | take first =>
      cases line with
      | serving _ bottomed _ _ =>
        simp [Moment.running, bottomed.last, Frame.isSettling]
    | _ => cases dispatching

end StateMachine
