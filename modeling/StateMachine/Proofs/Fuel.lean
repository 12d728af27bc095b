import StateMachine.Proofs.Moment
import StateMachine.Proofs.Dispatch

namespace StateMachine

variable {D P σ : Type}

/-- The second run ends in the same way wherever the first one ends. -/
def Run.Extends {result : Type} (first second : Run D P σ result) : Prop :=
  ∀ session answer, first session = some answer → second session = some answer

theorem Run.andThen_extends {first second next later : Run D P σ (Except Failure Unit)}
    (begins : first.Extends second) (goes : next.Extends later) :
    (first.andThen next).Extends (second.andThen later) := by
  rintro session ⟨outcome, after⟩ ran
  rcases andThen_eq_some_iff.mp ran with ⟨reached, done, ran⟩ | ⟨failure, same, ran⟩
  · exact andThen_eq_some_iff.mpr (.inl ⟨reached, begins _ _ done, goes _ _ ran⟩)
  · exact andThen_eq_some_iff.mpr (.inr ⟨failure, same, begins _ _ ran⟩)

section Handlers

variable {lesser greater : Submission P → Run D P σ (Except Failure Unit)}
variable (extends_ : ∀ submission, (lesser submission).Extends (greater submission))
include extends_

theorem Program.run_extends {role : Role} (program : Program D P σ role) (token : Token) :
    Run.Extends (program.run lesser token) (program.run greater token) := by
  induction program with
  | done result => exact fun _ _ ran => ran
  | look next ih => exact fun session => ih _ session.tick
  | share update next ih => exact fun session => ih _ (session.share update)
  | read next ih => exact fun session => ih _ session
  | write update next ih => exact fun session => ih (session.write update)
  | cancel flagged next ih => exact fun session => ih (session.cancel flagged)
  | trigger key payload next ih =>
    intro session answer ran
    simp only [Program.run] at ran ⊢
    split at ran
    · exact ih _ session answer ran
    · split at ran
      · cases ran
      · rename_i outcome reached submitted
        rw [extends_ _ _ _ submitted]
        exact ih _ reached answer ran

namespace Session

theorem enter_extends (token : Token) :
    Run.Extends (enter lesser token) (enter greater token) := by
  intro session answer ran
  simp only [enter] at ran ⊢
  split at ran
  · exact ran
  · split at ran
    · cases ran
    · rename_i done
      rw [Program.run_extends extends_ _ _ _ _ done]
      exact ran

private theorem act_extends (submission : Submission P) :
    Run.Extends (act lesser submission) (act greater submission) := by
  intro session answer ran
  simp only [act] at ran ⊢
  split at ran
  · exact ran
  · split at ran
    · cases ran
    · rename_i done
      rw [Program.run_extends extends_ _ _ _ _ done]
      exact ran

theorem runCallbacks_extends (submission : Submission P) :
    Run.Extends (runCallbacks lesser submission) (runCallbacks greater submission) := by
  rw [runCallbacks_eq, runCallbacks_eq]
  exact Run.andThen_extends (act_extends extends_ submission) (enter_extends extends_ _)

theorem dispatch_extends (submission : Submission P) :
    Run.Extends (dispatch lesser submission) (dispatch greater submission) := by
  intro session answer ran
  simp only [dispatch] at ran ⊢
  split at ran
  · exact ran
  · split at ran
    · cases ran
    · rename_i done
      rw [runCallbacks_extends extends_ _ _ _ done]
      exact ran

theorem drain_extends {fuel more : Nat} (enough : fuel ≤ more) :
    Run.Extends (drain lesser fuel) (drain greater more) := by
  induction fuel using Nat.strongRecOn generalizing more with
  | ind fuel ih =>
    rintro session ⟨outcome, after⟩ drained
    rcases drain_cases drained with ⟨empty, rfl, rfl⟩ | ⟨submission, rest, less, first, rfl, ran⟩
    · exact drain_empty empty
    · obtain ⟨more, rfl⟩ := Nat.exists_eq_add_of_lt enough
      rw [drain_first first]
      exact Run.andThen_extends (dispatch_extends extends_ submission)
        (ih less (Nat.lt_succ_self less) (Nat.le_add_right less more)) _ _ ran

private theorem runQueued_extends {fuel more : Nat} (enough : fuel ≤ more)
    {first second : Run D P σ (Except Failure Unit)} (begins : first.Extends second) :
    Run.Extends (runQueued lesser fuel first) (runQueued greater more second) := by
  rintro session ⟨outcome, after⟩ ran
  obtain ⟨drained, ran, closed⟩ := runQueued_eq_some_iff.mp ran
  exact runQueued_eq_some_iff.mpr
    ⟨drained, Run.andThen_extends begins (drain_extends extends_ enough) _ _ ran, closed⟩

end Session

end Handlers

namespace Session

theorem submit_extends {fuel more : Nat} (enough : fuel ≤ more) (submission : Submission P) :
    Run.Extends (submit fuel submission) (submit more submission : Run D P σ _) := by
  induction fuel using Nat.strongRecOn generalizing more submission with
  | ind fuel ih =>
    rintro session ⟨outcome, after⟩ submitted
    rcases submit_cases submitted with ⟨queued, draining, rfl, rfl⟩ | ⟨less, rfl, ran⟩
    · exact submit_deferred queued draining
    obtain ⟨more, rfl⟩ := Nat.exists_eq_add_of_lt enough
    have handled (submission : Submission P) :
        Run.Extends (submit less submission) (submit (less + more) submission : Run D P σ _) :=
      ih less (Nat.lt_succ_self less) (Nat.le_add_right less more) submission
    rcases ran with ⟨nested, dispatched⟩ | ⟨queued, idle, ran⟩
    · rw [submit_nested nested]
      exact dispatch_extends handled submission _ _ dispatched
    · rw [submit_queued queued idle]
      exact runQueued_extends handled (Nat.le_add_right less more) (fun _ _ done => done) _ _ ran

private theorem start_extends {fuel more : Nat} (enough : fuel ≤ more) (token : Token) :
    Run.Extends (start fuel token) (start more token : Run D P σ _) := by
  intro session answer ran
  have handled (submission : Submission P) :
      Run.Extends (submit fuel submission) (submit more submission : Run D P σ _) :=
    submit_extends enough submission
  simp only [start] at ran ⊢
  split at ran
  · exact runQueued_extends handled enough (enter_extends handled token) _ _ ran
  · exact enter_extends handled token _ _ ran

end Session

theorem Call.run_extends {fuel more : Nat} (enough : fuel ≤ more) (call : Call P) :
    Run.Extends (call.run fuel) (call.run more : Run D P σ _) := by
  intro session answer ran
  cases call with
  | trigger key payload token =>
    simp only [Call.run, Session.trigger] at ran ⊢
    split at ran
    · exact ran
    · exact Session.submit_extends enough _ _ _ ran
  | start token => exact Session.start_extends enough token _ _ ran

/-- The outcome and the session a call returns with are determined by where it was made. -/
theorem Call.Returns.unique {call : Call P} {session first second : Session D P σ}
    {outcome other : Except Failure Unit} (returned : call.Returns session outcome first)
    (again : call.Returns session other second) : outcome = other ∧ first = second := by
  obtain ⟨fuel, ran⟩ := returned
  obtain ⟨more, again⟩ := again
  have one := call.run_extends (Nat.le_max_left fuel more) _ _ ran
  have two := call.run_extends (Nat.le_max_right fuel more) _ _ again
  cases one.symm.trans two
  exact ⟨rfl, rfl⟩

end StateMachine
