import StateMachine.Proofs.Quiescence

namespace StateMachine

variable {D P σ : Type}

/-- What a program is about to do to the data. -/
def Program.mutation? : {role : Role} → Program D P σ role → Option (D → D)
  | _, .write update _ => some update
  | _, _ => none

/-- What the callback that is under way is about to do to the data. -/
def Control.mutation? : Control D P σ → Option (D → D)
  | .callback _ _ program => program.mutation?
  | _ => none

/-- Only actions change the data. -/
theorem Control.mutation?_eq_some_iff {control : Control D P σ} {update : D → D} :
    control.mutation? = some update ↔
      ∃ submission token next, control = .callback (.act submission) token (.write update next) := by
  constructor
  · intro changes
    cases control with
    | callback duty token program =>
      cases program with
      | write own next =>
        cases changes
        cases duty with
        | act submission => exact ⟨submission, token, next, rfl⟩
      | _ => simp [mutation?, Program.mutation?] at changes
    | _ => simp [mutation?] at changes
  · rintro ⟨_, _, _, rfl⟩
    rfl

/-- The data after changes that were made in this order. -/
def mutated (data : D) (updates : List (D → D)) : D := updates.foldl (fun data update => update data) data

theorem mutated_append (data : D) (first later : List (D → D)) :
    mutated data (first ++ later) = mutated (mutated data first) later :=
  List.foldl_append

/-- Nothing but an action that writes changes the data. -/
theorem Step.data {before after : Moment D P σ} (step : Step before after) :
    after.session.machine.data = mutated before.session.machine.data before.control.mutation?.toList := by
  cases step with
  | write => rfl
  | _ => simp [Control.mutation?, Program.mutation?, mutated]

/-- Steps from one moment to another one, and what actions did to the data on the way. -/
inductive Moment.Executes (first : Moment D P σ) : List (D → D) → Moment D P σ → Prop where
  | stay : Executes first [] first
  | go (executes : Executes first updates before) (step : Step before after) :
      Executes first (updates ++ before.control.mutation?.toList) after

theorem Steps.executes {first moment : Moment D P σ} (steps : Steps first moment) :
    ∃ updates, first.Executes updates moment := by
  induction steps with
  | refl => exact ⟨[], .stay⟩
  | tail _ step ih =>
    obtain ⟨updates, executes⟩ := ih
    exact ⟨_, executes.go step⟩

theorem Moment.Executes.data {first moment : Moment D P σ} {updates : List (D → D)}
    (executes : first.Executes updates moment) :
    moment.session.machine.data = mutated first.session.machine.data updates := by
  induction executes with
  | stay => rfl
  | go _ step ih => rw [step.data, ih, mutated_append]

/-- A session that comes from another one by calls, and what the actions of these calls did to the data.
Apart from calls, only callbacks are changed from outside, and the rest of the world. -/
inductive Session.Amends (first : Session D P σ) : List (D → D) → Session D P σ → Prop where
  | begin : Amends first [] first
  | call {call : Call P} (amends : Amends first updates session)
      (executes : (call.moment session).Executes more ⟨.outcome outcome, [], after⟩) :
      Amends first (updates ++ more) after
  | apart (amends : Amends first updates session)
      (callbacks : Callbacks (Action D P σ) (Entry D P σ)) (world : World D P σ) :
      Amends first updates ⟨{ session.machine with callbacks }, world⟩

theorem Session.Operations.amends {first session : Session D P σ} (operations : first.Operations session) :
    ∃ updates, first.Amends updates session := by
  induction operations with
  | refl => exact ⟨[], .begin⟩
  | tail _ operation ih =>
    rename_i session after _
    obtain ⟨updates, amends⟩ := ih
    rcases operation.call_or_apart with ⟨_, _, returned⟩ | ⟨callbacks, world, rfl⟩
    · obtain ⟨more, executes⟩ := Steps.executes returned.steps
      exact ⟨updates ++ more, amends.call executes⟩
    · exact ⟨updates, amends.apart callbacks world⟩

theorem Call.moment_data (call : Call P) (session : Session D P σ) :
    (call.moment session).session.machine.data = session.machine.data := by
  rcases call.moment_cases session with
    ⟨_, same⟩ | ⟨_, _, _, _, _, same⟩ | ⟨_, _, same⟩ | ⟨_, _, _, same⟩ <;> rw [same]
  rfl

theorem Session.Amends.data {first session : Session D P σ} {updates : List (D → D)}
    (amends : first.Amends updates session) :
    session.machine.data = mutated first.machine.data updates := by
  induction amends with
  | begin => rfl
  | call _ executes ih =>
    have own := executes.data
    rw [Call.moment_data, ih] at own
    rw [mutated_append]
    exact own
  | apart _ callbacks world ih => exact ih

/-- Whether a callback is under way and goes on, or comes to its end, without a trigger. -/
def Moment.Alone (moment : Moment D P σ) : Prop :=
  ∃ (role : Role) (duty : Duty P role) (token : Token) (program : Program D P σ role),
    moment.control = .callback duty token program ∧
      ∀ key payload next, program ≠ .trigger key payload next

/-- Steps in which a callback is under way and issues no trigger. -/
abbrev AloneSteps : Moment D P σ → Moment D P σ → Prop :=
  Relation.ReflTransGen fun before after => before.Alone ∧ Step before after

theorem Step.alone {before after : Moment D P σ} (step : Step before after) (alone : before.Alone) :
    after.session.machine = { before.session.machine with data := after.session.machine.data } := by
  obtain ⟨role, duty, token, program, under_way, silent⟩ := alone
  cases step with
  | endAction | failAction | endEntry | look | share | read | write | cancel => rfl
  | misname unknown | trigger known =>
    cases under_way
    exact absurd rfl (silent _ _ _)
  | _ => cases under_way

/-- Without a trigger a callback changes nothing about the machine but its data. -/
theorem AloneSteps.machine {before after : Moment D P σ} (steps : AloneSteps before after) :
    after.session.machine = { before.session.machine with data := after.session.machine.data } := by
  induction steps with
  | refl => rfl
  | tail _ step ih =>
    have own := step.2.alone step.1
    rw [own, ih]

end StateMachine
