import StateMachine.Proofs.Refusal
import StateMachine.Proofs.Steps

namespace StateMachine

variable {D P σ : Type}

namespace Machine

/-- What an event does to a machine. -/
def follow (machine : Machine D P σ) : Event D P → Machine D P σ
  | .accepted submission => { machine with pending := machine.pending ++ [submission] }
  | .taken => { machine with pending := machine.pending.tail }
  | .dropped _ => { machine with pending := [] }
  | .applied transition => { machine with
      current := transition.target
      journal := if machine.policy.recordHistory then machine.journal.record transition
        else machine.journal
      depth := machine.depth + 1 }
  | .settled _ _ => { machine with depth := machine.depth - 1 }
  | .wrote update => { machine with data := update machine.data }
  | _ => machine

/-- Whether an event can happen to a machine. -/
def Admits (machine : Machine D P σ) : Event D P → Prop
  | .deferred _ waiting => waiting = machine.pending.length
  | .taken => machine.pending ≠ []
  | .dropped count => count = machine.pending.length ∧ count ≠ 0
  | .dispatched _ depth => depth = machine.depth
  | .applied transition => transition.source = machine.current ∧ transition.depth = machine.depth ∧
      machine.table.resolve? machine.current transition.event = some transition.target
  | .actionBegan event _ state => state = machine.current ∧ (machine.callbacks.action? event).isSome
  | .entryBegan state snapshot => state = machine.current ∧ snapshot = machine.data ∧
      (machine.callbacks.entry? state).isSome
  | _ => True

/-- Events that can happen to a machine one after the other. -/
def Accounts (machine : Machine D P σ) : List (Event D P) → Prop
  | [] => True
  | event :: events => machine.Admits event ∧ (machine.follow event).Accounts events

private theorem accounts_append (machine : Machine D P σ) (first second : List (Event D P)) :
    machine.Accounts (first ++ second) ↔
      machine.Accounts first ∧ (first.foldl follow machine).Accounts second := by
  induction first generalizing machine with
  | nil => simp [Accounts]
  | cons event first ih => simp [Accounts, ih, and_assoc]

/-- Whether a queue is being drained is not told by the trace. -/
def drainingAs (machine : Machine D P σ) (draining : Bool) : Machine D P σ := { machine with draining }

private theorem follow_drainingAs (machine : Machine D P σ) (draining : Bool) (event : Event D P) :
    (machine.drainingAs draining).follow event = (machine.follow event).drainingAs draining := by
  cases event <;> rfl

private theorem foldl_drainingAs (machine : Machine D P σ) (draining : Bool) (events : List (Event D P)) :
    events.foldl follow (machine.drainingAs draining) =
      (events.foldl follow machine).drainingAs draining := by
  induction events generalizing machine with
  | nil => rfl
  | cons event events ih => rw [List.foldl_cons, follow_drainingAs, ih, List.foldl_cons]

private theorem accounts_drainingAs (machine : Machine D P σ) (draining : Bool)
    (events : List (Event D P)) :
    (machine.drainingAs draining).Accounts events ↔ machine.Accounts events := by
  induction events generalizing machine with
  | nil => rfl
  | cons event events ih =>
    have admits : (machine.drainingAs draining).Admits event ↔ machine.Admits event := by
      cases event <;> rfl
    rw [Accounts, Accounts, follow_drainingAs, ih, admits]

end Machine

/-- One session comes from another one by events that its trace goes on with. -/
structure Session.Follows (before : Session D P σ) (events : List (Event D P)) (after : Session D P σ) :
    Prop where
  trace : after.world.trace = before.world.trace ++ events
  accounts : before.machine.Accounts events
  machine : after.machine = (events.foldl Machine.follow before.machine).drainingAs after.machine.draining

theorem Session.Follows.trans {first second third : Session D P σ} {events more : List (Event D P)}
    (begins : first.Follows events second) (goes : second.Follows more third) :
    first.Follows (events ++ more) third := by
  refine ⟨?_, ?_, ?_⟩
  · rw [goes.trace, begins.trace, List.append_assoc]
  · refine (Machine.accounts_append _ _ _).mpr ⟨begins.accounts, ?_⟩
    have accounts := goes.accounts
    rw [begins.machine, Machine.accounts_drainingAs] at accounts
    exact accounts
  · rw [goes.machine, begins.machine, Machine.foldl_drainingAs, List.foldl_append]
    rfl

theorem Step.follows {before after : Moment D P σ} (step : Step before after) :
    ∃ events, before.session.Follows events after.session := by
  cases step with
  | defer queued draining =>
    exact ⟨_, Session.trace_defer _ _, by simp [Machine.Accounts, Machine.Admits, Machine.follow], rfl⟩
  | drain queued idle =>
    exact ⟨[.accepted _], rfl, by simp [Machine.Accounts, Machine.Admits], rfl⟩
  | refuse refused =>
    rename_i submission stack session failure
    exact ⟨[.dispatched submission session.machine.depth, .refused failure], by simp,
      by simp [Machine.Accounts, Machine.Admits], rfl⟩
  | apply found =>
    rename_i submission stack session target
    have resolved := (Session.target_eq_ok_iff.mp found).resolved
    exact ⟨[.dispatched submission session.machine.depth, .applied
        ⟨session.machine.current, target, submission.event, session.machine.depth, session.now⟩],
      by simp, by simp [Machine.Accounts, Machine.Admits, Machine.follow, resolved], rfl⟩
  | beginAction present =>
    exact ⟨[_], rfl, by simp [Machine.Accounts, Machine.Admits, present], rfl⟩
  | beginEntry present =>
    exact ⟨[_], rfl, by simp [Machine.Accounts, Machine.Admits, present], rfl⟩
  | take first =>
    refine ⟨[.taken], rfl, by simp [Machine.Accounts, Machine.Admits, first], ?_⟩
    simp [Machine.follow, first]
    rfl
  | close empty =>
    refine ⟨[], ?_, trivial, ?_⟩
    · simp [Session.trace_close, empty]
    · simp [empty, Machine.drainingAs]
  | abandon =>
    rename_i stack session failure
    by_cases empty : session.machine.pending = []
    · exact ⟨[], by simp [Session.trace_close, empty], trivial,
        by simp [empty, Machine.drainingAs]⟩
    · exact ⟨[.dropped session.machine.pending.length], by simp [Session.trace_close, empty],
        by simp [Machine.Accounts, Machine.Admits, empty],
        by simp [Machine.follow, Machine.drainingAs]⟩
  | endAction => exact ⟨[_], rfl, by simp [Machine.Accounts, Machine.Admits], rfl⟩
  | failAction => exact ⟨[_], rfl, by simp [Machine.Accounts, Machine.Admits], rfl⟩
  | endEntry => exact ⟨[_], rfl, by simp [Machine.Accounts, Machine.Admits], rfl⟩
  | write => exact ⟨[_], rfl, by simp [Machine.Accounts, Machine.Admits], rfl⟩
  | cancel => exact ⟨[_], rfl, by simp [Machine.Accounts, Machine.Admits], rfl⟩
  | settle => exact ⟨[_], rfl, by simp [Machine.Accounts, Machine.Admits], rfl⟩
  | nest | skipAction | skipEntry | look | share | read | misname | trigger | resume =>
    exact ⟨[], by simp, trivial, rfl⟩

theorem Steps.follows {before after : Moment D P σ} (steps : Steps before after) :
    ∃ events, before.session.Follows events after.session := by
  induction steps with
  | refl => exact ⟨[], by simp, trivial, rfl⟩
  | tail _ step ih =>
    obtain ⟨events, begins⟩ := ih
    obtain ⟨more, goes⟩ := step.follows
    exact ⟨events ++ more, begins.trans goes⟩

theorem Call.moment_world (call : Call P) (session : Session D P σ) :
    (call.moment session).session.world = session.world := by
  rcases call.moment_cases session with
    ⟨_, same⟩ | ⟨_, _, _, _, _, same⟩ | ⟨_, _, same⟩ | ⟨_, _, _, same⟩ <;> rw [same]
  rfl

/-- A call begins with the machine as it is, but for the queue that it may open. -/
theorem Call.moment_machine (call : Call P) (session : Session D P σ) :
    ∃ draining, (call.moment session).session.machine = session.machine.drainingAs draining := by
  rcases call.moment_cases session with
    ⟨_, same⟩ | ⟨_, _, _, _, _, same⟩ | ⟨_, _, same⟩ | ⟨_, _, _, same⟩ <;> rw [same]
  · exact ⟨session.machine.draining, rfl⟩
  · exact ⟨session.machine.draining, rfl⟩
  · exact ⟨session.machine.draining, rfl⟩
  · exact ⟨true, rfl⟩

/-- At every moment of a call the trace goes on from where the call was made. -/
theorem Call.trace_moment {call : Call P} {session : Session D P σ} {moment : Moment D P σ}
    (reached : Steps (call.moment session) moment) :
    ∃ past, moment.session.world.trace = session.world.trace ++ past := by
  obtain ⟨events, follows⟩ := reached.follows
  exact ⟨events, by rw [follows.trace, call.moment_world]⟩

end StateMachine
