import StateMachine.Proofs.Line
import StateMachine.Proofs.Mutation
import StateMachine.Proofs.Reachable

/-!
Entries see the data as they were when they began. They change nothing about a machine themselves, and
while a queue is drained their triggers only wait in it.
-/
namespace StateMachine

variable {D P σ : Type}

/-- What may be left of the program of an entry, whatever it has learnt on the way. All that it was given
of the data is in the program that it began with. -/
inductive Program.Leaves (program : Program D P σ .entry) : Program D P σ .entry → Prop where
  | all : Leaves program program
  | look (leaves : Leaves program (.look next)) (view : View) : Leaves program (next view)
  | share (leaves : Leaves program (.share update next)) (shared : σ) : Leaves program (next shared)
  | cancel (leaves : Leaves program (.cancel flagged next)) : Leaves program next
  | trigger (leaves : Leaves program (.trigger key payload next)) (outcome : Except Failure Unit) :
      Leaves program (next outcome)

/-- An entry that began at an earlier moment is not at its end yet. It was given the data of that moment,
and a part of its program is left, whatever has become of the data since. -/
inductive Moment.Enters (first moment : Moment D P σ) (state : StateId) (below : List (Frame D P σ))
    (program : Program D P σ .entry) : Prop where
  | since {arrival : Session D P σ} {entry : Entry D P σ}
      (arrived : Steps first ⟨.enter token, below, arrival⟩)
      (here : arrival.machine.current = state)
      (present : arrival.machine.callbacks.entry? state = some entry)
      (onward : Steps ⟨.enter token, below, arrival⟩ moment)
      (leaves : (entry arrival.machine.data).Leaves program)

namespace Moment.Enters

variable {first before after : Moment D P σ} {state : StateId} {below : List (Frame D P σ)}
  {program : Program D P σ .entry}

theorem tail (enters : first.Enters before state below program) (step : Step before after) :
    first.Enters after state below program := by
  obtain ⟨arrived, here, present, onward, leaves⟩ := enters
  exact ⟨arrived, here, present, onward.tail step, leaves⟩

private theorem goOn {rest : Program D P σ .entry} (enters : first.Enters before state below program)
    (step : Step before after)
    (less : ∀ whole : Program D P σ .entry, whole.Leaves program → whole.Leaves rest) :
    first.Enters after state below rest := by
  obtain ⟨arrived, here, present, onward, leaves⟩ := enters
  exact ⟨arrived, here, present, onward.tail step, less _ leaves⟩

end Moment.Enters

/-- Every entry that is under way, or waits for a trigger of its own, goes on from the data it was given. -/
structure Moment.Snapshots (first moment : Moment D P σ) : Prop where
  running : ∀ {state token program}, moment.control = .callback (.enter state) token program →
    first.Enters moment state moment.stack program
  waiting : ∀ {state token next below}, .waiting (.enter state) token next :: below <:+ moment.stack →
    ∃ key payload, first.Enters moment state below (.trigger key payload next)

private theorem Step.snapshots {first before after : Moment D P σ} (steps : Steps first before)
    (step : Step before after) (snapshots : first.Snapshots before) : first.Snapshots after := by
  obtain ⟨running, waiting⟩ := snapshots
  -- What waited before the step and still waits does so for the same trigger.
  have still {state token next below}
      (waits : .waiting (.enter state) token next :: below <:+ before.stack) :
      ∃ key payload, first.Enters after state below (.trigger key payload next) := by
    obtain ⟨key, payload, enters⟩ := waiting waits
    exact ⟨key, payload, enters.tail step⟩
  cases step with
  | beginEntry present =>
    refine ⟨fun begins => ?_, still⟩
    cases begins
    exact ⟨steps, rfl, present, .single (.beginEntry present), .all⟩
  | look =>
    refine ⟨fun goes => ?_, still⟩
    cases goes
    exact (running rfl).goOn .look fun _ leaves => leaves.look _
  | share =>
    refine ⟨fun goes => ?_, still⟩
    cases goes
    exact (running rfl).goOn .share fun _ leaves => leaves.share _
  | cancel =>
    refine ⟨fun goes => ?_, still⟩
    cases goes
    exact (running rfl).goOn .cancel fun _ leaves => leaves.cancel
  | misname unknown =>
    refine ⟨fun goes => ?_, still⟩
    cases goes
    exact (running rfl).goOn (.misname unknown) fun _ leaves => leaves.trigger _
  | trigger known =>
    refine ⟨nofun, fun waits => ?_⟩
    rcases List.suffix_cons_iff.mp waits with newest | older
    · cases newest
      exact ⟨_, _, (running rfl).tail (.trigger known)⟩
    · exact still older
  | resume =>
    refine ⟨fun goes => ?_, fun waits => still (waits.trans (List.suffix_cons ..))⟩
    cases goes
    obtain ⟨key, payload, enters⟩ := waiting (List.suffix_refl _)
    exact enters.goOn .resume fun _ leaves => leaves.trigger _
  | drain queued idle =>
    refine ⟨nofun, fun waits => ?_⟩
    rcases List.suffix_cons_iff.mp waits with newest | older
    · cases newest
    · exact still older
  | apply found =>
    refine ⟨nofun, fun waits => ?_⟩
    rcases List.suffix_cons_iff.mp waits with newest | older
    · cases newest
    · exact still older
  | settle | close | abandon => exact ⟨nofun, fun waits => still (waits.trans (List.suffix_cons ..))⟩
  | _ => exact ⟨nofun, still⟩

private theorem Call.moment_snapshots (call : Call P) (session : Session D P σ) :
    (call.moment session).Snapshots (call.moment session) := by
  rcases call.moment_cases session with
    ⟨_, same⟩ | ⟨_, _, _, _, _, same⟩ | ⟨_, _, same⟩ | ⟨_, _, _, same⟩ <;> rw [same]
  · exact ⟨nofun, by simp⟩
  · exact ⟨nofun, by simp⟩
  · exact ⟨nofun, by simp⟩
  · exact ⟨nofun, by simp [List.suffix_cons_iff]⟩

/-- At every moment of a call the snapshots of its entries are what they were in the beginning. -/
theorem Steps.snapshots {call : Call P} {session : Session D P σ} {moment : Moment D P σ}
    (reached : Steps (call.moment session) moment) : (call.moment session).Snapshots moment := by
  induction reached with
  | refl => exact call.moment_snapshots session
  | tail steps step ih => exact step.snapshots steps ih

/-- The token whose flag is raised by an event. -/
def Event.raised? : Event D P → Option Token
  | .raised token => some token
  | _ => none

/-- Submissions have joined the queue of a machine and flags of tokens have been raised, as the events tell,
and nothing else about the machine or the flags has changed. -/
structure Session.Defers (before : Session D P σ) (events : List (Event D P)) (after : Session D P σ) :
    Prop where
  trace : after.world.trace = before.world.trace ++ events
  machine : after.machine = { before.machine with pending := before.machine.pending ++ accepted events }
  flags : after.world.flags = (events.filterMap Event.raised?).foldl Flags.cancel before.world.flags

namespace Session.Defers

variable {first second third : Session D P σ} {events more : List (Event D P)}

theorem still (trace : second.world.trace = first.world.trace) (machine : second.machine = first.machine)
    (flags : second.world.flags = first.world.flags) : first.Defers [] second :=
  ⟨by simp [trace], by simp [accepted, machine], flags⟩

theorem trans (begins : first.Defers events second) (goes : second.Defers more third) :
    first.Defers (events ++ more) third := by
  refine ⟨?_, ?_, ?_⟩
  · rw [goes.trace, begins.trace, List.append_assoc]
  · rw [goes.machine, begins.machine]
    simp [accepted]
  · rw [goes.flags, begins.flags, List.filterMap_append, List.foldl_append]

theorem defer (session : Session D P σ) (submission : Submission P) :
    session.Defers [.accepted submission, .deferred submission.event (session.machine.pending.length + 1)]
      (session.defer submission) :=
  ⟨session.trace_defer submission, rfl, rfl⟩

theorem cancel (session : Session D P σ) (token : Token) :
    session.Defers [.raised token] (session.cancel token) :=
  ⟨rfl, by simp [accepted, List.filterMap_cons, Event.acceptance?], rfl⟩

end Session.Defers

/-- While a queue is drained, an entry comes to its end and does nothing to the machine on the way, but
that its triggers join the queue. -/
theorem Program.defers {role : Role} (program : Program D P σ role) (duty : Duty P role)
    (entry : role = .entry) (session : Session D P σ) (token : Token) (stack : List (Frame D P σ))
    (queued : session.machine.policy.dispatch = .queued) (draining : session.machine.draining = true) :
    ∃ result events after,
      Steps ⟨.callback duty token program, stack, session⟩
        ⟨.callback duty token (.done result), stack, after⟩ ∧ session.Defers events after := by
  induction program generalizing session with
  | done result => exact ⟨result, [], session, .refl, .still rfl rfl rfl⟩
  | look next ih =>
    obtain ⟨result, events, after, steps, defers⟩ :=
      ih (session.view token) duty entry session.tick queued draining
    have looks : session.Defers [] session.tick := .still rfl rfl rfl
    exact ⟨result, _, after, .head .look steps, looks.trans defers⟩
  | share update next ih =>
    obtain ⟨result, events, after, steps, defers⟩ :=
      ih (update session.world.shared) duty entry (session.share update) queued draining
    have shares : session.Defers [] (session.share update) := .still rfl rfl rfl
    exact ⟨result, _, after, .head .share steps, shares.trans defers⟩
  | read | write => cases entry
  | cancel flagged next ih =>
    obtain ⟨result, events, after, steps, defers⟩ :=
      ih duty entry (session.cancel flagged) queued draining
    exact ⟨result, _, after, .head .cancel steps, (Session.Defers.cancel session _).trans defers⟩
  | trigger key payload next ih =>
    cases known : session.machine.table.findEvent key with
    | error failure =>
      obtain ⟨result, events, after, steps, defers⟩ := ih (.error failure) duty entry session queued draining
      exact ⟨result, events, after, .head (.misname known) steps, defers⟩
    | ok event =>
      obtain ⟨result, events, after, steps, defers⟩ :=
        ih (.ok ()) duty entry (session.defer ⟨event, payload, token⟩) queued draining
      exact ⟨result, _, after,
        .head (.trigger known) (.head (.defer queued draining) (.head .resume steps)),
        (Session.Defers.defer session _).trans defers⟩

end StateMachine
