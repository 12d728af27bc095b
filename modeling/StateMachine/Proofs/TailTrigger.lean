import Mathlib.Data.List.Forall2
import StateMachine.Proofs.Fuel
import StateMachine.Proofs.Mirror
import StateMachine.Proofs.Quiescence
import StateMachine.Proofs.Sample

/-!
Nested mode against queued mode. If actions issue no trigger, and entries at most one, as the last thing
they do, then it makes no difference to them whether it runs at once or waits in the queue.
-/
namespace StateMachine

variable {D P σ : Type}

section Simulation

variable {clock other : Nat → Instant} {fuel : Nat} {first second after : Session D P σ}

/-- How a session that mirrors another one fares with a program that the other one ran to its end: in the
same way, or the trigger at the end of the program now waits in the queue. -/
inductive Program.Mirrored (clock other : Nat → Instant) (fuel : Nat) {role : Role}
    (program : Program D P σ role) (token : Token) (second : Session D P σ)
    (result : Except Cause Unit) (after : Session D P σ) : Prop where
  | whole (ran : ∀ more, program.run (Session.submit more) token second = some (result, reached))
      (mirrors : after.Mirrors clock other true [] reached)
  | parted (entry : role = .entry)
      (ran : ∀ more, program.run (Session.submit more) token second = some (.ok (), waiting))
      (mirrors : Session.Mirrors clock other true [submission] reached waiting)
      (steady : submission.token.Steady clock other)
      (submitted : Session.submit fuel submission reached = some (outcome, after))
      (returned : result = outcome.mapError .failure)

private theorem Program.Mirrored.after_step {role : Role} {program next : Program D P σ role}
    {token : Token} {second onward after : Session D P σ} {result : Except Cause Unit}
    (mirrored : next.Mirrored clock other fuel token onward result after)
    (steps : ∀ more, program.run (Session.submit more) token second =
      next.run (Session.submit more) token onward) :
    program.Mirrored clock other fuel token second result after := by
  cases mirrored with
  | whole ran mirrors => exact .whole (fun more => (steps more).trans (ran more)) mirrors
  | parted entry ran mirrors steady submitted returned =>
    exact .parted entry (fun more => (steps more).trans (ran more)) mirrors steady submitted returned

private theorem Program.Tail.mirrored {role : Role} {program : Program D P σ role} (tail : program.Tail)
    {token : Token} (steady : token.Steady clock other) {result : Except Cause Unit}
    (mirrors : first.Mirrors clock other true [] second)
    (ran : program.run (Session.submit fuel) token first = some (result, after)) :
    program.Mirrored clock other fuel token second result after := by
  induction tail generalizing first second with
  | done =>
    cases ran
    exact .whole (fun _ => rfl) mirrors
  | look blind tail ih =>
    simp only [Program.run, blind _ _ (mirrors.view_alike steady)] at ran
    exact (ih _ mirrors.tick ran).after_step fun _ => rfl
  | share tail ih =>
    rename_i update role next
    have mirrors := mirrors.share update
    simp only [Program.run, mirrors.shared] at ran
    exact (ih _ mirrors ran).after_step fun _ => rfl
  | read tail ih =>
    simp only [Program.run, mirrors.data] at ran
    exact (ih _ mirrors ran).after_step fun _ => rfl
  | write tail ih => exact (ih (mirrors.write _) ran).after_step fun _ => rfl
  | cancel tail ih => exact (ih (mirrors.cancel _) ran).after_step fun _ => rfl
  | trigger returns =>
    rename_i key payload next
    simp only [Program.run] at ran
    cases known : first.machine.table.findEvent key with
    | error failure =>
      simp only [known, returns] at ran
      cases ran
      refine .whole (fun more => ?_) mirrors
      simp only [Program.run, ← mirrors.table, known, returns]
    | ok event =>
      simp only [known] at ran
      cases submitted : Session.submit fuel ⟨event, payload, token⟩ first with
      | none => simp [submitted] at ran
      | some answer =>
        obtain ⟨outcome, reached⟩ := answer
        simp only [submitted, returns] at ran
        cases ran
        refine .parted rfl (fun more => ?_) (mirrors.defer _) steady submitted rfl
        simp only [Program.run, ← mirrors.table, known,
          Session.submit_deferred mirrors.queued mirrors.draining, returns]
        rfl

namespace Session

variable {outcome : Except Failure Unit}

theorem Mirrors.act {submission : Submission P} (steady : submission.token.Steady clock other)
    (mirrors : first.Mirrors clock other true [] second)
    (acted : act (submit fuel) submission first = some (outcome, after)) :
    ∃ reached, (∀ more, Session.act (submit more) submission second = some (outcome, reached)) ∧
      after.Mirrors clock other true [] reached := by
  simp only [Session.act] at acted
  cases present : first.machine.callbacks.action? submission.event with
  | none =>
    simp only [present] at acted
    cases acted
    refine ⟨second, fun more => ?_, mirrors⟩
    simp only [Session.act, ← mirrors.callbacks, present]
  | some action =>
    simp only [present] at acted
    split at acted
    · cases acted
    · rename_i result reached ran
      cases acted
      have began := mirrors.emit
        (.actionBegan submission.event submission.payload first.machine.current)
      have mirrored := (mirrors.tail.action _ _ present submission.payload).mirrored
        (first.machine.forwarded_steady steady) began ran
      cases mirrored with
      | parted entry => cases entry
      | whole ran alike =>
        refine ⟨_, fun more => ?_, alike.emit (.actionEnded submission.event result)⟩
        have ran := ran more
        simp only [Session.act, ← mirrors.callbacks, present, ← mirrors.current, ← mirrors.forwarded_eq, ran,
          ← mirrors.table]

/-- How a session that mirrors another one fares with an entry. -/
inductive EnterMirrored (clock other : Nat → Instant) (fuel : Nat) (token : Token)
    (second : Session D P σ) (outcome : Except Failure Unit) (after : Session D P σ) : Prop where
  | whole (entered : ∀ more, enter (submit more) token second = some (outcome, reached))
      (mirrors : after.Mirrors clock other true [] reached)
  | parted {reached waiting last : Session D P σ} {submission : Submission P}
      {inner : Except Failure Unit} {event : Event D P}
      (entered : ∀ more, enter (submit more) token second = some (.ok (), waiting))
      (mirrors : Session.Mirrors clock other true [submission] reached waiting)
      (steady : submission.token.Steady clock other)
      (submitted : submit fuel submission reached = some (inner, last))
      (same : SameRoot outcome inner)
      (ended : after = last.emit event) (quiet : event.invocation? = none)

theorem Mirrors.enter {token : Token} (steady : token.Steady clock other)
    (mirrors : first.Mirrors clock other true [] second)
    (entered : enter (submit fuel) token first = some (outcome, after)) :
    second.EnterMirrored clock other fuel token outcome after := by
  simp only [Session.enter] at entered
  cases present : first.machine.callbacks.entry? first.machine.current with
  | none =>
    simp only [present] at entered
    cases entered
    refine .whole (fun more => ?_) mirrors
    simp only [Session.enter, ← mirrors.callbacks, ← mirrors.current, present]
  | some entry =>
    simp only [present] at entered
    split at entered
    · cases entered
    · rename_i result reached done
      cases entered
      have began := mirrors.emit (.entryBegan first.machine.current first.machine.data)
      have mirrored := (mirrors.tail.entry _ _ present first.machine.data).mirrored
        (first.machine.forwarded_steady steady) began done
      cases mirrored with
      | whole ran alike =>
        refine .whole (fun more => ?_) (alike.emit (.entryEnded first.machine.current result))
        have ran := ran more
        simp only [Session.enter, ← mirrors.callbacks, ← mirrors.current, present, ← mirrors.data,
          ← mirrors.forwarded_eq, ran, ← mirrors.table]
      | parted _ ran alike steady submitted returned =>
        subst returned
        have quiet : (.entryEnded first.machine.current (.ok ()) : Event D P).invocation? = none := rfl
        refine .parted (fun more => ?_) (alike.emit_right quiet) steady submitted (.wrapped _ _) rfl rfl
        have ran := ran more
        simp only [Session.enter, ← mirrors.callbacks, ← mirrors.current, present, ← mirrors.data,
          ← mirrors.forwarded_eq, ran, mapError_ok]

/-- With enough fuel a run of the second session ends as the first session did: with an outcome of the same
root, and in a session that mirrors the one that the first session ended in. -/
def Matches (clock other : Nat → Instant) (second : Session D P σ)
    (runs : Nat → Run D P σ (Except Failure Unit)) (outcome : Except Failure Unit)
    (after : Session D P σ) : Prop :=
  ∃ more result reached, runs more second = some (result, reached) ∧ SameRoot outcome result ∧
    after.Mirrors clock other true [] reached

/-- Whatever becomes of a submission that runs at once, becomes of it by its dispatch and all that follows
from the queue. -/
def Simulated (D P σ : Type) (clock other : Nat → Instant) (fuel : Nat) : Prop :=
  ∀ (submission : Submission P) (first second after : Session D P σ) (outcome : Except Failure Unit),
    submission.token.Steady clock other → first.Mirrors clock other true [] second →
    submit fuel submission first = some (outcome, after) →
    second.Matches clock other
      (fun more => (dispatch (submit more) submission).andThen (drain (submit more) more)) outcome after

theorem Mirrors.drain (simulated : Simulated D P σ clock other fuel) {submission : Submission P}
    (steady : submission.token.Steady clock other)
    (mirrors : first.Mirrors clock other true [submission] second)
    (submitted : submit fuel submission first = some (outcome, after)) :
    second.Matches clock other (fun more => drain (submit more) more) outcome after := by
  obtain ⟨more, result, reached, ran, same, alike⟩ :=
    simulated _ _ _ _ _ steady (mirrors.dequeue []) submitted
  refine ⟨more + 1, result, reached, ?_, same, alike⟩
  have handled (submission : Submission P) :
      Run.Extends (submit more submission) (submit (more + 1) submission : Run D P σ _) :=
    submit_extends (Nat.le_succ more) submission
  refine (drain_first mirrors.pending).trans ?_
  exact Run.andThen_extends (dispatch_extends handled submission)
    (drain_extends handled (Nat.le_refl more)) _ _ ran

/-- The entry at the end of a dispatch may leave its trigger to the queue. The dispatch is then done before
that trigger is dispatched. -/
theorem Mirrors.settle_entered (simulated : Simulated D P σ clock other fuel) {submission : Submission P}
    (steady : submission.token.Steady clock other) {acted acted_too : Session D P σ}
    (mirrors : acted.Mirrors clock other true [] acted_too)
    (entered : Session.enter (submit fuel) submission.token acted = some (outcome, after))
    (dispatches : ∀ more result last,
      Session.enter (submit more) submission.token acted_too = some (result, last) →
      Session.dispatch (submit more) submission second =
        some (result, last.settle submission.event result)) :
    second.Matches clock other
      (fun more => (Session.dispatch (submit more) submission).andThen (Session.drain (submit more) more))
      outcome (after.settle submission.event outcome) := by
  cases mirrors.enter steady entered with
  | whole entered_too alike =>
    have alike := (alike.settle_left submission.event outcome).settle_right submission.event outcome
    have dispatched := dispatches 0 _ _ (entered_too 0)
    exact ⟨0, outcome, _, andThen_drain_empty dispatched alike.pending, .refl outcome, alike⟩
  | parted entered_too alike steady submitted same ended quiet =>
    have waits := alike.settle_right submission.event (.ok ())
    obtain ⟨more, result, last, drained, again, alike⟩ := waits.drain simulated steady submitted
    have dispatched := dispatches more _ _ (entered_too more)
    subst ended
    exact ⟨more, result, last, (Run.andThen_ok dispatched).trans drained, same.trans again,
      (alike.emit_left quiet).settle_left submission.event outcome⟩

theorem Mirrors.dispatch (simulated : Simulated D P σ clock other fuel) {submission : Submission P}
    (steady : submission.token.Steady clock other)
    (mirrors : first.Mirrors clock other true [] second)
    (dispatched : dispatch (submit fuel) submission first = some (outcome, after)) :
    second.Matches clock other
      (fun more => (Session.dispatch (submit more) submission).andThen (Session.drain (submit more) more))
      outcome after := by
  cases found : first.target submission with
  | error failure =>
    have refused := (mirrors.target_eq steady).symm.trans found
    rw [dispatch_refused found] at dispatched
    cases dispatched
    have alike := (mirrors.dispatched submission).emit (.refused failure)
    exact ⟨0, .error failure, _, andThen_drain_empty (dispatch_refused refused) alike.pending, .refl _, alike⟩
  | ok target =>
    have found_too := (mirrors.target_eq steady).symm.trans found
    have applied := (mirrors.dispatched submission).apply submission.event target first.now second.now
    simp only [Session.dispatch, found] at dispatched
    split at dispatched
    · cases dispatched
    · rename_i outcome reached ran
      cases dispatched
      rcases Run.andThen_eq_some_iff.mp (runCallbacks_eq ▸ ran) with
        ⟨acted, done, entered⟩ | ⟨failure, rfl, failed⟩
      · obtain ⟨acted_too, done_too, alike⟩ := applied.act steady done
        refine alike.settle_entered simulated steady entered fun more result last entered_too => ?_
        exact dispatch_applied found_too ((Run.andThen_ok (done_too more)).trans entered_too)
      · obtain ⟨acted_too, failed_too, alike⟩ := applied.act steady failed
        have ran_too : runCallbacks (submit 0) submission _ = some (.error failure, acted_too) :=
          Run.andThen_error (failed_too 0)
        have settled := (alike.settle_left submission.event (.error failure)).settle_right submission.event
          (.error failure)
        have dispatched := dispatch_applied found_too ran_too
        exact ⟨0, .error failure, _, andThen_drain_empty dispatched settled.pending, .refl _, settled⟩

private theorem simulated (clock other : Nat → Instant) (fuel : Nat) :
    Simulated D P σ clock other fuel := by
  induction fuel with
  | zero =>
    intro submission first second after outcome steady mirrors submitted
    cases (submit_spent (.inl mirrors.nested)).symm.trans submitted
  | succ fuel ih =>
    intro submission first second after outcome steady mirrors submitted
    rw [submit_nested mirrors.nested] at submitted
    exact mirrors.dispatch ih steady submitted

end Session

def Call.token : Call P → Token
  | .trigger _ _ token => token
  | .start token => token

private theorem Call.Returns.mirrored {call : Call P} {outcome : Except Failure Unit}
    (returned : call.Returns first outcome after) (steady : call.token.Steady clock other)
    (mirrors : first.Mirrors clock other false [] second) :
    ∃ result reached, call.Returns second result reached ∧ SameRoot outcome result ∧
      after.Mirrors clock other false [] reached := by
  obtain ⟨fuel, ran⟩ := returned
  have simulated : Session.Simulated D P σ clock other fuel := Session.simulated clock other fuel
  cases call with
  | trigger key payload token =>
    simp only [Call.run, Session.trigger] at ran
    cases known : first.machine.table.findEvent key with
    | error failure =>
      simp only [known] at ran
      cases ran
      refine ⟨.error failure, second, ⟨0, ?_⟩, .refl _, mirrors⟩
      simp only [Call.run, Session.trigger, ← mirrors.table, known]
    | ok event =>
      simp only [known] at ran
      have opened := (mirrors.enqueue ⟨event, payload, token⟩).setDraining true
      obtain ⟨more, result, reached, drained, same, alike⟩ := opened.drain simulated steady ran
      refine ⟨result, reached.close, ⟨more + 1, ?_⟩, same, ?_⟩
      · simp only [Call.run, Session.trigger, ← mirrors.table, known]
        rw [Session.submit_queued mirrors.queued mirrors.draining]
        exact Session.runQueued_eq_some_iff.mpr ⟨reached, (Run.andThen_ok rfl).trans drained, rfl⟩
      · rw [Session.close_empty _ alike.pending]
        exact alike.setDraining false
  | start token =>
    simp only [Call.run, Session.start, mirrors.nested] at ran
    have opened : (second.setDraining true).Matches clock other (fun more =>
        (Session.enter (Session.submit more) token).andThen (Session.drain (Session.submit more) more))
        outcome after := by
      cases (mirrors.setDraining true).enter steady ran with
      | whole entered alike =>
        exact ⟨0, _, _, Session.andThen_drain_empty (entered 0) alike.pending, .refl outcome, alike⟩
      | parted entered alike steady submitted same ended quiet =>
        obtain ⟨more, result, drained, drains, again, alike⟩ := alike.drain simulated steady submitted
        subst ended
        exact ⟨more, result, drained, (Run.andThen_ok (entered more)).trans drains, same.trans again,
          alike.emit_left quiet⟩
    obtain ⟨more, result, drained, done, same, alike⟩ := opened
    refine ⟨result, drained.close, ⟨more, ?_⟩, same, ?_⟩
    · simp only [Call.run, Session.start, mirrors.queued, mirrors.draining]
      exact Session.runQueued_eq_some_iff.mpr ⟨drained, done, rfl⟩
    · rw [Session.close_empty _ alike.pending]
      exact alike.setDraining false

end Simulation

/-- Calls that return one after the other, and their outcomes. -/
inductive Session.Calls : Session D P σ → List (Call P) → List (Except Failure Unit) → Session D P σ →
    Prop where
  | none : Calls session [] [] session
  | next (returned : Call.Returns call session outcome reached)
      (onward : Calls reached calls outcomes after) :
      Calls session (call :: calls) (outcome :: outcomes) after

private theorem Session.Calls.mirrored {clock other : Nat → Instant} {first second after : Session D P σ}
    {calls : List (Call P)} {outcomes : List (Except Failure Unit)}
    (returned : first.Calls calls outcomes after)
    (steady : ∀ call ∈ calls, call.token.Steady clock other)
    (mirrors : first.Mirrors clock other false [] second) :
    ∃ results reached, second.Calls calls results reached ∧ List.Forall₂ SameRoot outcomes results ∧
      after.Mirrors clock other false [] reached := by
  induction returned generalizing second with
  | none => exact ⟨[], second, .none, .nil, mirrors⟩
  | next returned onward ih =>
    obtain ⟨result, middle, once, same, alike⟩ := returned.mirrored (steady _ (by simp)) mirrors
    obtain ⟨results, reached, again, rest, alike⟩ :=
      ih (fun call member => steady call (List.mem_cons_of_mem _ member)) alike
    exact ⟨result :: results, reached, .next once again, .cons same rest, alike⟩

/-- A machine with callbacks that trigger at their very end, if at all, gets through any calls in queued
mode if it does so in nested mode, by whatever clocks. The outcomes have the same roots, and in the end
state, data, callbacks run and moves recorded are the same. -/
theorem queued_calls_mirror_nested {machine : Machine D P σ} {world : World D P σ}
    {clock : Nat → Instant} {readings : Nat} {calls : List (Call P)}
    {outcomes : List (Except Failure Unit)} {after : Session D P σ}
    (quiescent : machine.Quiescent) (unlimited : machine.policy.maxDepth = none)
    (tail : machine.callbacks.Tail) (steady : ∀ call ∈ calls, call.token.Steady world.clock clock)
    (returned : Session.Calls ⟨{ machine with policy := machine.policy.withDispatch .nested }, world⟩
      calls outcomes after) :
    ∃ results reached,
      Session.Calls ⟨{ machine with policy := machine.policy.withDispatch .queued },
        { world with clock, readings }⟩ calls results reached ∧
      List.Forall₂ SameRoot outcomes results ∧
      reached.machine.current = after.machine.current ∧
      reached.machine.data = after.machine.data ∧
      invocations reached.world.trace = invocations after.world.trace ∧
      reached.machine.journal.transitions.map Transition.move =
        after.machine.journal.transitions.map Transition.move := by
  have mirrors : Session.Mirrors world.clock clock false []
      ⟨{ machine with policy := machine.policy.withDispatch .nested }, world⟩
      ⟨{ machine with policy := machine.policy.withDispatch .queued }, { world with clock, readings }⟩ :=
    { nested := rfl, queued := rfl, unlimited := ⟨unlimited, unlimited⟩, forwarding := rfl
      recordHistory := rfl, table := rfl, callbacks := rfl, tail := tail, current := rfl, data := rfl
      moves := rfl, flags := rfl, shared := rfl, invocations := rfl, clock := rfl, other := rfl
      pending := quiescent.pending, draining := quiescent.draining }
  obtain ⟨results, reached, again, same, alike⟩ := returned.mirrored steady mirrors
  exact ⟨results, reached, again, same, alike.current.symm, alike.data.symm, alike.invocations.symm,
    alike.moves.symm⟩

private theorem Sample.callbacks_tail : Sample.callbacks.Tail := by
  constructor
  · intro event action present payload
    rcases Sample.callbacks_action? present with rfl | rfl
    · exact .write .done
    · exact .write .done
  · intro state entry present data
    cases Sample.callbacks_entry? present
    exact .trigger fun _ => rfl

/-- Where a trigger fails under another one, both modes fail with the same root, and what comes after it
fails in both as well. -/
theorem queued_calls_run_twice :
    ∃ after results reached,
      Session.Calls (Sample.session {})
        [.trigger (.name "run") () .unbounded, .trigger (.name "run") () .unbounded]
        [.error (.callback (.entry "running")
            (.failure (.callback (.action "finish") (.foreign "too late")))),
          .error (.invalidTransition "final" "run")] after ∧
      Session.Calls (Sample.session { dispatch := .queued })
        [.trigger (.name "run") () .unbounded, .trigger (.name "run") () .unbounded] results reached ∧
      List.Forall₂ SameRoot
        [.error (.callback (.entry "running")
            (.failure (.callback (.action "finish") (.foreign "too late")))),
          .error (.invalidTransition "final" "run")] results ∧
      reached.machine.current = ⟨2⟩ := by
  have quiescent : (Sample.machine {}).Quiescent := ⟨rfl, rfl, rfl⟩
  have steady : ∀ call ∈ [Call.trigger (.name "run") () .unbounded, .trigger (.name "run") () .unbounded],
      call.token.Steady Sample.world.clock Sample.world.clock := by
    intro call member
    have unbounded : call.token = .unbounded := by
      simp at member
      rw [member]
      rfl
    rw [unbounded]
    exact Token.steady_unbounded _ _
  have returned : Session.Calls (Sample.session {})
      [.trigger (.name "run") () .unbounded, .trigger (.name "run") () .unbounded] _ _ :=
    .next ⟨3, rfl⟩ (.next ⟨3, rfl⟩ .none)
  obtain ⟨results, reached, again, same, current, _⟩ :=
    @queued_calls_mirror_nested _ _ _ (Sample.machine {}) Sample.world Sample.world.clock 0 _ _ _
      quiescent rfl Sample.callbacks_tail steady returned
  exact ⟨_, results, reached, returned, again, same, current⟩

end StateMachine
