import StateMachine.Machine.Session

namespace StateMachine.Session

variable {D P σ : Type} (session : Session D P σ)

@[simp] theorem machine_tick : session.tick.machine = session.machine := rfl

@[simp] theorem machine_emit (event : Event D P) : (session.emit event).machine = session.machine := rfl

@[simp] theorem machine_share (update : σ → σ) : (session.share update).machine = session.machine := rfl

@[simp] theorem machine_cancel (token : Token) : (session.cancel token).machine = session.machine := rfl

@[simp] theorem machine_write (update : D → D) :
    (session.write update).machine =
      { session.machine with data := update session.machine.data } := rfl

@[simp] theorem machine_enqueue (submission : Submission P) :
    (session.enqueue submission).machine =
      { session.machine with pending := session.machine.pending ++ [submission] } := rfl

@[simp] theorem machine_dequeue (rest : List (Submission P)) :
    (session.dequeue rest).machine = { session.machine with pending := rest } := rfl

@[simp] theorem machine_dropPending :
    session.dropPending.machine = { session.machine with pending := [] } := by
  obtain ⟨⟨_, _, _, _, _, _, _, pending, _⟩, _⟩ := session
  cases pending <;> rfl

@[simp] theorem machine_setDraining (draining : Bool) :
    (session.setDraining draining).machine = { session.machine with draining } := rfl

@[simp] theorem machine_apply (event : EventId) (target : StateId) (time : Instant) :
    (session.apply event target time).machine =
      { session.machine with
        current := target
        journal := if session.machine.policy.recordHistory then
            session.machine.journal.record
              ⟨session.machine.current, target, event, session.machine.depth, time⟩
          else session.machine.journal
        depth := session.machine.depth + 1 } := rfl

@[simp] theorem machine_settle (event : EventId) (outcome : Except Failure Unit) :
    (session.settle event outcome).machine =
      { session.machine with depth := session.machine.depth - 1 } := rfl

@[simp] theorem trace_tick : session.tick.world.trace = session.world.trace := rfl

@[simp] theorem trace_emit (event : Event D P) :
    (session.emit event).world.trace = session.world.trace ++ [event] := rfl

@[simp] theorem trace_share (update : σ → σ) :
    (session.share update).world.trace = session.world.trace := rfl

@[simp] theorem trace_cancel (token : Token) :
    (session.cancel token).world.trace = session.world.trace ++ [.raised token] := rfl

@[simp] theorem trace_write (update : D → D) :
    (session.write update).world.trace = session.world.trace ++ [.wrote update] := rfl

@[simp] theorem trace_enqueue (submission : Submission P) :
    (session.enqueue submission).world.trace = session.world.trace ++ [.accepted submission] := rfl

@[simp] theorem trace_dequeue (rest : List (Submission P)) :
    (session.dequeue rest).world.trace = session.world.trace ++ [.taken] := rfl

/-- Dropping is reported only if something was pending. -/
theorem trace_dropPending : session.dropPending.world.trace =
    session.world.trace ++
      if session.machine.pending = [] then [] else [.dropped session.machine.pending.length] := by
  obtain ⟨⟨_, _, _, _, _, _, _, pending, _⟩, _⟩ := session
  cases pending <;> simp [dropPending, emit]

@[simp] theorem trace_setDraining (draining : Bool) :
    (session.setDraining draining).world.trace = session.world.trace := rfl

@[simp] theorem trace_apply (event : EventId) (target : StateId) (time : Instant) :
    (session.apply event target time).world.trace =
      session.world.trace ++ [.applied
        ⟨session.machine.current, target, event, session.machine.depth, time⟩] := rfl

@[simp] theorem trace_settle (event : EventId) (outcome : Except Failure Unit) :
    (session.settle event outcome).world.trace =
      session.world.trace ++ [.settled event outcome] := rfl

/-- A submission joins the queue that is being drained. -/
def defer (submission : Submission P) : Session D P σ :=
  (session.enqueue submission).emit
    (.deferred submission.event (session.enqueue submission).machine.pending.length)

/-- A submission has been dispatched, and the clock has been read for it. -/
def dispatched (submission : Submission P) : Session D P σ :=
  session.tick.emit (.dispatched submission session.machine.depth)

/-- The end of a queue that was drained. -/
def close : Session D P σ := session.dropPending.setDraining false

@[simp] theorem machine_defer (submission : Submission P) :
    (session.defer submission).machine =
      { session.machine with pending := session.machine.pending ++ [submission] } := rfl

@[simp] theorem machine_dispatched (submission : Submission P) :
    (session.dispatched submission).machine = session.machine := rfl

@[simp] theorem machine_close :
    session.close.machine = { session.machine with pending := [], draining := false } := by
  simp [close]

@[simp] theorem trace_defer (submission : Submission P) :
    (session.defer submission).world.trace = session.world.trace ++
      [.accepted submission, .deferred submission.event (session.machine.pending.length + 1)] := by
  simp [defer]

@[simp] theorem trace_dispatched (submission : Submission P) :
    (session.dispatched submission).world.trace =
      session.world.trace ++ [.dispatched submission session.machine.depth] := rfl

@[simp] theorem flags_close : session.close.world.flags = session.world.flags := by
  obtain ⟨⟨_, _, _, _, _, _, _, pending, _⟩, _⟩ := session
  cases pending <;> rfl

@[simp] theorem clock_close : session.close.world.clock = session.world.clock := by
  obtain ⟨⟨_, _, _, _, _, _, _, pending, _⟩, _⟩ := session
  cases pending <;> rfl

@[simp] theorem readings_close : session.close.world.readings = session.world.readings := by
  obtain ⟨⟨_, _, _, _, _, _, _, pending, _⟩, _⟩ := session
  cases pending <;> rfl

@[simp] theorem shared_close : session.close.world.shared = session.world.shared := by
  obtain ⟨⟨_, _, _, _, _, _, _, pending, _⟩, _⟩ := session
  cases pending <;> rfl

theorem close_empty (empty : session.machine.pending = []) : session.close = session.setDraining false := by
  obtain ⟨⟨_, _, _, _, _, _, _, pending, _⟩, _⟩ := session
  cases empty
  rfl

theorem trace_close : session.close.world.trace =
    session.world.trace ++
      if session.machine.pending = [] then [] else [.dropped session.machine.pending.length] :=
  session.trace_dropPending

end StateMachine.Session
