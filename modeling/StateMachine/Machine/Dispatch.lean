import StateMachine.Machine.Session

/-!
Dispatch: a trigger applies its transition and runs the callbacks, which may submit further triggers.
Since nothing bounds how deep or how often they do so, runs are given fuel, and end in `none` when it is
spent.
-/
namespace StateMachine

variable {D P σ : Type}

/-- A run ends with a result and a session, if it ends. -/
abbrev Run (D P σ : Type) (result : Type) := Session D P σ → Option (result × Session D P σ)

/-- Runs a callback. The first argument says what becomes of the triggers that it submits. -/
def Program.run (submit : Submission P → Run D P σ (Except Failure Unit)) (token : Token) :
    {role : Role} → Program D P σ role → Run D P σ (Except Cause Unit)
  | _, .done result, session => some (result, session)
  | _, .look next, session => run submit token (next (session.view token)) session.tick
  | _, .share update next, session =>
    let session := session.share update
    run submit token (next session.world.shared) session
  | _, .read next, session => run submit token (next session.machine.data) session
  | _, .write update next, session => run submit token next (session.write update)
  | _, .cancel flagged next, session => run submit token next (session.cancel flagged)
  | _, .trigger key payload next, session =>
    match session.machine.table.findEvent key with
    | .error failure => run submit token (next (.error failure)) session
    | .ok event =>
      match submit ⟨event, payload, token⟩ session with
      | none => none
      | some (outcome, session) => run submit token (next outcome) session

namespace Session

/-- The failures that keep a submission from being applied, in the order they are looked for, or the
target of its event. -/
def target (session : Session D P σ) (submission : Submission P) : Except Failure StateId := do
  let machine := session.machine
  let label := machine.table.eventLabel submission.event
  submission.token.check session.world.flags session.now label
  if let some limit := machine.policy.maxDepth then
    if limit < machine.depth then throw (.depthExceeded label limit)
  match machine.table.resolve? machine.current submission.event with
  | none => throw (.invalidTransition machine.stateName label)
  | some target => return target

def act (submit : Submission P → Run D P σ (Except Failure Unit)) (submission : Submission P) :
    Run D P σ (Except Failure Unit) := fun session =>
  let machine := session.machine
  match machine.callbacks.action? submission.event with
  | none => some (.ok (), session)
  | some action =>
    let began := session.emit (.actionBegan submission.event submission.payload machine.current)
    match (action submission.payload).run submit (machine.forwarded submission.token) began with
    | none => none
    | some (result, session) =>
      let callback := Callback.action (machine.table.eventLabel submission.event)
      some (result.mapError (.callback callback), session.emit (.actionEnded submission.event result))

/-- Runs the entry of the state the machine is in now, if it has one. -/
def enter (submit : Submission P → Run D P σ (Except Failure Unit)) (token : Token) :
    Run D P σ (Except Failure Unit) := fun session =>
  let machine := session.machine
  let state := machine.current
  match machine.callbacks.entry? state with
  | none => some (.ok (), session)
  | some entry =>
    let began := session.emit (.entryBegan state machine.data)
    match (entry machine.data).run submit (machine.forwarded token) began with
    | none => none
    | some (result, session) =>
      let callback := Callback.entry (machine.table.stateLabel state)
      some (result.mapError (.callback callback), session.emit (.entryEnded state result))

/-- The callbacks of an applied transition; after a failed action no state is entered. -/
def runCallbacks (submit : Submission P → Run D P σ (Except Failure Unit)) (submission : Submission P) :
    Run D P σ (Except Failure Unit) := fun session =>
  match act submit submission session with
  | some (.ok (), session) => enter submit submission.token session
  | stopped => stopped

/-- Applies a submission and runs its callbacks. The transition stays even if they fail. -/
def dispatch (submit : Submission P → Run D P σ (Except Failure Unit)) (submission : Submission P) :
    Run D P σ (Except Failure Unit) := fun session =>
  let dispatched := session.tick.emit (.dispatched submission session.machine.depth)
  match session.target submission with
  | .error failure => some (.error failure, dispatched.emit (.refused failure))
  | .ok target =>
    let applied := dispatched.apply submission.event target session.now
    match runCallbacks submit submission applied with
    | none => none
    | some (outcome, session) => some (outcome, session.settle submission.event outcome)

/-- Dispatches what is pending, one after the other, up to the first failure. -/
def drain (submit : Submission P → Run D P σ (Except Failure Unit)) : Nat → Run D P σ (Except Failure Unit)
  | fuel, session =>
    match session.machine.pending with
    | [] => some (.ok (), session)
    | submission :: rest =>
      match fuel with
      | 0 => none
      | fuel + 1 =>
        match dispatch submit submission (session.dequeue rest) with
        | some (.ok (), session) => drain submit fuel session
        | stopped => stopped

/-- Runs something and then what is pending. After a failure the rest is dropped. -/
def runQueued (submit : Submission P → Run D P σ (Except Failure Unit)) (fuel : Nat)
    (first : Run D P σ (Except Failure Unit)) : Run D P σ (Except Failure Unit) := fun session =>
  let drained := match first (session.setDraining true) with
    | some (.ok (), session) => drain submit fuel session
    | stopped => stopped
  drained.map fun (outcome, session) => (outcome, session.dropPending.setDraining false)

/-- Submits a trigger: it is dispatched at once, or it joins the queue, which the outermost trigger drains. -/
def submit : Nat → Submission P → Run D P σ (Except Failure Unit)
  | fuel, submission, session =>
    match session.machine.policy.dispatch, session.machine.draining, fuel with
    | .queued, true, _ =>
      let session := session.enqueue submission
      some (.ok (), session.emit (.deferred submission.event session.machine.pending.length))
    | _, _, 0 => none
    | .nested, _, fuel + 1 => dispatch (submit fuel) submission session
    | .queued, false, fuel + 1 =>
      runQueued (submit fuel) fuel (fun session => some (.ok (), session)) (session.enqueue submission)

def trigger (fuel : Nat) (key : EventKey) (payload : P) (token : Token) :
    Run D P σ (Except Failure Unit) := fun session =>
  match session.machine.table.findEvent key with
  | .error failure => some (.error failure, session)
  | .ok event => submit fuel ⟨event, payload, token⟩ session

/-- Runs the entry of the current state without a transition. -/
def start (fuel : Nat) (token : Token) : Run D P σ (Except Failure Unit) := fun session =>
  match session.machine.policy.dispatch, session.machine.draining with
  | .queued, false => runQueued (submit fuel) fuel (enter (submit fuel) token) session
  | _, _ => enter (submit fuel) token session

end Session

end StateMachine
