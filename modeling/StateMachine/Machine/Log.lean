import StateMachine.Log
import StateMachine.Machine.Session

namespace StateMachine

def Event.log? {D P : Type} (table : Table) : Event D P → Option LogRecord
  | .refused (.invalidTransition state event) =>
    some ⟨.debug, "rejected invalid transition",
      [("machine", .text table.name), ("state", .text state), ("event", .text event)]⟩
  | .applied transition =>
    some ⟨.debug, "applied transition",
      [("machine", .text table.name), ("from", .text (table.stateLabel transition.source)),
        ("to", .text (table.stateLabel transition.target)),
        ("event", .text (table.eventLabel transition.event)), ("depth", .count transition.depth)]⟩
  | .actionBegan event _ _ =>
    some ⟨.trace, "running action callback", [("event", .text (table.eventLabel event))]⟩
  | .entryBegan state _ =>
    some ⟨.trace, "running entry callback", [("state", .text (table.stateLabel state))]⟩
  | .deferred event waiting =>
    some ⟨.trace, "deferred reentrant trigger",
      [("machine", .text table.name), ("event", .text (table.eventLabel event)),
        ("queued", .count waiting)]⟩
  | .dropped count =>
    some ⟨.debug, "dropped queued triggers after failure",
      [("machine", .text table.name), ("dropped", .count count)]⟩
  | _ => none

end StateMachine
