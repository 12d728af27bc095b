import StateMachine.Journal
import StateMachine.Time.Stamp

namespace StateMachine

def Instant.read (document : Document) : Except ReadError Instant := do
  let text ← document.readText "a time stamp"
  match Stamp.read? text with
  | some instant => return instant
  | none => .error (.mismatch .wrongTime)

def Instant.toJson (instant : Instant) : Json := .string (Stamp.write instant)

namespace Transition

def toJson (transition : Transition) : Json :=
  .object [("from", transition.source.toJson), ("to", transition.target.toJson),
    ("event", transition.event.toJson), ("depth", .nat transition.depth),
    ("timestamp", transition.time.toJson)]

def form : Form Transition where
  label := "struct TransitionRecord"
  blank := ⟨.initial, .initial, ⟨0⟩, 0, ⟨0, 0⟩⟩
  fields := [
    { name := "from", required := true
      fill := fun transition document => (StateId.read document).map ({ transition with source := · }) },
    { name := "to", required := true
      fill := fun transition document => (StateId.read document).map ({ transition with target := · }) },
    { name := "event", required := true
      fill := fun transition document => (EventId.read document).map ({ transition with event := · }) },
    { name := "depth", required := true
      fill := fun transition document =>
        (document.readNat UInt64.size "usize").map ({ transition with depth := · }) },
    { name := "timestamp", required := true
      fill := fun transition document => (Instant.read document).map ({ transition with time := · }) }]

def ofJson (value : Json) : Except ReadError Transition := form.read .value (.ofJson value)

end Transition

namespace Journal

def toJson (journal : Journal) : Json :=
  .object [("transitions", .array (journal.transitions.map Transition.toJson))]

def text (journal : Journal) : String := journal.toJson.text

def form (origin : Origin) : Form Journal where
  label := "struct TransitionHistory"
  blank := {}
  fields := [
    { name := "transitions", required := true
      fill := fun _ document =>
        (document.readList (Transition.form.read origin)).map fun transitions => { transitions } }]

def ofText (text : String) : Except ReadError Journal := readText ((form .text).read .text) text

end Journal

end StateMachine
