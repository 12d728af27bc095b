import StateMachine.Definition
import StateMachine.Json.Read

/-!
Definitions as JSON. Every kind of record can also be written as the list of its fields.
-/
namespace StateMachine

def Json.strings (texts : List String) : Json := .array (texts.map .string)

/-- A single source is written by its name, unless that name is the mark for any state. -/
def Sources.toJson : Sources → Json
  | .any => .string "*"
  | .states [name] => if name = "*" then Json.strings [name] else .string name
  | .states names => Json.strings names

def Rule.toJson (rule : Rule) : Json :=
  .object ([("name", .string rule.event)] ++
    (rule.payload.toList.map fun payload => ("payload", .string payload)) ++
    [("from", rule.sources.toJson), ("to", .string rule.target)])

def Definition.toJson (definition : Definition) : Json :=
  .object [("name", .string definition.name), ("states", Json.strings definition.states),
    ("events", .array (definition.rules.map Rule.toJson))]

def Sources.ofName (name : String) : Sources := if name = "*" then .any else .states [name]

/-- Null, the mark for any state and an empty list all stand for any state. -/
def Sources.read : Document → Except ReadError Sources
  | .literal (.ok .null) => .ok .any
  | .string read _ => (Document.orBroken read).map Sources.ofName
  | .list items close => (Document.readItems Document.readString items close).map Sources.ofNames
  | other => .error (other.refusal "\"*\", a state name or an array of state names")

/-- The fields of a rule; only the name of the event has to be given. -/
def Rule.form : Form Rule where
  label := "struct EventDef"
  blank := Rule.on ""
  fields := [
    { name := "name", required := true
      fill := fun rule document => document.readString.map ({ rule with event := · }) },
    { name := "payload", required := false
      fill := fun rule document =>
        (document.readOption Document.readString).map ({ rule with payload := · }) },
    { name := "from", required := false
      fill := fun rule document => (Sources.read document).map ({ rule with sources := · }) },
    { name := "to", required := false
      fill := fun rule document => document.readString.map ({ rule with target := · }) }]

def Definition.form (origin : Origin) : Form Definition where
  label := "struct MachineDefinition"
  blank := { name := "", states := [] }
  fields := [
    { name := "name", required := true
      fill := fun definition document => document.readString.map ({ definition with name := · }) },
    { name := "states", required := true
      fill := fun definition document =>
        (document.readList Document.readString).map ({ definition with states := · }) },
    { name := "events", required := false
      fill := fun definition document =>
        (document.readList (Rule.form.read origin)).map ({ definition with rules := · }) }]

def Definition.ofJson (value : Json) : Except ReadError Definition :=
  (Definition.form .value).read .value (.ofJson value)

def Definition.ofText (text : String) : Except ReadError Definition :=
  readText ((Definition.form .text).read .text) text

def Definition.text (definition : Definition) : String := definition.toJson.text

end StateMachine
