import StateMachine.Json.Numeral

/-!
Documents: texts taken apart as far as they are JSON. A document keeps the places where its text breaks,
so that a reader which goes through it from left to right meets whatever is wrong first.
-/
namespace StateMachine

inductive Literal where
  | null
  | bool (value : Bool)
  deriving DecidableEq

/-- A value that is passed over is held to fewer rules than one that is read: numbers of any size will do,
and so will any escape. Numbers and strings therefore have two ways to fail. A list or record ends well or
with a break; after a comma there is one more item, if only a missing one. -/
inductive Document where
  | missing (why : Break)
  | literal (read : Except Break Literal)
  | number (read : Except Break Number) (pass : Option Break)
  | string (read : Except Break String) (pass : Option Break)
  | list (items : List Document) (close : Option Break)
  | record (members : List (Document × Document)) (close : Option Break)

namespace Document

instance : Inhabited Document := ⟨.missing .ended⟩

mutual

def ofJson : Json → Document
  | .null => .literal (.ok .null)
  | .bool value => .literal (.ok (.bool value))
  | .number value => .number (.ok value) none
  | .string value => .string (.ok value) none
  | .array items => .list (ofItems items) none
  | .object members => .record (ofMembers members) none

def ofItems : List Json → List Document
  | [] => []
  | item :: items => ofJson item :: ofItems items

def ofMembers : List (String × Json) → List (Document × Document)
  | [] => []
  | (name, value) :: members => (.string (.ok name) none, ofJson value) :: ofMembers members

end

def unlessBroken : Option Break → Except Break Unit
  | none => .ok ()
  | some why => .error why

def passName : Document → Except Break Unit
  | .missing why => .error why
  | .string _ broken => unlessBroken broken
  | _ => .error .malformed

/-- The name of a member, which has to be a string. -/
def memberName : Document → Except Break String
  | .missing why => .error why
  | .string read _ => read
  | _ => .error .malformed

mutual

def pass : Document → Except Break Unit
  | .missing why => .error why
  | .literal read => read.map fun _ => ()
  | .number _ broken => unlessBroken broken
  | .string _ broken => unlessBroken broken
  | .list items close => do
    passItems items
    unlessBroken close
  | .record members close => do
    passMembers members
    unlessBroken close

def passItems : List Document → Except Break Unit
  | [] => .ok ()
  | item :: items => do
    pass item
    passItems items

def passMembers : List (Document × Document) → Except Break Unit
  | [] => .ok ()
  | (name, value) :: members => do
    passName name
    pass value
    passMembers members

end

/-- Puts a member into a list sorted by name, in place of one of the same name. -/
def putMember (name : String) (value : Json) : List (String × Json) → List (String × Json)
  | [] => [(name, value)]
  | (other, held) :: members =>
    if name < other then (name, value) :: (other, held) :: members
    else if name = other then (name, value) :: members
    else (other, held) :: putMember name value members

mutual

/-- The value of a document with at most so many lists and records around any part of it. -/
def toJson (levels : Nat) : Document → Except Break Json
  | .missing why => .error why
  | .literal read => read.map fun
    | .null => .null
    | .bool value => .bool value
  | .number read _ => read.map .number
  | .string read _ => read.map .string
  | .list items close =>
    match levels with
    | 0 => .error .malformed
    | levels + 1 => do
      let values ← itemsToJson levels items
      unlessBroken close
      return .array values
  | .record members close =>
    match levels with
    | 0 => .error .malformed
    | levels + 1 => do
      let values ← membersToJson levels [] members
      unlessBroken close
      return .object values

def itemsToJson (levels : Nat) : List Document → Except Break (List Json)
  | [] => .ok []
  | item :: items => do
    let value ← toJson levels item
    let values ← itemsToJson levels items
    return value :: values

/-- Of members with one name the last counts; members are sorted by name. -/
def membersToJson (levels : Nat) (held : List (String × Json)) :
    List (Document × Document) → Except Break (List (String × Json))
  | [] => .ok held
  | (name, value) :: members => do
    let name ← memberName name
    let value ← toJson levels value
    membersToJson levels (putMember name value held) members

end

end Document

end StateMachine
