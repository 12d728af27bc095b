import StateMachine.Json.Mismatch

/-!
Readers: from documents to the values they are meant to describe. A reader reports the first thing in the
document that is wrong.
-/
namespace StateMachine

/-- Whether a list of fields with too many items comes from a value, which counts them, or from a text,
where the first superfluous item is out of place. -/
inductive Origin where
  | value
  | text
  deriving DecidableEq

variable {α : Type}

namespace Document

def orBroken (read : Except Break α) : Except ReadError α := read.mapError .broken

/-- What a document holds; lists and records are told by how they begin. -/
def found : Document → Except Break Found
  | .missing why => .error why
  | .literal read => read.map fun
    | .null => .null
    | .bool value => .bool value
  | .number read _ => read.map .number
  | .string read _ => read.map .string
  | .list _ _ => .ok .list
  | .record _ _ => .ok .record

def refusal (document : Document) (expected : String) : ReadError :=
  match document.found with
  | .error why => .broken why
  | .ok found => .mismatch (.wrongType found expected)

def readText (expected : String) : Document → Except ReadError String
  | .string read _ => orBroken read
  | other => .error (other.refusal expected)

def readString : Document → Except ReadError String := readText "a string"

def readBool : Document → Except ReadError Bool
  | .literal (.ok (.bool value)) => .ok value
  | other => .error (other.refusal "a boolean")

def readNat (bound : Nat) (expected : String) : Document → Except ReadError Nat
  | .number (.ok (.integer value)) _ =>
    if 0 ≤ value ∧ value < bound then .ok value.toNat
    else .error (.mismatch (.wrongNumber value expected))
  | other => .error (other.refusal expected)

def readOption (read : Document → Except ReadError α) : Document → Except ReadError (Option α)
  | .literal (.ok .null) => .ok none
  | other => (read other).map some

def readItems (read : Document → Except ReadError α) (items : List Document) (close : Option Break) :
    Except ReadError (List α) := do
  let values ← items.mapM read
  orBroken (unlessBroken close)
  return values

def readList (read : Document → Except ReadError α) : Document → Except ReadError (List α)
  | .list items close => readItems read items close
  | other => .error (other.refusal "a sequence")

def readNull (expected : String) : Document → Except ReadError Unit
  | .literal (.ok .null) => .ok ()
  | other => .error (other.refusal expected)

def chooseVariant (variants : List (String × α)) (name : String) : Except ReadError α :=
  match variants.lookup name with
  | some value => .ok value
  | none => .error (.mismatch (.unknownVariant name (variants.map Prod.fst)))

/-- Reads one of several names, or a record of a single member with that name and null. -/
def readVariant (variants : List (String × α)) : Document → Except ReadError α
  | .string read _ => do chooseVariant variants (← orBroken read)
  | .record [] close => .error (.broken (close.getD .malformed))
  | .record ((name, value) :: more) close => do
    let chosen ← chooseVariant variants (← orBroken name.memberName)
    value.readNull "unit"
    if more.isEmpty then orBroken (unlessBroken close) else .error (.broken .malformed)
    return chosen
  | .missing why => .error (.broken why)
  | _ => .error (.broken .malformed)

end Document

structure Field (α : Type) where
  name : String
  required : Bool
  fill : α → Document → Except ReadError α

/-- The fields of a kind of record, in the order of its list form, and the value before any is filled. -/
structure Form (α : Type) where
  label : String
  fields : List (Field α)
  blank : α

namespace Form

def expectedLength (form : Form α) : String :=
  let count := form.fields.length
  form.label ++ " with " ++ toString count ++ (if count = 1 then " element" else " elements")

/-- Fills the fields that a record has members for, and gives the names met. No field may be met twice,
and members that are no fields are passed over. -/
def readMembers (form : Form α) :
    List String → α → List (Document × Document) → Except ReadError (List String × α)
  | met, filled, [] => .ok (met, filled)
  | met, filled, (name, value) :: members => do
    let name ← Document.orBroken name.memberName
    match form.fields.find? (·.name = name) with
    | none =>
      Document.orBroken value.pass
      readMembers form met filled members
    | some field =>
      if name ∈ met then .error (.mismatch (.repeatedField name))
      else
        let filled ← field.fill filled value
        readMembers form (name :: met) filled members

/-- Fills the fields from the items of a list, one after the other. Fields that need not be given may be
left out at the end. -/
def readPositions (form : Form α) (origin : Origin) (length : Nat) (close : Option Break) :
    Nat → List (Field α) → α → List Document → Except ReadError α
  | _, [], filled, [] => (Document.orBroken (Document.unlessBroken close)).map fun _ => filled
  | _, [], _, _ :: _ =>
    match origin with
    | .value => .error (.mismatch (.wrongLength length "fewer elements in array"))
    | .text => .error (.broken .malformed)
  | position, field :: fields, filled, [] =>
    match close with
    | some why => .error (.broken why)
    | none =>
      if field.required then .error (.mismatch (.wrongLength position form.expectedLength))
      else readPositions form origin length close (position + 1) fields filled []
  | position, field :: fields, filled, item :: items => do
    let filled ← field.fill filled item
    readPositions form origin length close (position + 1) fields filled items

def read (form : Form α) (origin : Origin) : Document → Except ReadError α
  | .record members close => do
    let (met, filled) ← readMembers form [] form.blank members
    Document.orBroken (Document.unlessBroken close)
    match form.fields.find? fun field => field.required && !met.contains field.name with
    | some field => .error (.mismatch (.missingField field.name))
    | none => return filled
  | .list items close => readPositions form origin items.length close 0 form.fields form.blank items
  | other => .error (other.refusal form.label)

end Form

/-- Reads a whole text, in which nothing may follow the value. -/
def readText (read : Document → Except ReadError α) (text : String) : Except ReadError α := do
  let (document, trailing) := Document.ofText text
  let value ← read document
  if trailing then .error (.broken .malformed) else .ok value

end StateMachine
