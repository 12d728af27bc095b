import StateMachine.Numeric.Shortest

/-!
JSON values and their compact text. Members of an object stay in the order they are given in.
-/
namespace StateMachine

/-- Numbers without fraction and exponent stay integers as long as 64 bits hold them. -/
inductive Number where
  | integer (value : Int)
  | float (negative : Bool) (magnitude : Nat)
  deriving DecidableEq

def Number.text : Number → String
  | .integer value => toString value
  | .float negative magnitude => Shortest.text negative magnitude

inductive Json where
  | null
  | bool (value : Bool)
  | number (value : Number)
  | string (value : String)
  | array (items : List Json)
  | object (members : List (String × Json))

namespace Json

instance : Inhabited Json := ⟨.null⟩

def nat (n : Nat) : Json := .number (.integer n)

def ofOption {α : Type} (write : α → Json) : Option α → Json
  | none => .null
  | some value => write value

/-- The value of the last member of that name. -/
def member? (name : String) : Json → Option Json
  | .object members => members.reverse.lookup name
  | _ => none

def hexPair (n : Nat) : List Char := [Nat.digitChar (n / 16 % 16), Nat.digitChar (n % 16)]

/-- Only quotes, backslashes and control characters are escaped. -/
def escapeChar (c : Char) : List Char :=
  if c = '"' then ['\\', '"']
  else if c = '\\' then ['\\', '\\']
  else if c = '\x08' then ['\\', 'b']
  else if c = '\t' then ['\\', 't']
  else if c = '\n' then ['\\', 'n']
  else if c = '\x0c' then ['\\', 'f']
  else if c = '\r' then ['\\', 'r']
  else if c.toNat < 0x20 then ['\\', 'u', '0', '0'] ++ hexPair c.toNat
  else [c]

def escape (text : List Char) : List Char := text.flatMap escapeChar

def stringChars (text : String) : List Char := '"' :: (escape text.toList ++ ['"'])

mutual

def chars : Json → List Char
  | .null => ['n', 'u', 'l', 'l']
  | .bool true => ['t', 'r', 'u', 'e']
  | .bool false => ['f', 'a', 'l', 's', 'e']
  | .number value => value.text.toList
  | .string value => stringChars value
  | .array [] => ['[', ']']
  | .array (item :: items) => '[' :: (chars item ++ restChars items)
  | .object [] => ['\x7b', '\x7d']
  | .object ((name, value) :: members) =>
    '\x7b' :: (stringChars name ++ ':' :: (chars value ++ memberChars members))

def restChars : List Json → List Char
  | [] => [']']
  | item :: items => ',' :: (chars item ++ restChars items)

def memberChars : List (String × Json) → List Char
  | [] => ['\x7d']
  | (name, value) :: members =>
    ',' :: (stringChars name ++ ':' :: (chars value ++ memberChars members))

end

def text (value : Json) : String := String.ofList value.chars

end Json

end StateMachine
