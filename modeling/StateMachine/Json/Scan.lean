import StateMachine.Json.Document

namespace StateMachine

namespace Json

def isSpace (c : Char) : Bool := c = ' ' || c = '\t' || c = '\n' || c = '\r'

def skipSpace (text : List Char) : List Char := text.dropWhile isSpace

def scanWord : List Char → List Char → Except Break (List Char)
  | [], text => .ok text
  | _ :: _, [] => .error .ended
  | letter :: letters, c :: text => if letter = c then scanWord letters text else .error .malformed

/-- A piece of a string: a character, or a unit of sixteen bits written by its number. -/
inductive Piece where
  | char (c : Char)
  | unit (value : Nat)
  deriving DecidableEq

def hexValue? (c : Char) : Option Nat :=
  if c.isDigit then some (c.toNat - '0'.toNat)
  else if 'a' ≤ c ∧ c ≤ 'f' then some (c.toNat - 'a'.toNat + 10)
  else if 'A' ≤ c ∧ c ≤ 'F' then some (c.toNat - 'A'.toNat + 10)
  else none

def unit? (a b c d : Char) : Option Nat := do
  let a ← hexValue? a
  let b ← hexValue? b
  let c ← hexValue? c
  let d ← hexValue? d
  return ((a * 16 + b) * 16 + c) * 16 + d

def unescape? (c : Char) : Option Char :=
  if c = '"' ∨ c = '\\' ∨ c = '/' then some c
  else if c = 'b' then some '\x08'
  else if c = 'f' then some '\x0c'
  else if c = 'n' then some '\n'
  else if c = 'r' then some '\r'
  else if c = 't' then some '\t'
  else none

def utf8Size (text : List Char) : Nat := text.foldl (fun size c => size + c.utf8Size) 0

/-- The pieces of a string up to its closing quote or to a break, and what follows the quote. The number
of a unit takes four bytes. -/
def scanPieces : List Char → List Piece × Except Break (List Char)
  | [] => ([], .error .ended)
  | c :: text =>
    if c = '"' then ([], .ok text)
    else if c = '\\' then
      match text with
      | [] => ([], .error .ended)
      | 'u' :: first :: second :: third :: fourth :: text =>
        match unit? first second third fourth with
        | some value =>
          let (pieces, rest) := scanPieces text
          (.unit value :: pieces, rest)
        | none => ([], .error .malformed)
      | 'u' :: text => ([], .error (if utf8Size text < 4 then .ended else .malformed))
      | c :: text =>
        match unescape? c with
        | some meant =>
          let (pieces, rest) := scanPieces text
          (.char meant :: pieces, rest)
        | none => ([], .error .malformed)
    else if c.toNat < 0x20 then ([], .error .malformed)
    else
      let (pieces, rest) := scanPieces text
      (.char c :: pieces, rest)

def isLeading (value : Nat) : Bool := 0xD800 ≤ value && value < 0xDC00

def isTrailing (value : Nat) : Bool := 0xDC00 ≤ value && value < 0xE000

/-- The characters of a string. A leading surrogate needs a trailing one after it, and no trailing one
may stand alone. -/
def joinPieces (close : Option Break) : List Piece → Except Break (List Char)
  | [] => match close with
    | none => .ok []
    | some why => .error why
  | .char c :: pieces => (joinPieces close pieces).map (c :: ·)
  | .unit value :: pieces =>
    if isTrailing value then .error .malformed
    else if isLeading value then
      match pieces with
      | .unit next :: pieces =>
        if isTrailing next then
          let c := Char.ofNat (0x10000 + (value - 0xD800) * 0x400 + (next - 0xDC00))
          (joinPieces close pieces).map (c :: ·)
        else .error .malformed
      | .char _ :: _ => .error .malformed
      | [] => .error (close.getD .malformed)
    else (joinPieces close pieces).map (Char.ofNat value :: ·)

def scanString (text : List Char) : Document × List Char :=
  match scanPieces text with
  | (pieces, .ok rest) => (.string ((joinPieces none pieces).map String.ofList) none, rest)
  | (pieces, .error why) => (.string ((joinPieces (some why) pieces).map String.ofList) (some why), [])

/-- A numeral that breaks off is malformed for a reader that passes over it, also at the end of the text. -/
def scanNumber (text : List Char) : Document × List Char :=
  match Numeral.scan text with
  | .ok (numeral, rest) =>
    match numeral.number? with
    | some value => (.number (.ok value) none, rest)
    | none => (.number (.error .malformed) none, rest)
  | .error why => (.number (.error why) (some .malformed), [])

def scanLiteral (letters : List Char) (value : Literal) (text : List Char) : Document × List Char :=
  match scanWord letters text with
  | .ok rest => (.literal (.ok value), rest)
  | .error why => (.literal (.error why), [])

mutual

/-- The value that a text begins with, and what follows it; nothing follows a value that breaks. -/
def scanValue : Nat → List Char → Document × List Char
  | 0, _ => (.missing .ended, [])
  | fuel + 1, text =>
    match skipSpace text with
    | [] => (.missing .ended, [])
    | c :: text =>
      if c = 'n' then scanLiteral ['u', 'l', 'l'] .null text
      else if c = 't' then scanLiteral ['r', 'u', 'e'] (.bool true) text
      else if c = 'f' then scanLiteral ['a', 'l', 's', 'e'] (.bool false) text
      else if c = '"' then scanString text
      else if c = '-' ∨ c.isDigit then scanNumber (c :: text)
      else if c = '[' then
        match skipSpace text with
        | [] => (.list [] (some .ended), [])
        | next :: rest =>
          if next = ']' then (.list [] none, rest)
          else
            let (items, close, rest) := scanItems fuel (next :: rest)
            (.list items close, rest)
      else if c = '\x7b' then
        match skipSpace text with
        | [] => (.record [] (some .ended), [])
        | next :: rest =>
          if next = '\x7d' then (.record [] none, rest)
          else
            let (members, close, rest) := scanMembers fuel (next :: rest)
            (.record members close, rest)
      else (.missing .malformed, [])

def scanItems : Nat → List Char → List Document × Option Break × List Char
  | 0, _ => ([], some .ended, [])
  | fuel + 1, text =>
    let (item, text) := scanValue fuel text
    match skipSpace text with
    | [] => ([item], some .ended, [])
    | c :: text =>
      if c = ',' then
        let (items, close, rest) := scanItems fuel text
        (item :: items, close, rest)
      else if c = ']' then ([item], none, text)
      else ([item], some .malformed, [])

/-- A name without a colon after it has a missing value. -/
def scanMembers : Nat → List Char → List (Document × Document) × Option Break × List Char
  | 0, _ => ([], some .ended, [])
  | fuel + 1, text =>
    let (name, text) := scanValue fuel text
    let (value, text) := match skipSpace text with
      | [] => (.missing .ended, [])
      | c :: text => if c = ':' then scanValue fuel text else (.missing .malformed, [])
    match skipSpace text with
    | [] => ([(name, value)], some .ended, [])
    | c :: text =>
      if c = ',' then
        let (members, close, rest) := scanMembers fuel text
        ((name, value) :: members, close, rest)
      else if c = '\x7d' then ([(name, value)], none, text)
      else ([(name, value)], some .malformed, [])

end

end Json

/-- Every call of the scanner for a value is followed by one for its parts, and both together take a
character, so that twice the length is fuel enough. -/
def Document.scan (text : List Char) : Document × List Char :=
  Json.scanValue (2 * text.length + 2) text

/-- The document of a text, and whether anything but space follows its value. -/
def Document.ofText (text : String) : Document × Bool :=
  let (document, rest) := Document.scan text.toList
  (document, !(Json.skipSpace rest).isEmpty)

/-- The value of a text in which no more than 127 lists and records stand inside one another. -/
def Json.parse (text : String) : Except Break Json := do
  let (document, trailing) := Document.ofText text
  let value ← document.toJson 127
  if trailing then .error .malformed else .ok value

end StateMachine
