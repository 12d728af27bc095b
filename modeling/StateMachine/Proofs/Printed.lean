import StateMachine.Json.Scan

namespace StateMachine

namespace Json

variable {c : Char} {text rest : List Char}

section Strings

private theorem hexValue?_digitChar {n : Nat} (small : n < 16) : hexValue? (Nat.digitChar n) = some n := by
  have every : ∀ n < 16, hexValue? (Nat.digitChar n) = some n := by decide
  exact every n small

private theorem unit?_hexPair {n : Nat} (small : n < 0x100) :
    unit? '0' '0' (Nat.digitChar (n / 16 % 16)) (Nat.digitChar (n % 16)) = some n := by
  have high : hexValue? (Nat.digitChar (n / 16 % 16)) = some (n / 16 % 16) := hexValue?_digitChar (by omega)
  have low : hexValue? (Nat.digitChar (n % 16)) = some (n % 16) := hexValue?_digitChar (by omega)
  have zero : hexValue? '0' = some 0 := by decide
  simp only [unit?, zero, high, low, Option.bind_eq_bind, Option.bind_some, Option.pure_def]
  congr 1
  omega

private theorem scanPieces_plain (quote : c ≠ '"') (backslash : c ≠ '\\') (plain : ¬ c.toNat < 0x20) :
    scanPieces (c :: text) = (.char c :: (scanPieces text).1, (scanPieces text).2) := by
  rw [scanPieces.eq_def]
  simp only [quote, backslash, plain, if_false]

private theorem scanPieces_mark {mark : Char} (known : unescape? mark = some c) (other : mark ≠ 'u') :
    scanPieces ('\\' :: mark :: text) = (.char c :: (scanPieces text).1, (scanPieces text).2) := by
  rw [scanPieces.eq_def]
  simp [known, other]

private theorem scanPieces_unit {n : Nat} (small : n < 0x100) :
    scanPieces ('\\' :: 'u' :: '0' :: '0' :: (hexPair n ++ text)) =
      (.unit n :: (scanPieces text).1, (scanPieces text).2) := by
  rw [scanPieces.eq_def]
  simp [hexPair, unit?_hexPair small]

private theorem escapeChar_cases (c : Char) :
    (∃ mark, unescape? mark = some c ∧ mark ≠ 'u' ∧ escapeChar c = ['\\', mark]) ∨
    c.toNat < 0x20 ∧ escapeChar c = ['\\', 'u', '0', '0'] ++ hexPair c.toNat ∨
    c ≠ '"' ∧ c ≠ '\\' ∧ ¬ c.toNat < 0x20 ∧ escapeChar c = [c] := by
  by_cases marked : c ∈ ['"', '\\', '\x08', '\t', '\n', '\x0c', '\r']
  · simp only [List.mem_cons, List.not_mem_nil, or_false] at marked
    rcases marked with rfl | rfl | rfl | rfl | rfl | rfl | rfl <;>
      exact .inl ⟨_, rfl, by decide, rfl⟩
  · simp only [List.mem_cons, List.not_mem_nil, or_false, not_or] at marked
    obtain ⟨quote, backslash, back, tab, line, page, turn⟩ := marked
    by_cases control : c.toNat < 0x20
    · exact .inr (.inl ⟨control, by simp [escapeChar, *]⟩)
    · exact .inr (.inr ⟨quote, backslash, control, by simp [escapeChar, *]⟩)

/-- A piece that stands for a character, which is given by its number if it is a control character. -/
inductive Piece.Means (c : Char) : Piece → Prop where
  | char : Means c (.char c)
  | unit (control : c.toNat < 0x20) : Means c (.unit c.toNat)

private theorem scanPieces_escapeChar (c : Char) (text : List Char) :
    ∃ piece : Piece, piece.Means c ∧
      scanPieces (escapeChar c ++ text) = (piece :: (scanPieces text).1, (scanPieces text).2) := by
  rcases escapeChar_cases c with
    ⟨mark, known, other, written⟩ | ⟨control, written⟩ | ⟨quote, backslash, plain, written⟩
  · rw [written]
    exact ⟨_, .char, scanPieces_mark known other⟩
  · rw [written]
    exact ⟨_, .unit control, scanPieces_unit (by omega)⟩
  · rw [written]
    exact ⟨_, .char, scanPieces_plain quote backslash plain⟩

private theorem joinPieces_means {piece : Piece} (means : piece.Means c) (close : Option Break)
    (pieces : List Piece) : joinPieces close (piece :: pieces) = (joinPieces close pieces).map (c :: ·) := by
  cases means with
  | char => rfl
  | unit control =>
    have leading : isLeading c.toNat = false := by simp [isLeading]; omega
    have trailing : isTrailing c.toNat = false := by simp [isTrailing]; omega
    rw [joinPieces.eq_def]
    simp [leading, trailing]

private theorem scanPieces_escape (text rest : List Char) :
    ∃ pieces, scanPieces (escape text ++ '"' :: rest) = (pieces, .ok rest) ∧
      joinPieces none pieces = .ok text := by
  induction text with
  | nil =>
    have closed : scanPieces ('"' :: rest) = ([], .ok rest) := by
      rw [scanPieces.eq_def]
      rfl
    exact ⟨[], closed, rfl⟩
  | cons c text ih =>
    obtain ⟨pieces, scanned, joined⟩ := ih
    obtain ⟨piece, means, first⟩ := scanPieces_escapeChar c (escape text ++ '"' :: rest)
    refine ⟨piece :: pieces, ?_, ?_⟩
    · rw [escape, List.flatMap_cons, List.append_assoc, ← escape, first, scanned]
    · rw [joinPieces_means means, joined]
      rfl

private theorem scanString_escape (value : String) (rest : List Char) :
    scanString (escape value.toList ++ '"' :: rest) = (.string (.ok value) none, rest) := by
  obtain ⟨pieces, scanned, joined⟩ := scanPieces_escape value.toList rest
  simp [scanString, scanned, joined, Except.map]

end Strings

/-- What may follow a value within a text: an end, or what separates it from the next one. -/
inductive Closes : List Char → Prop where
  | ended : Closes []
  | comma : Closes (',' :: more)
  | bracket : Closes (']' :: more)
  | brace : Closes ('\x7d' :: more)

end Json

/-- A number the text of which is scanned as that number, whatever closes it. -/
structure Number.Legible (number : Number) : Prop where
  begins : ∃ c text, number.text.toList = c :: text ∧ (c = '-' ∨ c.isDigit = true)
  reads : ∀ {rest}, Json.Closes rest →
    Json.scanNumber (number.text.toList ++ rest) = (.number (.ok number) none, rest)

namespace Json

variable {rest : List Char} {fuel : Nat}

/-- Values all of whose numbers are legible. -/
inductive Legible : Json → Prop where
  | null : Legible .null
  | bool {value : Bool} : Legible (.bool value)
  | number {value : Number} (legible : value.Legible) : Legible (.number value)
  | string {value : String} : Legible (.string value)
  | array {items : List Json} (each : ∀ item ∈ items, Legible item) : Legible (.array items)
  | object {members : List (String × Json)} (each : ∀ member ∈ members, Legible member.2) :
    Legible (.object members)

/-- With enough fuel the text of a value is scanned as the document of the value. It begins with nothing
that could stand between values or end a list. -/
structure Scans (value : Json) : Prop where
  begins : ∃ c text, value.chars = c :: text ∧ isSpace c = false ∧ c ≠ ']'
  reads : ∀ {fuel : Nat} {rest : List Char}, 2 * value.chars.length ≤ fuel → Closes rest →
    scanValue fuel (value.chars ++ rest) = (Document.ofJson value, rest)

private theorem skipSpace_solid {c : Char} {text : List Char} (solid : isSpace c = false) :
    skipSpace (c :: text) = c :: text := by
  simp [skipSpace, solid]

private theorem scans_null : Scans .null := by
  refine ⟨⟨'n', _, rfl, rfl, by decide⟩, fun {fuel rest} enough closes => ?_⟩
  cases fuel with
  | zero => simp [chars] at enough
  | succ fuel => rfl

private theorem scans_bool (value : Bool) : Scans (.bool value) := by
  constructor
  · cases value with
    | false => exact ⟨'f', _, rfl, rfl, by decide⟩
    | true => exact ⟨'t', _, rfl, rfl, by decide⟩
  · intro fuel rest enough closes
    cases fuel with
    | zero => cases value <;> simp [chars] at enough
    | succ fuel => cases value <;> rfl

private theorem scanValue_stringChars (value : String) (rest : List Char) (enough : 0 < fuel) :
    scanValue fuel (stringChars value ++ rest) = (.string (.ok value) none, rest) := by
  cases fuel with
  | zero => omega
  | succ fuel =>
    have scanned := scanString_escape value rest
    simp [stringChars, scanValue, skipSpace_solid, isSpace, scanned]

private theorem scans_string (value : String) : Scans (.string value) := by
  have written : (string value).chars = stringChars value := by rw [chars]
  constructor
  · exact ⟨'"', _, written, rfl, by decide⟩
  · intro fuel rest enough closes
    rw [written] at enough ⊢
    exact scanValue_stringChars value rest (by simp [stringChars] at enough; omega)

private theorem scans_number {value : Number} (legible : value.Legible) : Scans (.number value) := by
  obtain ⟨c, text, same, numeric⟩ := legible.begins
  have written : (number value).chars = c :: text := by rw [chars, same]
  have other (k : Char) (sign : k ≠ '-') (digit : k.isDigit = false) : c ≠ k := by
    rintro rfl
    rcases numeric with negative | numeric
    · exact sign negative
    · rw [digit] at numeric
      cases numeric
  have solid : isSpace c = false := by
    simp [isSpace, other ' ' (by decide) rfl, other '\t' (by decide) rfl, other '\n' (by decide) rfl,
      other '\r' (by decide) rfl]
  constructor
  · exact ⟨c, text, written, solid, other ']' (by decide) rfl⟩
  · intro fuel rest enough closes
    have reads := legible.reads closes
    rw [same, List.cons_append] at reads
    rw [written] at enough
    cases fuel with
    | zero => simp at enough
    | succ fuel =>
      rw [written, List.cons_append, scanValue, skipSpace_solid solid]
      simp only [other 'n' (by decide) rfl, other 't' (by decide) rfl, other 'f' (by decide) rfl,
        other '"' (by decide) rfl, if_false, if_pos numeric]
      exact reads

private theorem closes_restChars (items : List Json) : Closes (restChars items ++ rest) := by
  cases items with
  | nil => exact .bracket
  | cons item items => exact .comma

private theorem closes_memberChars (members : List (String × Json)) :
    Closes (memberChars members ++ rest) := by
  cases members with
  | nil => exact .brace
  | cons member members => exact .comma

private theorem scanItems_chars {item : Json} {items : List Json}
    (each : ∀ other ∈ item :: items, Scans other)
    (enough : 2 * (item.chars ++ restChars items).length < fuel) :
    scanItems fuel (item.chars ++ (restChars items ++ rest)) =
      (Document.ofItems (item :: items), none, rest) := by
  induction items generalizing item fuel with
  | nil =>
    cases fuel with
    | zero => omega
    | succ fuel =>
      have first : scanValue fuel (item.chars ++ (restChars [] ++ rest)) =
          (Document.ofJson item, restChars [] ++ rest) :=
        (each item (List.mem_cons_self ..)).reads (by simp at enough; omega) (closes_restChars [])
      rw [scanItems, first]
      rfl
  | cons next items ih =>
    obtain ⟨own, others⟩ := List.forall_mem_cons.mp each
    cases fuel with
    | zero => omega
    | succ fuel =>
      simp only [restChars, List.length_append, List.length_cons] at enough
      have first : scanValue fuel (item.chars ++ (restChars (next :: items) ++ rest)) =
          (Document.ofJson item, restChars (next :: items) ++ rest) :=
        own.reads (by omega) (closes_restChars (next :: items))
      have later : scanItems fuel (next.chars ++ (restChars items ++ rest)) =
          (Document.ofItems (next :: items), none, rest) :=
        ih others (by simp only [List.length_append]; omega)
      rw [scanItems, first]
      simp [restChars, skipSpace_solid, isSpace, later, Document.ofItems]

private theorem scanValue_member {name : String} {value : Json} (own : Scans value)
    (members : List (String × Json)) (rest : List Char)
    (enough : 2 * (stringChars name ++ ':' :: (value.chars ++ memberChars members)).length ≤ fuel) :
    scanValue fuel (stringChars name ++ ':' :: (value.chars ++ (memberChars members ++ rest))) =
      (.string (.ok name) none, ':' :: (value.chars ++ (memberChars members ++ rest))) ∧
    scanValue fuel (value.chars ++ (memberChars members ++ rest)) =
      (Document.ofJson value, memberChars members ++ rest) := by
  simp only [List.length_append, List.length_cons] at enough
  constructor
  · exact scanValue_stringChars name _ (by omega)
  · exact own.reads (by omega) (closes_memberChars members)

private theorem scanMembers_chars {name : String} {value : Json} {members : List (String × Json)}
    (each : ∀ member ∈ (name, value) :: members, Scans member.2)
    (enough : 2 * (stringChars name ++ ':' :: (value.chars ++ memberChars members)).length < fuel) :
    scanMembers fuel (stringChars name ++ ':' :: (value.chars ++ (memberChars members ++ rest))) =
      (Document.ofMembers ((name, value) :: members), none, rest) := by
  have colon : isSpace ':' = false := rfl
  induction members generalizing name value fuel with
  | nil =>
    have own : Scans value := each (name, value) (List.mem_cons_self ..)
    cases fuel with
    | zero => omega
    | succ fuel =>
      obtain ⟨named, first⟩ := scanValue_member own [] rest (Nat.le_of_lt_succ enough)
      rw [scanMembers, named]
      simp only [skipSpace_solid colon, if_true, first]
      rfl
  | cons next members ih =>
    obtain ⟨own, others⟩ := List.forall_mem_cons.mp each
    cases fuel with
    | zero => omega
    | succ fuel =>
      obtain ⟨named, first⟩ := scanValue_member own (next :: members) rest (Nat.le_of_lt_succ enough)
      have later : scanMembers fuel (stringChars next.1 ++
          ':' :: (next.2.chars ++ (memberChars members ++ rest))) =
            (Document.ofMembers (next :: members), none, rest) := by
        refine ih others ?_
        simp only [memberChars, List.length_append, List.length_cons] at enough ⊢
        omega
      rw [scanMembers, named]
      simp only [skipSpace_solid colon, if_true, first]
      simp [memberChars, skipSpace_solid, isSpace, later, Document.ofMembers]

private theorem scans_array {items : List Json} (each : ∀ item ∈ items, Scans item) :
    Scans (.array items) := by
  constructor
  · cases items with
    | nil => exact ⟨'[', _, by rw [chars], rfl, by decide⟩
    | cons item items => exact ⟨'[', _, by rw [chars], rfl, by decide⟩
  · intro fuel rest enough closes
    cases fuel with
    | zero => cases items <;> simp [chars] at enough
    | succ fuel =>
      cases items with
      | nil => rfl
      | cons item items =>
        -- The scan has to tell by the first item that the list is not empty.
        obtain ⟨c, text, same, solid, inside⟩ := (each item (List.mem_cons_self ..)).begins
        have listed : scanItems fuel (item.chars ++ (restChars items ++ rest)) =
            (Document.ofItems (item :: items), none, rest) :=
          scanItems_chars each (by simp [chars] at enough ⊢; omega)
        rw [same, List.cons_append] at listed
        have begun (more : List Char) : skipSpace (c :: more) = c :: more := skipSpace_solid solid
        simp [chars, same, scanValue, skipSpace_solid, isSpace, begun, inside, listed, Document.ofJson]

private theorem scans_object {members : List (String × Json)} (each : ∀ member ∈ members, Scans member.2) :
    Scans (.object members) := by
  constructor
  · cases members with
    | nil => exact ⟨'\x7b', _, by rw [chars], rfl, by decide⟩
    | cons member members => exact ⟨'\x7b', _, by rw [chars], rfl, by decide⟩
  · intro fuel rest enough closes
    cases fuel with
    | zero => cases members <;> simp [chars] at enough
    | succ fuel =>
      cases members with
      | nil => rfl
      | cons member members =>
        obtain ⟨name, value⟩ := member
        have listed : scanMembers fuel (stringChars name ++
            ':' :: (value.chars ++ (memberChars members ++ rest))) =
              (Document.ofMembers ((name, value) :: members), none, rest) :=
          scanMembers_chars each (by simp [chars] at enough ⊢; omega)
        simp only [stringChars, List.cons_append, List.append_assoc, List.nil_append] at listed
        simp [chars, stringChars, scanValue, skipSpace_solid, isSpace, listed, Document.ofJson]

private theorem Legible.scans {value : Json} (legible : value.Legible) : value.Scans := by
  induction legible with
  | null => exact scans_null
  | bool => exact scans_bool _
  | number legible => exact scans_number legible
  | string => exact scans_string _
  | array each ih => exact scans_array ih
  | object each ih => exact scans_object ih

end Json

/-- What is printed is taken apart as it was put together. -/
theorem Document.ofText_text {value : Json} (legible : value.Legible) :
    Document.ofText value.text = (Document.ofJson value, false) := by
  have scanned : Document.scan value.chars = (Document.ofJson value, []) := by
    have reads := legible.scans.reads (Nat.le_add_right _ 2) .ended
    rwa [List.append_nil] at reads
  simp [Document.ofText, Json.text, scanned, Json.skipSpace]

end StateMachine
