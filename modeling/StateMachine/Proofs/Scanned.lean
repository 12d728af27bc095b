import StateMachine.Json.Scan
import StateMachine.Proofs.Settled

/-!
Scanned documents: a document of a text that stands for a value is the document of a value, which may have
several members of one name where the other has the last of them.
-/
namespace StateMachine

/-- A document in which whatever can be read can be passed over as well. -/
inductive Document.Tidy : Document → Prop where
  | missing {why : Break} : Tidy (.missing why)
  | literal {read : Except Break Literal} : Tidy (.literal read)
  | number {read : Except Break Number} {pass : Option Break}
    (passes : ∀ value, read = .ok value → pass = none) : Tidy (.number read pass)
  | string {read : Except Break String} {pass : Option Break}
    (passes : ∀ value, read = .ok value → pass = none) : Tidy (.string read pass)
  | list {items : List Document} {close : Option Break} (each : ∀ item ∈ items, Tidy item) :
    Tidy (.list items close)
  | record {members : List (Document × Document)} {close : Option Break}
    (names : ∀ member ∈ members, Tidy member.1) (values : ∀ member ∈ members, Tidy member.2) :
    Tidy (.record members close)

namespace Json

private theorem joinPieces_broken (why : Break) (pieces : List Piece) (text : List Char) :
    joinPieces (some why) pieces ≠ .ok text := by
  generalize broken : some why = close
  fun_induction joinPieces close pieces generalizing text with
  | case1 none => cases broken.trans none
  | case3 _ _ ih | case5 _ _ _ _ _ _ _ ih | case9 _ _ _ _ ih =>
    intro ok
    obtain ⟨rest, joined, _⟩ := Except.map_eq_ok_iff.mp ok
    exact ih rest joined
  | case2 | case4 | case6 | case7 | case8 => nofun

private theorem scanString_tidy (text : List Char) : (scanString text).1.Tidy := by
  rw [scanString]
  split
  · exact .string fun _ _ => rfl
  · refine .string fun value read => ?_
    obtain ⟨joined, ok, _⟩ := Except.map_eq_ok_iff.mp read
    exact absurd ok (joinPieces_broken _ _ joined)

private theorem scanNumber_tidy (text : List Char) : (scanNumber text).1.Tidy := by
  rw [scanNumber]
  split
  · split
    · exact .number fun _ _ => rfl
    · exact .number nofun
  · exact .number nofun

private theorem scanLiteral_tidy (letters : List Char) (value : Literal) (text : List Char) :
    (scanLiteral letters value text).1.Tidy := by
  rw [scanLiteral]
  split
  · exact .literal
  · exact .literal

/-- What is scanned is tidy, be it a value or one of several items or members. -/
theorem scan_tidy (fuel : Nat) :
    (∀ text, (scanValue fuel text).1.Tidy) ∧ (∀ text, ∀ item ∈ (scanItems fuel text).1, item.Tidy) ∧
      ∀ text, ∀ member ∈ (scanMembers fuel text).1, member.1.Tidy ∧ member.2.Tidy := by
  induction fuel with
  | zero => exact ⟨fun _ => .missing, nofun, nofun⟩
  | succ fuel ih =>
    obtain ⟨values, items, members⟩ := ih
    refine ⟨fun text => ?_, fun text => ?_, fun text => ?_⟩
    · rw [scanValue]
      split
      · exact .missing
      · split_ifs
        · exact scanLiteral_tidy ..
        · exact scanLiteral_tidy ..
        · exact scanLiteral_tidy ..
        · exact scanString_tidy ..
        · exact scanNumber_tidy ..
        · split
          · exact .list nofun
          · split_ifs
            · exact .list nofun
            · exact .list (items _)
        · split
          · exact .record nofun nofun
          · split_ifs
            · exact .record nofun nofun
            · exact .record (fun member among => (members _ member among).1)
                fun member among => (members _ member among).2
        · exact .missing
    · rw [scanItems]
      have first := List.forall_mem_singleton.mpr (values text)
      dsimp only
      split
      · exact first
      · split_ifs
        · exact List.forall_mem_cons.mpr ⟨values text, items _⟩
        · exact first
        · exact first
    · rw [scanMembers]
      dsimp only
      split
      on_goal 2 => split_ifs
      all_goals first
        | refine List.forall_mem_singleton.mpr ⟨values text, ?_⟩
        | refine List.forall_mem_cons.mpr ⟨⟨values text, ?_⟩, members _⟩
      -- What is left is the value of the first member, which is missing if there is no colon.
      all_goals
        split
        · exact .missing
        · split_ifs
          · exact values _
          · exact .missing

end Json

namespace Document

private theorem itemsToJson_eq_ok {levels : Nat} {items : List Document} {values : List Json}
    (ok : itemsToJson levels items = .ok values) :
    ∀ item ∈ items, ∃ value, item.toJson levels = .ok value := by
  induction items generalizing values with
  | nil => nofun
  | cons item items ih =>
    obtain ⟨value, first, ok⟩ := Except.bind_eq_ok_iff.mp ok
    obtain ⟨rest, others, _⟩ := Except.bind_eq_ok_iff.mp ok
    exact List.forall_mem_cons.mpr ⟨⟨value, first⟩, ih others⟩

private theorem membersToJson_eq_ok {levels : Nat} {held values : List (String × Json)}
    {members : List (Document × Document)} (ok : membersToJson levels held members = .ok values) :
    ∀ member ∈ members, (∃ name, member.1.memberName = .ok name) ∧
      ∃ value, member.2.toJson levels = .ok value := by
  induction members generalizing held with
  | nil => nofun
  | cons member members ih =>
    obtain ⟨name, named, ok⟩ := Except.bind_eq_ok_iff.mp ok
    obtain ⟨value, first, ok⟩ := Except.bind_eq_ok_iff.mp ok
    exact List.forall_mem_cons.mpr ⟨⟨⟨name, named⟩, value, first⟩, ih ok⟩

private theorem exists_ofItems {items : List Document} (each : ∀ item ∈ items, ∃ tree, item = ofJson tree) :
    ∃ trees, items = ofItems trees := by
  induction items with
  | nil => exact ⟨[], rfl⟩
  | cons item items ih =>
    obtain ⟨⟨tree, rfl⟩, rest⟩ := List.forall_mem_cons.mp each
    obtain ⟨trees, rfl⟩ := ih rest
    exact ⟨tree :: trees, rfl⟩

private theorem exists_ofMembers {members : List (Document × Document)}
    (each : ∀ member ∈ members, ∃ name tree, member = (.string (.ok name) none, ofJson tree)) :
    ∃ trees, members = ofMembers trees := by
  induction members with
  | nil => exact ⟨[], rfl⟩
  | cons member members ih =>
    obtain ⟨⟨name, tree, rfl⟩, rest⟩ := List.forall_mem_cons.mp each
    obtain ⟨trees, rfl⟩ := ih rest
    exact ⟨(name, tree) :: trees, rfl⟩

private theorem Tidy.of_memberName_eq_ok {document : Document} (tidy : document.Tidy) {name : String}
    (named : document.memberName = .ok name) : document = .string (.ok name) none := by
  cases tidy with
  | @string read pass passes =>
    have same : read = .ok name := named
    rw [same, passes name same]
  | _ => cases named

/-- A tidy document that stands for a value is the document of a value. -/
theorem Tidy.exists_tree {document : Document} (tidy : document.Tidy) {levels : Nat} {value : Json}
    (ok : document.toJson levels = .ok value) : ∃ tree, document = ofJson tree := by
  induction tidy generalizing levels value with
  | missing => cases ok
  | @literal read =>
    obtain ⟨literal, rfl, _⟩ := Except.map_eq_ok_iff.mp ok
    cases literal with
    | null => exact ⟨.null, rfl⟩
    | bool value => exact ⟨.bool value, rfl⟩
  | number passes =>
    obtain ⟨number, rfl, _⟩ := Except.map_eq_ok_iff.mp ok
    exact ⟨.number number, by rw [passes number rfl]; rfl⟩
  | string passes =>
    obtain ⟨text, rfl, _⟩ := Except.map_eq_ok_iff.mp ok
    exact ⟨.string text, by rw [passes text rfl]; rfl⟩
  | @list items close _ ih =>
    cases levels with
    | zero => cases ok
    | succ levels =>
      obtain ⟨values, listed, closed⟩ := Except.bind_eq_ok_iff.mp ok
      obtain ⟨trees, rfl⟩ := exists_ofItems fun item among =>
        let ⟨value, own⟩ := itemsToJson_eq_ok listed item among
        ih item among own
      cases close with
      | none => exact ⟨.array trees, rfl⟩
      | some why => cases closed
  | @record members close names _ _ ih =>
    cases levels with
    | zero => cases ok
    | succ levels =>
      obtain ⟨values, listed, closed⟩ := Except.bind_eq_ok_iff.mp ok
      have each : ∀ member ∈ members, ∃ name tree, member = (.string (.ok name) none, ofJson tree) := by
        intro member among
        obtain ⟨⟨name, named⟩, value, own⟩ := membersToJson_eq_ok listed member among
        obtain ⟨tree, same⟩ := ih member among own
        exact ⟨name, tree, Prod.ext ((names member among).of_memberName_eq_ok named) same⟩
      obtain ⟨trees, rfl⟩ := exists_ofMembers each
      cases close with
      | none => exact ⟨.object trees, rfl⟩
      | some why => cases closed

end Document

/-- A text that has a value is the text of a tree that settles to the value. -/
theorem Json.exists_tree_of_parse {text : String} {value : Json} (parsed : Json.parse text = .ok value) :
    ∃ tree : Json, Document.ofText text = (.ofJson tree, false) ∧ value = tree.settle := by
  have tidy : (Document.ofText text).1.Tidy :=
    (Json.scan_tidy (2 * text.toList.length + 2)).1 text.toList
  unfold Json.parse at parsed
  generalize Document.ofText text = scanned at parsed tidy ⊢
  obtain ⟨document, trailing⟩ := scanned
  obtain ⟨result, stands, parsed⟩ := Except.bind_eq_ok_iff.mp parsed
  cases trailing with
  | true => cases parsed
  | false =>
    cases parsed
    obtain ⟨tree, rfl⟩ := tidy.exists_tree stands
    exact ⟨tree, rfl, Document.toJson_ofJson_eq_ok tree stands⟩

end StateMachine
