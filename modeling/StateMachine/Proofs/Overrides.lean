import StateMachine.Policy.Form
import StateMachine.Proofs.Fields
import StateMachine.Proofs.Numeral

/-!
Policies read from texts: every setting that a text gives overrides the default, in whatever order and form
it is given, and the others stay as they are by default.
-/
namespace StateMachine

section

variable {α : Type} {form : Form α} {met : List String} {before after : α} {name : Document} {own : String}
  {value : Document} {members : List (Document × Document)}

private theorem Form.readMembers_field {field : Field α} (named : name.memberName = .ok own)
    (known : form.fields.find? (·.name = own) = some field) (fresh : own ∉ met)
    (filled : field.fill before value = .ok after) :
    form.readMembers met before ((name, value) :: members) =
      form.readMembers (own :: met) after members := by
  simp only [readMembers, named, Document.orBroken_ok, Except.ok_bind, known, if_neg fresh, filled]

private theorem Form.readMembers_unknown (named : name.memberName = .ok own) (unknown : own ∉ form.names)
    (passed : value.pass = .ok ()) :
    form.readMembers met before ((name, value) :: members) = form.readMembers met before members := by
  simp only [readMembers, named, Document.orBroken_ok, Except.ok_bind, find?_eq_none_iff.mpr unknown, passed]

/-- How often a name stands in front of a value. -/
def Document.countName (name : String) (members : List (Document × Document)) : Nat :=
  members.countP fun member => member.1.memberName.toOption = some name

private theorem Form.once_of_readMembers {result : List String × α} {other : String}
    (known : other ∈ form.names) (read : form.readMembers met before members = .ok result) :
    Document.countName other members + (if other ∈ met then 1 else 0) ≤ 1 := by
  induction members generalizing met before with
  | nil =>
    simp only [Document.countName, List.countP_nil]
    split <;> simp
  | cons member members ih =>
    obtain ⟨name, value⟩ := member
    obtain ⟨own, named, read⟩ := Except.bind_eq_ok_iff.mp read
    have plain := Document.orBroken_eq_ok_iff.mp named
    have count : Document.countName other ((name, value) :: members) =
        Document.countName other members + if own = other then 1 else 0 := by
      simp [Document.countName, List.countP_cons, plain, Except.toOption]
    rw [count]
    split at read
    · rename_i unknown
      obtain ⟨_, _, read⟩ := Except.bind_eq_ok_iff.mp read
      have apart : own ≠ other := by
        rintro rfl
        exact find?_eq_none_iff.mp unknown known
      simpa [apart] using ih read
    · split at read
      · cases read
      · rename_i fresh
        obtain ⟨_, _, read⟩ := Except.bind_eq_ok_iff.mp read
        have once := ih read
        by_cases same : own = other
        · subst other
          simpa [fresh] using once
        · simpa [same, Ne.symm same] using once

end

/-- A choice for one of the fields of a policy. -/
inductive Setting where
  | dispatch (dispatch : Dispatch)
  | forwarding (forwarding : Forwarding)
  | maxDepth (limit : Option Nat)
  | recordHistory (recordHistory : Bool)
  deriving DecidableEq

namespace Setting

def name : Setting → String
  | .dispatch _ => "dispatch"
  | .forwarding _ => "cancellation"
  | .maxDepth _ => "max_depth"
  | .recordHistory _ => "record_history"

/-- Whether a policy has a setting. -/
def Holds (policy : Policy) : Setting → Prop
  | .dispatch mode => policy.dispatch = mode
  | .forwarding mode => policy.forwarding = mode
  | .maxDepth limit => policy.maxDepth = limit
  | .recordHistory recorded => policy.recordHistory = recorded

def apply (policy : Policy) : Setting → Policy
  | .dispatch mode => { policy with dispatch := mode }
  | .forwarding mode => { policy with forwarding := mode }
  | .maxDepth limit => { policy with maxDepth := limit }
  | .recordHistory recorded => { policy with recordHistory := recorded }

/-- A policy can be built with every setting but that of no limit, which no method gives back. -/
def build? : Setting → Option (Policy → Policy)
  | .dispatch mode => some (·.withDispatch mode)
  | .forwarding mode => some (·.withForwarding mode)
  | .maxDepth none => none
  | .maxDepth (some limit) => some (·.withMaxDepth limit)
  | .recordHistory recorded => some (·.withRecordHistory recorded)

/-- A document for one of several names: the name, or a record of null under that name alone. -/
inductive Names (name : String) : Document → Prop where
  | text {pass : Option Break} : Names name (.string (.ok name) pass)
  | key {key : Document} (named : key.memberName = .ok name) :
    Names name (.record [(key, .literal (.ok .null))] none)

/-- The forms in which a setting can be given. -/
inductive GivenBy : Setting → Document → Prop where
  | dispatch {mode : Dispatch} {document : Document} (names : Names mode.name document) :
    GivenBy (.dispatch mode) document
  | forwarding {mode : Forwarding} {document : Document} (names : Names mode.name document) :
    GivenBy (.forwarding mode) document
  | unlimited : GivenBy (.maxDepth none) (.literal (.ok .null))
  | limited {limit : Nat} {pass : Option Break} (small : limit < UInt64.size) :
    GivenBy (.maxDepth (some limit)) (.number (.ok (.integer limit)) pass)
  | recordHistory {recorded : Bool} : GivenBy (.recordHistory recorded) (.literal (.ok (.bool recorded)))

theorem Names.readVariant {α : Type} {variants : List (String × α)} {name : String} {document : Document}
    {value : α} (names : Names name document) (listed : variants.lookup name = some value) :
    document.readVariant variants = .ok value := by
  have chosen : Document.chooseVariant variants name = .ok value := by
    rw [Document.chooseVariant, listed]
  cases names with
  | text => exact chosen
  | key named =>
    simp only [Document.readVariant, named, Document.orBroken_ok, Except.ok_bind, chosen]
    rfl

variable {setting : Setting} {value : Document}

/-- Whatever the form in which a setting is given, its field is filled with it. -/
theorem GivenBy.fill (given : setting.GivenBy value) :
    ∃ field, Policy.form.fields.find? (·.name = setting.name) = some field ∧
      ∀ before, field.fill before value = .ok (setting.apply before) := by
  cases given with
  | dispatch names =>
    rename_i mode
    have read : value.readVariant Dispatch.variants = .ok mode := names.readVariant (by cases mode <;> rfl)
    refine ⟨_, rfl, fun before => ?_⟩
    simp only [read, Except.map_of_ok, apply]
  | forwarding names =>
    rename_i mode
    have read : value.readVariant Forwarding.variants = .ok mode := names.readVariant (by cases mode <;> rfl)
    refine ⟨_, rfl, fun before => ?_⟩
    simp only [read, Except.map_of_ok, apply]
  | unlimited => exact ⟨_, rfl, fun before => rfl⟩
  | limited small =>
    rename_i limit pass
    have read : Document.readNat UInt64.size "usize" (.number (.ok (.integer limit)) pass) = .ok limit :=
      Document.readNat_nat small "usize"
    refine ⟨_, rfl, fun before => ?_⟩
    simp only [Document.readOption, read, Except.map_of_ok, apply]
  | recordHistory => exact ⟨_, rfl, fun before => rfl⟩

private theorem GivenBy.fill_of_name {field : Field Policy} (given : setting.GivenBy value)
    (own : field ∈ Policy.form.fields) (named : field.name = setting.name) (before : Policy) :
    field.fill before value = .ok (setting.apply before) := by
  obtain ⟨found, known, fill⟩ := given.fill
  have first : Policy.form.fields.find? (·.name = setting.name) = some field := by
    rw [← named]
    simp only [Policy.form, List.mem_cons, List.not_mem_nil, or_false] at own
    rcases own with rfl | rfl | rfl | rfl <;> rfl
  cases known.symm.trans first
  exact fill before

/-- The members of a record that gives these settings, among whatever else the record holds. -/
inductive Among : List Setting → List (Document × Document) → Prop where
  | nil : Among [] []
  | setting {setting : Setting} {settings : List Setting} {name value : Document}
      {members : List (Document × Document)} (named : name.memberName = .ok setting.name)
      (given : setting.GivenBy value) (rest : Among settings members) :
      Among (setting :: settings) ((name, value) :: members)
  | unknown {settings : List Setting} {name value : Document} {members : List (Document × Document)}
      {own : String} (named : name.memberName = .ok own) (unknown : own ∉ Policy.form.names)
      (passed : value.pass = .ok ()) (rest : Among settings members) :
      Among settings ((name, value) :: members)

/-- A document that gives these settings: a record with each of them once, or a list of the first ones. -/
inductive GivenIn (settings : List Setting) : Document → Prop where
  | record {members : List (Document × Document)} (among : Among settings members)
      (once : (settings.map name).Nodup) : GivenIn settings (.record members none)
  | list {items : List Document} (each : List.Forall₂ GivenBy settings items)
      (first : settings.map name <+: Policy.form.names) : GivenIn settings (.list items none)

variable {settings : List Setting} {document : Document}

theorem Among.read {members : List (Document × Document)} (among : Among settings members)
    {met : List String} (before : Policy) (once : (settings.map name).Nodup)
    (fresh : ∀ setting ∈ settings, setting.name ∉ met) :
    ∃ names, Policy.form.readMembers met before members = .ok (names, settings.foldl apply before) := by
  induction among generalizing met before with
  | nil => exact ⟨met, rfl⟩
  | setting named given rest ih =>
    obtain ⟨apart, once⟩ := List.nodup_cons.mp once
    obtain ⟨own, others⟩ := List.forall_mem_cons.mp fresh
    obtain ⟨field, known, fill⟩ := given.fill
    rw [Form.readMembers_field named known own (fill before)]
    refine ih _ once fun other listed => ?_
    rw [List.mem_cons, not_or]
    exact ⟨fun same => apart (List.mem_map.mpr ⟨other, listed, same⟩), others other listed⟩
  | unknown named unknown passed rest ih =>
    rw [Form.readMembers_unknown named unknown passed]
    exact ih before once fresh

theorem readPositions {origin : Origin} {length position : Nat} {fields : List (Field Policy)}
    {items : List Document} (own : ∀ field ∈ fields, field ∈ Policy.form.fields)
    (each : List.Forall₂ GivenBy settings items) (first : settings.map name <+: fields.map (·.name))
    (before : Policy) :
    Policy.form.readPositions origin length none position fields before items =
      .ok (settings.foldl apply before) := by
  induction fields generalizing settings items position before with
  | nil =>
    have empty : settings = [] := by simpa using first
    subst empty
    cases each
    rfl
  | cons field fields ih =>
    obtain ⟨listed, others⟩ := List.forall_mem_cons.mp own
    cases each with
    | nil =>
      have optional : field.required = false := by
        simp only [Policy.form, List.mem_cons, List.not_mem_nil, or_false] at listed
        rcases listed with rfl | rfl | rfl | rfl <;> rfl
      simp only [Form.readPositions, optional]
      exact ih others .nil (List.nil_prefix) before
    | cons given each =>
      rw [List.map_cons, List.map_cons, List.cons_prefix_cons] at first
      obtain ⟨named, first⟩ := first
      simp only [Form.readPositions, given.fill_of_name listed named.symm, Except.ok_bind]
      exact ih others each first _

theorem GivenIn.read {origin : Origin} (given : GivenIn settings document) :
    Policy.form.read origin document = .ok (settings.foldl apply {}) := by
  cases given with
  | record among once =>
    have fresh : ∀ setting ∈ settings, setting.name ∉ [] := by simp
    obtain ⟨names, read⟩ := among.read {} once fresh
    have optional : (Policy.form.fields.find? fun field => field.required && !names.contains field.name) =
        none := by
      simp [Policy.form]
    rw [Form.read, show Policy.form.blank = {} from rfl, read]
    simp only [Except.ok_bind, Document.unlessBroken_none, Document.orBroken_ok, optional, Except.pure_eq_ok]
  | list each first => exact readPositions (fun _ own => own) each first {}

private theorem holds_apply (policy : Policy) (setting : Setting) :
    setting.Holds (setting.apply policy) := by
  cases setting <;> rfl

private theorem holds_apply_iff {policy : Policy} {other : Setting} (apart : other.name ≠ setting.name) :
    other.Holds (setting.apply policy) ↔ other.Holds policy := by
  cases setting <;> cases other <;> first | exact absurd rfl apart | exact Iff.rfl

private theorem build?_eq_apply {build : Policy → Policy} (built : setting.build? = some build)
    (policy : Policy) :
    build policy = setting.apply policy := by
  cases setting with
  | maxDepth limit =>
    cases limit <;> cases built
    rfl
  | _ =>
    cases built
    rfl

/-- A setting that is not among those applied stays as it was. -/
theorem holds_foldl_iff {other : Setting} (apart : other.name ∉ settings.map name) (before : Policy) :
    other.Holds (settings.foldl apply before) ↔ other.Holds before := by
  induction settings generalizing before with
  | nil => exact Iff.rfl
  | cons setting settings ih =>
    rw [List.map_cons, List.mem_cons, not_or] at apart
    rw [List.foldl_cons, ih apart.2, holds_apply_iff apart.1]

private theorem holds_foldl (once : (settings.map name).Nodup) (own : setting ∈ settings)
    (before : Policy) :
    setting.Holds (settings.foldl apply before) := by
  induction settings generalizing before with
  | nil => cases own
  | cons first settings ih =>
    obtain ⟨apart, once⟩ := List.nodup_cons.mp once
    rcases List.mem_cons.mp own with rfl | own
    · exact (holds_foldl_iff apart _).mpr (holds_apply before setting)
    · exact ih once own _

private theorem foldl_build {chain : List (Policy → Policy)} (built : settings.mapM build? = some chain)
    (before : Policy) : chain.foldl (fun policy build => build policy) before = settings.foldl apply before := by
  induction settings generalizing chain before with
  | nil =>
    cases built
    rfl
  | cons setting settings ih =>
    simp only [List.mapM_cons, Option.bind_eq_bind, Option.bind_eq_some_iff, Option.pure_def,
      Option.some.injEq] at built
    obtain ⟨build, own, rest, others, rfl⟩ := built
    rw [List.foldl_cons, List.foldl_cons, build?_eq_apply own, ih others]

/-- A policy that has these settings, and in all else is the default. The methods that build a policy make
the same one, if there is a method for each setting. -/
structure Override (settings : List Setting) (policy : Policy) : Prop where
  given : ∀ setting ∈ settings, setting.Holds policy
  kept : ∀ setting : Setting, setting.name ∉ settings.map name → (setting.Holds policy ↔ setting.Holds {})
  built : ∀ chain, settings.mapM build? = some chain →
    policy = chain.foldl (fun policy build => build policy) {}

private theorem override_foldl (once : (settings.map name).Nodup) :
    Override settings (settings.foldl apply {}) where
  given := fun _ own => holds_foldl once own {}
  kept := fun _ apart => holds_foldl_iff apart {}
  built := fun _ built => (foldl_build built {}).symm

private theorem holds_iff_eq {other : Setting} {policy : Policy} (same : other.name = setting.name)
    (holds : setting.Holds policy) : other.Holds policy ↔ other = setting := by
  cases setting <;> cases other <;> simp_all [name, Holds, eq_comm]

/-- There is one policy at most that has given settings and is the default in all else. -/
theorem Override.unique {others : List Setting} {policy another : Policy} (override : Override settings policy)
    (override_too : Override others another) (alike : ∀ setting, setting ∈ settings ↔ setting ∈ others) :
    policy = another := by
  have names (name : String) : name ∈ settings.map Setting.name ↔ name ∈ others.map Setting.name := by
    simp only [List.mem_map, alike]
  have same (setting : Setting) : setting.Holds policy ↔ setting.Holds another := by
    by_cases listed : setting.name ∈ settings.map Setting.name
    · obtain ⟨own, among, named⟩ := List.mem_map.mp listed
      rw [holds_iff_eq named.symm (override.given own among),
        holds_iff_eq named.symm (override_too.given own ((alike own).mp among))]
    · rw [override.kept setting listed, override_too.kept setting (mt (names _).mpr listed)]
  have dispatch := (same (.dispatch policy.dispatch)).mp rfl
  have forwarding := (same (.forwarding policy.forwarding)).mp rfl
  have maxDepth := (same (.maxDepth policy.maxDepth)).mp rfl
  have recordHistory := (same (.recordHistory policy.recordHistory)).mp rfl
  cases another
  cases dispatch
  cases forwarding
  cases maxDepth
  cases recordHistory
  rfl

theorem GivenIn.once (given : GivenIn settings document) : (settings.map name).Nodup := by
  cases given with
  | record _ once => exact once
  | list _ first =>
    have distinct : Policy.form.names.Nodup := by decide
    exact distinct.sublist first.sublist

/-- The settings of a policy, all of them. -/
def all (policy : Policy) : List Setting :=
  [.dispatch policy.dispatch, .forwarding policy.forwarding, .maxDepth policy.maxDepth,
    .recordHistory policy.recordHistory]

end Setting

/-- A policy whose limit is a number of 64 bits. -/
def Policy.Writable (policy : Policy) : Prop := ∀ limit ∈ policy.maxDepth, limit < UInt64.size

namespace Policy

variable {policy : Policy} (writable : policy.Writable)
include writable

theorem legible_toJson : policy.toJson.Legible := by
  refine .object fun member among => ?_
  simp only [List.mem_cons, List.not_mem_nil, or_false] at among
  rcases among with rfl | rfl | rfl | rfl
  · exact .string
  · exact .string
  · cases limit : policy.maxDepth with
    | none => exact .null
    | some n => exact Json.legible_nat (writable n limit)
  · exact .bool

private theorem givenIn_toJson : Setting.GivenIn (Setting.all policy) (.ofJson policy.toJson) := by
  have limit : (Setting.maxDepth policy.maxDepth).GivenBy
      (.ofJson (Json.ofOption Json.nat policy.maxDepth)) := by
    cases limit : policy.maxDepth with
    | none => exact .unlimited
    | some n => exact .limited (writable n limit)
  have once : ["dispatch", "cancellation", "max_depth", "record_history"].Nodup := by decide
  refine .record ?_ once
  exact .setting rfl (.dispatch .text) <| .setting rfl (.forwarding .text) <| .setting rfl limit <|
    .setting rfl .recordHistory .nil

theorem ofText_text : ofText policy.text = .ok policy := by
  rw [ofText, text, readText_of_scanned (Document.ofText_text (legible_toJson writable)),
    (givenIn_toJson writable).read]
  rfl

end Policy

/-- A policy is read back from its text. A text that gives some settings, as an object among whatever else
or as a list of the first ones, overrides just these settings of the default, so that texts with the same
settings are read alike. No text that gives one field twice is read. -/
theorem policy_text_overrides_default :
    (∀ policy : Policy, policy.Writable → Policy.ofText policy.text = .ok policy) ∧
    (∀ text document settings, Document.ofText text = (document, false) →
      Setting.GivenIn settings document →
      ∃ policy, Policy.ofText text = .ok policy ∧ Setting.Override settings policy) ∧
    (∀ text other document another settings others, Document.ofText text = (document, false) →
      Document.ofText other = (another, false) → Setting.GivenIn settings document →
      Setting.GivenIn others another → (∀ setting, setting ∈ settings ↔ setting ∈ others) →
      Policy.ofText text = Policy.ofText other) ∧
    ∀ text members close trailing name,
      Document.ofText text = (.record members close, trailing) → name ∈ Policy.form.names →
      1 < Document.countName name members → ∃ error, Policy.ofText text = .error error := by
  have overrides {text document settings} (scanned : Document.ofText text = (document, false))
      (given : Setting.GivenIn settings document) :
      ∃ policy, Policy.ofText text = .ok policy ∧ Setting.Override settings policy := by
    refine ⟨_, ?_, Setting.override_foldl given.once⟩
    rw [Policy.ofText, readText_of_scanned scanned, given.read]
  refine ⟨fun policy writable => Policy.ofText_text writable, fun _ _ _ => overrides,
    fun text other document another settings others scanned scanned_too given given_too alike => ?_,
    fun text members close trailing name scanned known twice => ?_⟩
  · obtain ⟨policy, read, override⟩ := overrides scanned given
    obtain ⟨_, read_too, override_too⟩ := overrides scanned_too given_too
    rw [read, read_too, override.unique override_too alike]
  · cases result : Policy.ofText text with
    | error error => exact ⟨error, rfl⟩
    | ok policy =>
      have read := readText_eq_ok result
      rw [scanned, Form.read] at read
      obtain ⟨_, met, _⟩ := Except.bind_eq_ok_iff.mp read
      have once := Form.once_of_readMembers known met
      omega

/-- A text with the greatest limit, the other mode as a key, and a field that no policy has. -/
def Policy.sampleText : String :=
  "\x7b\"max_depth\":18446744073709551615, \"note\":[null], \"cancellation\":\x7b\"detach\":null\x7d\x7d"

def Policy.sampleDocument : Document :=
  .record [(.string (.ok "max_depth") none, .number (.ok (.integer 18446744073709551615)) none),
    (.string (.ok "note") none, .list [.literal (.ok .null)] none),
    (.string (.ok "cancellation") none,
      .record [(.string (.ok "detach") none, .literal (.ok .null))] none)] none

theorem sample_text_overrides_default :
    Policy.ofText Policy.sampleText =
      .ok ((({} : Policy).withMaxDepth 18446744073709551615).withForwarding .detach) := by
  have scanned : Document.ofText Policy.sampleText = (Policy.sampleDocument, false) := by
    simp only [Policy.sampleText, Document.ofText, String.reduceToList]
    rfl
  have unknown : "note" ∉ Policy.form.names := by decide
  have given : Setting.GivenIn [.maxDepth (some 18446744073709551615), .forwarding .detach]
      Policy.sampleDocument := by
    refine .record ?_ (by decide)
    refine .setting rfl (.limited (by decide)) (.unknown rfl unknown rfl (.setting rfl ?_ .nil))
    exact .forwarding (.key rfl)
  obtain ⟨policy, read, override⟩ := policy_text_overrides_default.2.1 _ _ _ scanned given
  rw [read, override.built _ rfl]
  rfl

end StateMachine
