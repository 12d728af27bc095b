import StateMachine.Definition
import StateMachine.Definition.Problem
import StateMachine.Log
import StateMachine.Table

namespace StateMachine

/-- What happens to a cell that two rules claim: the later rule gets it, or it is a problem. -/
inductive Strictness where
  | permissive
  | strict
  deriving DecidableEq

structure ResolvedRule where
  event : EventId
  rows : List Row
  target : StateId
  deriving DecidableEq

/-- A table while rules are written into it, and the cells that were written more than once. -/
structure Filling where
  table : Table
  repeated : List Problem
  deriving DecidableEq

namespace Filling

def put (filling : Filling) (event : EventId) (target : StateId) (row : Row) : Filling :=
  let (table, replaced) := filling.table.insert row event target
  let repeated := if replaced.isSome then
      [.repeatedRule (table.eventLabel event) (table.rowLabel row)]
    else []
  { table, repeated := filling.repeated ++ repeated }

def putRule (filling : Filling) (rule : ResolvedRule) : Filling :=
  rule.rows.foldl (·.put rule.event rule.target) filling

def putRules (filling : Filling) (rules : List ResolvedRule) : Filling := rules.foldl putRule filling

end Filling

/-- The result of a compilation, and the number of rules that a later one replaced in some cell. -/
structure Compilation where
  table : Table
  overwritten : Nat
  deriving DecidableEq

def Compilation.log (compilation : Compilation) : List LogRecord :=
  let name := compilation.table.name
  let overwritten : List LogRecord := if compilation.overwritten = 0 then [] else
    [⟨.debug, "duplicate rules resolved by last declaration",
      [("machine", .text name), ("overwritten", .count compilation.overwritten)]⟩]
  overwritten ++ [⟨.debug, "compiled transition table",
    [("machine", .text name), ("states", .count compilation.table.states.length),
      ("events", .count compilation.table.events.length)]⟩]

namespace Definition

/-- Adds the events of rules to those known before, by first declaration; nameless ones are left out. -/
def collectEvents (known : List EventInfo) : List Rule → List EventInfo
  | [] => known
  | rule :: rules =>
    if rule.event = "" ∨ known.any (·.name = rule.event) then collectEvents known rules
    else collectEvents (known ++ [⟨rule.event, rule.payload⟩]) rules

def events (definition : Definition) : List EventInfo := collectEvents [] definition.rules

def stateId? (definition : Definition) (name : String) : Option StateId :=
  (definition.states.findIdx? (· = name)).map StateId.ofIndex

def eventId? (definition : Definition) (name : String) : Option EventId :=
  (definition.events.findIdx? (·.name = name)).map EventId.ofIndex

/-- The names that occur more than once, each at its second occurrence. -/
def repeatedNames (before : List String) : List String → List String
  | [] => []
  | name :: names =>
    if before.count name = 1 then name :: repeatedNames (name :: before) names
    else repeatedNames (name :: before) names

def checkStates (definition : Definition) : Checked Unit :=
  let problems := (if definition.states = [] then [.noStates] else []) ++
    (repeatedNames [] definition.states).map .repeatedState
  if problems = [] then .ok () else .error problems

def checkTarget (definition : Definition) (rule : Rule) : Checked StateId :=
  if rule.target = "" then Checked.fail (.missingTarget rule.event)
  else match definition.stateId? rule.target with
    | some target => .ok target
    | none => Checked.fail (.unknownTarget rule.event rule.target)

def checkSource (definition : Definition) (rule : Rule) (source : String) : Checked Row :=
  match definition.stateId? source with
  | some state => .ok (.state state)
  | none => Checked.fail (.unknownSource rule.event source)

/-- The rows a rule applies to, a repeated source counting once. -/
def checkSources (definition : Definition) (rule : Rule) : Checked (List Row) :=
  match rule.sources with
  | .any => .ok [.wildcard]
  | .states names => (Checked.all (names.map (definition.checkSource rule))).map List.eraseDups

/-- Of a nameless rule nothing else is checked. -/
def checkRule (definition : Definition) (rule : Rule) : Checked ResolvedRule :=
  match definition.eventId? rule.event with
  | none => Checked.fail .emptyEventName
  | some event =>
    (Checked.both (definition.checkTarget rule) (definition.checkSources rule)).map
      fun (target, rows) => { event, rows, target }

/-- The rules by ids, if nothing is wrong with the states and the rules. -/
def check (definition : Definition) : Checked (List ResolvedRule) :=
  (Checked.both definition.checkStates (Checked.all (definition.rules.map definition.checkRule))).map
    Prod.snd

/-- The table of a definition with resolved rules, before repeated cells are judged. -/
def fill (definition : Definition) (rules : List ResolvedRule) : Filling :=
  Filling.putRules ⟨Table.blank definition.name definition.states definition.events, []⟩ rules

def compile (definition : Definition) (strictness : Strictness) : Checked Compilation := do
  let rules ← definition.check
  let filling := definition.fill rules
  if strictness = .strict ∧ filling.repeated ≠ [] then .error filling.repeated
  else .ok { table := filling.table, overwritten := filling.repeated.length }

end Definition

end StateMachine
