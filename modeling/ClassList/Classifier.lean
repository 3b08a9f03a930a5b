import ClassList.Grouping
import ClassList.Pattern
import ClassList.Trace

/-! Classification: each class goes to the first group in mapping order that has a matching pattern,
or to the fallback group. -/

namespace ClassList

/-- Group names with their patterns, in the order in which they are tried. -/
abbrev Mapping := List (Text × List Text)

namespace Mapping

def toValue (mapping : Mapping) : Value :=
  .object (mapping.map fun (name, patterns) => (.text name, .tuple (patterns.map Value.text)))

end Mapping

structure Rules where
  groupOrder : List Text
  mapping : Mapping
  fallback : Text
deriving DecidableEq

namespace Rules

def name? : Value → Option Text
  | .text s => if Text.isBlankText s then none else some s
  | _ => none

def readPattern (group : Text) : Value → Except ConfigError Text
  | .text s => .ok s
  | v => .error (.patternNotText group v)

/-- One entry of the mapping: its name, then the kind of its patterns, then each pattern. -/
def readEntry (entry : Value × Value) : Except ConfigError (Text × List Text) :=
  match name? entry.1 with
  | none => .error .blankMappingName
  | some name =>
    match entry.2.items? with
    | none => .error (.patternsNotList name)
    | some patterns => do return (name, ← patterns.mapM (readPattern name))

/-- The names of the group order, each new and in the mapping. -/
def readOrder (mapping : Mapping) (seen : List Text) : List Value → Except ConfigError (List Text)
  | [] => .ok []
  | v :: vs =>
    match name? v with
    | none => .error .blankOrderName
    | some name =>
      if name ∈ seen then .error (.repeatedOrderName name)
      else if name ∈ mapping.map Prod.fst then do
        return name :: (← readOrder mapping (name :: seen) vs)
      else .error (.orderNameNotMapped name)

/-- The fallback has to be a name of the group order. To look it up, it has to be fit as a key. -/
def readFallback (groupOrder : List Text) (fallback : Value) : Except Failure Text :=
  if fallback.isKey then
    match groupOrder.find? fallback.isText with
    | some name => .ok name
    | none => .error (.configuration (.fallbackNotInOrder fallback))
  else .error (.notKey fallback)

/-- Checks a configuration of groups: the kinds of order and mapping, then the mapping entry by entry,
then the order name by name, then the fallback. -/
def read (groupOrder mapping fallback : Value) : Except Failure Rules := do
  let some order := groupOrder.items? | .error (.configuration .groupOrderNotList)
  let .object entries := mapping | .error (.configuration .mappingNotObject)
  let mapping ← Failure.ofConfig (entries.mapM readEntry)
  let groupOrder ← Failure.ofConfig (readOrder mapping [] order)
  let fallback ← readFallback groupOrder fallback
  return ⟨groupOrder, mapping, fallback⟩

end Rules

/-- A classifier tries the eligible groups in turn. -/
structure Classifier where
  groupOrder : List Text
  fallback : Text
  eligible : Mapping
deriving DecidableEq

namespace Classifier

/-- Eligible are the groups of the group order without the fallback group, in mapping order. -/
def ofRules (rules : Rules) : Classifier where
  groupOrder := rules.groupOrder
  fallback := rules.fallback
  eligible := rules.mapping.filter fun entry =>
    entry.1 ≠ rules.fallback && rules.groupOrder.contains entry.1

def ofGroups (groupOrder : List Text) (mapping : Mapping) (fallback : Text) :
    Except Failure Classifier :=
  (Rules.read (.tuple (groupOrder.map Value.text)) mapping.toValue (.text fallback)).map ofRules

/-- The first eligible group with a matching pattern, and that pattern. -/
def match? (c : Classifier) (t : Token) : Option (Text × Text) :=
  c.eligible.findSome? fun entry => (firstMatch? entry.2 t).map (entry.1, ·)

def groupOf (c : Classifier) (t : Token) : Text :=
  match c.match? t with
  | some (group, _) => group
  | none => c.fallback

def eventOf (c : Classifier) (t : Token) : Event :=
  match c.match? t with
  | some (group, pattern) => .classMatched t.original pattern group
  | none => .classUnmatched t.original c.fallback

/-- The tokens by group, from the empty groups of the group order on. -/
def assign (c : Classifier) (tokens : List Token) : Assignments :=
  tokens.foldl (fun assignments t => assignments.push (c.groupOf t) t) (c.groupOrder.map (·, []))

/-- The grouping of a list of tokens, which keep their order inside each group. -/
def classify (c : Classifier) (tokens : List Token) : Except Failure Grouping :=
  Grouping.ofAssignments (.tuple (c.groupOrder.map Value.text)) (c.assign tokens)

def find (c : Classifier) (t : Token) : Run Text := do
  report [c.eventOf t]
  return c.groupOf t

def run (c : Classifier) (tokens : List Token) : Job Grouping := do
  report (tokens.map c.eventOf)
  Job.ofExcept (c.classify tokens)

end Classifier

end ClassList
