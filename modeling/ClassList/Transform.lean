import ClassList.ExternalSorter
import ClassList.Options

/-! The transformation of a class string into a grouped call. -/

namespace ClassList

/-- What becomes of a class string: nothing without classes, a grouping alone when there are fewer
classes than the threshold asks for, and otherwise a grouping and the call that shows it. -/
inductive Outcome where
  | noClasses
  | belowThreshold (grouping : Grouping)
  | transformed (grouping : Grouping) (call : Text)
deriving DecidableEq

namespace Outcome

def grouping? : Outcome → Option Grouping
  | .noClasses => none
  | .belowThreshold g => some g
  | .transformed g _ => some g

def call? : Outcome → Option Text
  | .transformed _ call => some call
  | _ => none

def shouldTransform (o : Outcome) : Bool := o.call?.isSome

end Outcome

/-- A class string with what becomes of it. -/
structure Transformation where
  original : Text
  outcome : Outcome
deriving DecidableEq

def Number.toValue : Number → Value
  | .int i => .int i
  | .float x => .float x

/-- Options with the classifier that they describe, the oracle that canonical order asks and the collator
that alphabetical order sorts by. -/
structure Pipeline where
  options : Options
  classifier : Classifier
  oracle : Option Oracle
  collator : Collator

namespace Pipeline

/-- Checks the groups of the options. Canonical order without an oracle asks the external sorter. -/
def ofOptions (options : Options) (oracle : Option Oracle) (collator : Collator) (launch : Launcher) :
    Except Failure Pipeline := do
  let classifier ←
    Classifier.ofGroups options.groupOrder options.mapping options.fallbackGroup
  let oracle := match oracle with
    | some oracle => some oracle
    | none =>
      if options.order = .canonical then some (ExternalSorter.oracle {} launch) else none
  return ⟨options, classifier, oracle, collator⟩

/-- Sorts the classes of one group in the order that the options name. -/
def sortGroup (p : Pipeline) (tokens : List Token) : Job (List Token) :=
  Order.sortNamed (.text p.options.order.name) p.collator p.oracle tokens

/-- The sorter for the classes of a group. Unsorted classes need none. -/
def sorter (p : Pipeline) : Option Sorter :=
  if p.options.order = .unsorted then none else some p.sortGroup

/-- The threshold in force: the one given, or that of the options for null. -/
def threshold (p : Pipeline) : Value → Value
  | .null => p.options.threshold.toValue
  | v => v

/-- Groups tokens, and shows the groups if there are as many tokens as the threshold asks for. -/
def transformTokens (p : Pipeline) (threshold : Value) (tokens : List Token) : Job Outcome := do
  let grouping ← p.classifier.run tokens
  let met ← Job.ofExcept (grouping.meets (p.threshold threshold))
  if met then
    return .transformed grouping (← grouping.render p.options.style p.sorter)
  else
    report [.belowThreshold grouping.size (p.threshold threshold)]
    return .belowThreshold grouping

/-- Transforms one class string. Repeated classes count once. -/
def transform (p : Pipeline) (threshold : Value) (classString : Text) : Job Outcome := do
  let names := splitNames classString
  if names.isEmpty then return .noClasses
  let unique := deduplicate names
  if unique.length < names.length then
    report [.duplicatesDropped (names.length - unique.length)]
  p.transformTokens threshold (unique.map Token.ofText)

/-- Transforms one class string and returns it as it was given, with its outcome. -/
def transformation (p : Pipeline) (threshold : Value) (classString : Text) :
    Job Transformation := do
  return ⟨classString, ← p.transform threshold classString⟩

end Pipeline

def transformOnce (options : Options) (collator : Collator) (launch : Launcher) (classString : Text) :
    Job Outcome := do
  let pipeline ← Job.ofExcept (Pipeline.ofOptions options none collator launch)
  pipeline.transform .null classString

end ClassList
