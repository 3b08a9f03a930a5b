import ClassList.Comment
import ClassList.Number
import ClassList.Options.Defaults
import ClassList.Rendering
import ClassList.Sorting
import ClassList.Text.WordChar

/-! Options: reading them off a value, with a default for every field that is not given. -/

namespace ClassList

structure Options where
  threshold : Number
  groupOrder : List Text
  mapping : Mapping
  utilityFunction : Text
  showGroupNames : Bool
  commentTemplate : Text
  order : Order
  indentWidth : Nat
  fallbackGroup : Text
deriving DecidableEq

/-- The first characters of an identifier. -/
def isIdentifierStart (c : Char) : Bool :=
  ('A' ≤ c && c ≤ 'Z') || ('a' ≤ c && c ≤ 'z') || c = '_' || c = '$'

def isIdentifierChar (c : Char) : Bool := Text.isWordChar c || c = '$'

def isIdentifier : Text → Bool
  | [] => false
  | c :: cs => isIdentifierStart c && cs.all isIdentifierChar

/-- One or more identifiers with single dots between them. A line feed after the last is passed
over. -/
def isFunctionName (s : Text) : Bool := ((withoutFinalLineFeed s).splitOn '.').all isIdentifier

/-- The value that a field has when it is not given. -/
def Field.default : Field → Value
  | .threshold => .int 0
  | .groupOrder => .tuple (Defaults.groupOrder.map Value.text)
  | .mapping => Defaults.mapping.toValue
  | .utilityFunction => .text "clsx"
  | .showGroupNames => .bool true
  | .commentTemplate => .text defaultTemplate
  | .order => .text Order.unsorted.name
  | .indentWidth => .int 2
  | .fallbackGroup => .text "Others"

namespace Options

/-- The values given for fields, in the order of their keys. -/
abbrev Given := List (Field × Value)

namespace Given

/-- The value of a field, given or by default. -/
def value (given : Given) (field : Field) : Value := (given.lookup field).getD field.default

/-- Reads the keys of the entries in turn. Each has to name a field that no earlier key names. -/
def ofEntries (seen : List Field) : List (Value × Value) → Except ConfigError Given
  | [] => .ok []
  | (key, item) :: entries =>
    match Field.ofKey? key with
    | none => .error (.unknownOption key)
    | some field =>
      if field ∈ seen then .error (.repeatedOption key)
      else do return (field, item) :: (← ofEntries (field :: seen) entries)

/-- The fields that a value gives: none for null, else those of an object. -/
def ofValue : Value → Except ConfigError Given
  | .null => .ok []
  | .object entries => ofEntries [] entries
  | v => .error (.optionsNotObject v)

end Given

/-- A number that is finite and not negative. Truth values are no numbers here. -/
def readThreshold (v : Value) : Except ConfigError Number :=
  let checked (n : Number) : Except ConfigError Number :=
    if !n.isFinite then .error (.notFinite .threshold v)
    else if n.lt (.int 0) then .error (.negative .threshold v)
    else .ok n
  match v with
  | .int i => checked (.int i)
  | .float x => checked (.float x)
  | _ => .error (.unexpected .threshold .number v)

def readIndentWidth : Value → Except ConfigError Nat
  | .int (.ofNat n) => .ok n
  | .int i => .error (.negative .indentWidth (.int i))
  | v => .error (.unexpected .indentWidth .integer v)

def readShowGroupNames : Value → Except ConfigError Bool
  | .bool b => .ok b
  | v => .error (.unexpected .showGroupNames .boolean v)

def readUtilityFunction : Value → Except ConfigError Text
  | .text s => if isFunctionName s then .ok s else .error (.invalidFunctionName (.text s))
  | v => .error (.invalidFunctionName v)

def readCommentTemplate : Value → Except ConfigError Text
  | .text s => .ok s
  | v => .error (.unexpected .commentTemplate .string v)

/-- Checks the fields in turn: the numbers, the flag, the two texts, the groups, and the order last. -/
def ofGiven (given : Given) : Except Failure Options := do
  let threshold ← Failure.ofConfig (readThreshold (given.value .threshold))
  let indentWidth ← Failure.ofConfig (readIndentWidth (given.value .indentWidth))
  let showGroupNames ← Failure.ofConfig (readShowGroupNames (given.value .showGroupNames))
  let utilityFunction ← Failure.ofConfig (readUtilityFunction (given.value .utilityFunction))
  let commentTemplate ← Failure.ofConfig (readCommentTemplate (given.value .commentTemplate))
  let rules ←
    Rules.read (given.value .groupOrder) (given.value .mapping) (given.value .fallbackGroup)
  let order ← Failure.ofConfig (Order.read (given.value .order))
  return {
    threshold, utilityFunction, showGroupNames, order, indentWidth
    groupOrder := rules.groupOrder
    mapping := rules.mapping
    commentTemplate := resolveTemplate commentTemplate
    fallbackGroup := rules.fallback }

/-- Reads options off a value. -/
def ofValue (raw : Value) : Except Failure Options := do
  ofGiven (← Failure.ofConfig (Given.ofValue raw))

/-- Reads options off a value and reports which fields an object gives. -/
def read (raw : Value) : Job Options := do
  let given ← Job.ofExcept (Failure.ofConfig (Given.ofValue raw))
  match raw with
  | .null => pure ()
  | _ => report [.optionsParsed (given.map Prod.fst)]
  Job.ofExcept (ofGiven given)

/-- The options when nothing is given. -/
def byDefault : Options where
  threshold := .int 0
  groupOrder := Defaults.groupOrder
  mapping := Defaults.mapping
  utilityFunction := "clsx"
  showGroupNames := true
  commentTemplate := defaultTemplate
  order := .unsorted
  indentWidth := 2
  fallbackGroup := "Others"

/-- With nothing given, every default passes its check. -/
theorem ofGiven_nil : ofGiven [] = .ok byDefault := by rfl

/-- Whether two mappings have the same entries, in any order. -/
def sameMapping (a b : Mapping) : Bool :=
  a.length = b.length && a.all fun entry => b.lookup entry.1 = some entry.2

/-- Equality of options, field by field. Thresholds are compared as numbers, and the order of the
mapping does not count. -/
def same (a b : Options) : Bool :=
  a.threshold.same b.threshold && a.groupOrder = b.groupOrder && sameMapping a.mapping b.mapping &&
    a.utilityFunction = b.utilityFunction && a.showGroupNames = b.showGroupNames &&
    a.commentTemplate = b.commentTemplate && a.order = b.order &&
    a.indentWidth = b.indentWidth && a.fallbackGroup = b.fallbackGroup

/-- How the options lay out a call. -/
def style (o : Options) : Style where
  indentWidth := o.indentWidth
  showGroupNames := o.showGroupNames
  commentTemplate := o.commentTemplate
  utilityFunction := o.utilityFunction

end Options

end ClassList
