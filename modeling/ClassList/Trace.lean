import ClassList.Error

/-! The trace of an operation: what it reports, what it asks an ordering oracle and which processes it
starts. Operations are functions from the trace so far to a result and a longer trace. -/

namespace ClassList

inductive Level where
  | debug
  | info
  | warning
deriving DecidableEq

/-- The part of the library that reports an event. -/
inductive Reporter where
  | classifier
  | grouping
  | sorting
  | transformation
  | configuration
  | externalSorter
deriving DecidableEq

inductive Event where
  | classMatched (name pattern group : Text)
  | classUnmatched (name fallback : Text)
  | groupsRendered (groups classes : Nat)
  | oracleMissing
  | oracleFailed (reason : Text)
  | nameIgnored (name : Text)
  | classesMissing (kept total missing : Nat)
  | duplicatesDropped (number : Nat)
  | belowThreshold (number : Nat) (threshold : Value)
  | optionsParsed (fields : List Field)
  | fileLoaded (path : Text)
  | sorterStarted (classes : Nat) (moduleName : Text)

namespace Event

def level : Event → Level
  | .oracleMissing | .oracleFailed _ | .classesMissing .. => .warning
  | .fileLoaded _ | .sorterStarted .. => .info
  | _ => .debug

def reporter : Event → Reporter
  | .classMatched .. | .classUnmatched .. => .classifier
  | .groupsRendered .. => .grouping
  | .oracleMissing | .oracleFailed _ | .nameIgnored _ | .classesMissing .. => .sorting
  | .duplicatesDropped _ | .belowThreshold .. => .transformation
  | .optionsParsed _ | .fileLoaded _ => .configuration
  | .sorterStarted .. => .externalSorter

def message : Event → Text
  | .classMatched name pattern group =>
    "Class '" ++ name ++ "' matched '" ++ pattern ++ "' -> " ++ group
  | .classUnmatched name fallback => "Class '" ++ name ++ "' matched no pattern -> " ++ fallback
  | .groupsRendered groups classes =>
    "Rendered " ++ Text.ofNat groups ++ " group(s) with " ++ Text.ofNat classes ++ " class(es)"
  | .oracleMissing => "Canonical class order requested but no ordering oracle is configured"
  | .oracleFailed reason => "Failed to sort classes using canonical order: " ++ reason
  | .nameIgnored name => "Ignoring class '" ++ name ++ "' returned by the ordering oracle"
  | .classesMissing kept total missing =>
    "Ordering oracle returned " ++ Text.ofNat kept ++ " of " ++ Text.ofNat total ++
      " classes; keeping " ++ Text.ofNat missing ++ " unsorted at the end"
  | .duplicatesDropped number => "Dropped " ++ Text.ofNat number ++ " duplicate class(es)"
  | .belowThreshold number threshold =>
    Text.ofNat number ++ " class(es) below threshold " ++ threshold.display ++ ", not transforming"
  | .optionsParsed fields =>
    let names := (fields.map Field.name).mergeSort Text.le
    "Parsed options: " ++ (Value.list (names.map Value.text)).inspect
  | .fileLoaded path => "Loaded grouping options from " ++ path
  | .sorterStarted classes moduleName =>
    "Sorting " ++ Text.ofNat classes ++ " class(es) with " ++ moduleName

end Event

/-- A process to be started: its arguments, what it reads, and its limits. -/
structure Invocation where
  arguments : List Text
  input : Text
  timeout : Value
  directory : Option Text

/-- What has happened so far, oldest first. -/
structure Trace where
  events : List Event := []
  questions : List Text := []
  invocations : List Invocation := []

/-- An operation that cannot fail. -/
abbrev Run := StateM Trace

/-- An operation that may stop. What it did until then stays in the trace. -/
abbrev Job := ExceptT Failure Run

def report (events : List Event) : Run Unit :=
  modify fun trace => { trace with events := trace.events ++ events }

/-- The result of a check, as an operation without effect. -/
def Job.ofExcept {α : Type} (result : Except Failure α) : Job α := ExceptT.mk (pure result)

end ClassList
