import ClassList.Options.Field
import ClassList.Order

/-! What can be wrong with a configuration, what else can stop an operation, and the wording. -/

namespace ClassList

/-- What an option is expected to be. -/
inductive Kind where
  | number
  | integer
  | boolean
  | string
deriving DecidableEq

def Kind.phrase : Kind → Text
  | .number => "a number"
  | .integer => "an integer"
  | .boolean => "a boolean"
  | .string => "a string"

inductive ConfigError where
  | optionsNotObject (given : Value)
  | unknownOption (key : Value)
  | repeatedOption (key : Value)
  | unexpected (field : Field) (kind : Kind) (given : Value)
  | notFinite (field : Field) (given : Value)
  | negative (field : Field) (given : Value)
  | invalidFunctionName (given : Value)
  | groupOrderNotList
  | mappingNotObject
  | blankMappingName
  | patternsNotList (group : Text)
  | patternNotText (group : Text) (pattern : Value)
  | blankOrderName
  | repeatedOrderName (name : Text)
  | orderNameNotMapped (name : Text)
  | fallbackNotInOrder (fallback : Value)
  | orderNotText (given : Value)
  | unknownOrder (name : Text)
  | blankGroupName
  | repeatedGroup (name : Text)
  | fileNotFound (path : Text)
  | fileNotReadable (path : Text)
  | fileNotJson (path : Text)
  | fileNotUtf8 (path : Text)

namespace ConfigError

def message : ConfigError → Text
  | .optionsNotObject given => "Options must be an object, got " ++ given.typeName
  | .unknownOption key => "Unknown option '" ++ key.display ++ "'"
  | .repeatedOption key => "Option '" ++ key.display ++ "' is given more than once"
  | .unexpected field kind given =>
    "'" ++ field.optionName ++ "' must be " ++ kind.phrase ++ ", got " ++ given.inspect
  | .notFinite field given => "'" ++ field.optionName ++ "' must be finite, got " ++ given.inspect
  | .negative field given => "'" ++ field.optionName ++ "' must be >= 0, got " ++ given.display
  | .invalidFunctionName given =>
    "'" ++ Field.utilityFunction.optionName ++ "' is not a valid function name: " ++ given.inspect
  | .groupOrderNotList => "Group order must be a list of group names"
  | .mappingNotObject => "Group mapping must map group names to pattern lists"
  | .blankMappingName => "Group mapping contains an empty group name"
  | .patternsNotList group => "Patterns for group \"" ++ group ++ "\" must be a list of strings"
  | .patternNotText group pattern =>
    "Group \"" ++ group ++ "\" has a non-string pattern: " ++ pattern.inspect
  | .blankOrderName => "Group order contains an empty group name"
  | .repeatedOrderName name => "Group \"" ++ name ++ "\" appears more than once in order"
  | .orderNameNotMapped name => "Group \"" ++ name ++ "\" is in order but not in mapping"
  | .fallbackNotInOrder fallback =>
    "Fallback group \"" ++ fallback.display ++ "\" must be part of the group order"
  | .orderNotText given => "Sort order must be a string, got " ++ given.typeName
  | .unknownOrder name =>
    "Unknown sort order '" ++ name ++ "' (expected one of: " ++
      List.intercalate ", " Order.acceptedNames ++ ")"
  | .blankGroupName => "Class group name cannot be empty"
  | .repeatedGroup name => "Group '" ++ name ++ "' is declared more than once"
  | .fileNotFound path => "Config file not found: " ++ path
  | .fileNotReadable path => "Cannot read config file " ++ path
  | .fileNotJson path => "Invalid JSON in " ++ path
  | .fileNotUtf8 path => "Config file " ++ path ++ " is not valid UTF-8"

end ConfigError

/-- Why the external sorter gives no answer. An error that is not its own has a reason only. -/
inductive SorterError where
  | executableNotFound (executable : Text)
  | timedOut (timeout : Value)
  | failed (complaint : Text)
  | other (reason : Text)

def SorterError.message : SorterError → Text
  | .executableNotFound executable => "Node.js executable not found: " ++ executable
  | .timedOut timeout => "Class sorter timed out after " ++ timeout.display ++ "s"
  | .failed complaint => "Class sorter failed: " ++ complaint
  | .other reason => reason

/-- What stops an operation. The last four are uses of a value that its type or its size does not allow. -/
inductive Failure where
  | configuration (error : ConfigError)
  | sorter (error : SorterError)
  | unknownGroups (names : List Text)
  | unknownGroup (name : Text)
  | noSuchGroup (name : Text)
  | notKey (given : Value)
  | notOrdered (given : Value)
  | notSequence (given : Value)
  | notIndex (given : Int)

/-- The result of a check, with a defect as the failure. -/
def Failure.ofConfig {α : Type} (result : Except ConfigError α) : Except Failure α :=
  result.mapError Failure.configuration

/-- A use of a value that is not allowed has no message. -/
def Failure.message? : Failure → Option Text
  | .configuration error => some error.message
  | .sorter error => some error.message
  | .unknownGroups names => some ("Unknown group(s): " ++ List.intercalate ", " names)
  | .unknownGroup name => some ("Unknown group '" ++ name ++ "'")
  | .noSuchGroup name => some name
  | .notKey _ => none
  | .notOrdered _ => none
  | .notSequence _ => none
  | .notIndex _ => none

end ClassList
