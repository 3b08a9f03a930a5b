import ClassList.Value

/-! The fields of a configuration and the keys they are given under. -/

namespace ClassList

inductive Field where
  | threshold
  | groupOrder
  | mapping
  | utilityFunction
  | showGroupNames
  | commentTemplate
  | order
  | indentWidth
  | fallbackGroup
deriving DecidableEq

namespace Field

def all : List Field :=
  [.threshold, .groupOrder, .mapping, .utilityFunction, .showGroupNames, .commentTemplate, .order,
    .indentWidth, .fallbackGroup]

/-- The key in camel case, which messages use. -/
def optionName : Field → Text
  | .threshold => "threshold"
  | .groupOrder => "groupOrder"
  | .mapping => "mapping"
  | .utilityFunction => "utilityFunction"
  | .showGroupNames => "showGroupNames"
  | .commentTemplate => "commentTemplate"
  | .order => "order"
  | .indentWidth => "indentWidth"
  | .fallbackGroup => "fallbackGroup"

/-- The key in snake case, which the log uses. -/
def name : Field → Text
  | .threshold => "threshold"
  | .groupOrder => "group_order"
  | .mapping => "mapping"
  | .utilityFunction => "utility_function"
  | .showGroupNames => "show_group_names"
  | .commentTemplate => "comment_template"
  | .order => "order"
  | .indentWidth => "indent_width"
  | .fallbackGroup => "fallback_group"

/-- The field of a key in either spelling. -/
def ofKey? (key : Value) : Option Field :=
  all.find? fun field => key.isText field.optionName || key.isText field.name

end Field

end ClassList
