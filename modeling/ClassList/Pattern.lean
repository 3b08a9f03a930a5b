import ClassList.Token

/-! Patterns for classes. Only a hyphen and a star at the end are special; any other star, question
mark or bracket stands for itself. -/

namespace ClassList

/-- A pattern is one base, or all bases that start with a stem up to a hyphen. -/
inductive Pattern where
  | exact (base : Text)
  | wildcard (stem : Text)
deriving DecidableEq

namespace Pattern

def wildcardEnd : Text := ['-', '*']

def ofText (s : Text) : Pattern :=
  if wildcardEnd.isSuffixOf s then .wildcard (s.take (s.length - 2)) else .exact s

def toText : Pattern → Text
  | .exact base => base
  | .wildcard stem => stem ++ wildcardEnd

/-- A wildcard takes its stem alone too. An exact pattern looks at the base as written and at the base
with its arbitrary value put aside. -/
def accepts (p : Pattern) (t : Token) : Bool :=
  match p with
  | .exact base => t.base = base || t.normalized = base
  | .wildcard stem => t.normalized = stem || (stem ++ ['-']).isPrefixOf t.normalized

end Pattern

/-- Whether a class matches the pattern that a text writes. -/
def matchesPattern (pattern : Text) (t : Token) : Bool := (Pattern.ofText pattern).accepts t

def firstMatch? (patterns : List Text) (t : Token) : Option Text :=
  patterns.find? (matchesPattern · t)

end ClassList
