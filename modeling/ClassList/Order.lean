import ClassList.Text.Blank
import ClassList.Text.LowerCase

/-! The orders that the classes of a group can be put in, and their names. -/

namespace ClassList

/-- As written, by collation key in either direction, or as an ordering oracle says. -/
inductive Order where
  | unsorted
  | ascending
  | descending
  | canonical
deriving DecidableEq

namespace Order

def all : List Order := [.unsorted, .ascending, .descending, .canonical]

def name : Order → Text
  | .unsorted => "unsorted"
  | .ascending => "ascending"
  | .descending => "descending"
  | .canonical => "canonical"

def aliases : List (Text × Order) :=
  [("no-sort", .unsorted), ("none", .unsorted), ("asc", .ascending), ("desc", .descending),
    ("official", .canonical)]

/-- Every name that is accepted, proper names first. -/
def acceptedNames : List Text := all.map name ++ aliases.map Prod.fst

/-- The order of a name or alias, without regard to case or to blanks around it. -/
def ofName? (s : Text) : Option Order :=
  let key := Text.lower (Text.strip s)
  match aliases.lookup key with
  | some order => some order
  | none => all.find? fun order => order.name = key

end Order

end ClassList
