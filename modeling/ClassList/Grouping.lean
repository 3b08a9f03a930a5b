import ClassList.Error
import ClassList.Token

/-! Groups of classes, and groupings: the configured groups in their order, empty ones included. -/

namespace ClassList

structure Group where
  name : Text
  classes : List Token
deriving DecidableEq

namespace Group

/-- A group under a name, which has to be a text that is not blank. -/
def ofName (name : Value) (classes : List Token) : Except ConfigError Group :=
  match name with
  | .text s => if Text.isBlankText s then .error .blankGroupName else .ok ⟨s, classes⟩
  | _ => .error .blankGroupName

def empty (name : Value) : Except ConfigError Group := ofName name []

/-- The group with classes added at the end. -/
def addAll (g : Group) (tokens : List Token) : Group := { g with classes := g.classes ++ tokens }

def add (g : Group) (t : Token) : Group := g.addAll [t]

def size (g : Group) : Nat := g.classes.length

def isEmpty (g : Group) : Bool := g.classes.isEmpty

/-- The classes as one text, or others in their place. -/
def classString (g : Group) (sorted : Option (List Token)) : Text :=
  joinOriginals (sorted.getD g.classes)

end Group

/-- Which tokens belong to which group. -/
abbrev Assignments := List (Text × List Token)

namespace Assignments

/-- Adds a token at the end of what is assigned to a group. -/
def push (name : Text) (t : Token) : Assignments → Assignments
  | [] => [(name, [t])]
  | (n, tokens) :: rest =>
    if n = name then (n, tokens ++ [t]) :: rest else (n, tokens) :: push name t rest

/-- Sets what is assigned to a group. A name that is there keeps its place. -/
def set (name : Text) (tokens : List Token) : Assignments → Assignments
  | [] => [(name, tokens)]
  | (n, old) :: rest => if n = name then (n, tokens) :: rest else (n, old) :: set name tokens rest

end Assignments

/-- Where the group of each name stands. -/
abbrev Index := List (Text × Nat)

namespace Index

/-- An index with more entries at its end. A name that is there already must not come again. -/
def addAll (index : Index) : List (Text × Nat) → Except ConfigError Index
  | [] => .ok index
  | (name, position) :: entries =>
    if (index.lookup name).isSome then .error (.repeatedGroup name)
    else addAll (index ++ [(name, position)]) entries

def ofNames (names : List Text) : Except ConfigError Index := addAll [] names.zipIdx

end Index

structure Grouping where
  groups : List Group
deriving DecidableEq

namespace Grouping

/-- A grouping of groups with different names. -/
def ofGroups (groups : List Group) : Except ConfigError Grouping :=
  (Index.ofNames (groups.map Group.name)).map fun _ => ⟨groups⟩

/-- The empty groups with the given names. -/
def ofNames (names : Value) : Except Failure Grouping := do
  let some elements := names.elements? | .error (.notSequence names)
  let groups ← Failure.ofConfig (elements.mapM Group.empty)
  Failure.ofConfig (ofGroups groups)

/-- The group of one name, with what is assigned to it. -/
def assignedGroup (assignments : Assignments) (name : Value) : Except Failure Group :=
  if name.isKey then
    let tokens := match name with
      | .text s => (assignments.lookup s).getD []
      | _ => []
    Failure.ofConfig (Group.ofName name tokens)
  else .error (.notKey name)

/-- The assigned names that do not belong to the group names. -/
def unknownNames (names : Value) (assignments : Assignments) : Except Failure (List Text) :=
  (assignments.map Prod.fst).filterM fun name =>
    match names.hasText? name with
    | some known => .ok !known
    | none => .error (.notSequence names)

/-- The groups with the given names, each with the tokens assigned to it. Every assigned name has to
belong to the group names. -/
def ofAssignments (names : Value) (assignments : Assignments) : Except Failure Grouping := do
  let unknown ← unknownNames names assignments
  if unknown.isEmpty then
    let some elements := names.elements? | .error (.notSequence names)
    let groups ← elements.mapM (assignedGroup assignments)
    Failure.ofConfig (ofGroups groups)
  else .error (.unknownGroups unknown)

def names (g : Grouping) : List Text := g.groups.map Group.name

/-- The position of a name in the index of a grouping. -/
def position? (g : Grouping) (name : Text) : Option Nat :=
  (Index.ofNames g.names).toOption.bind (·.lookup name)

/-- The group at the position of a name. -/
def get (g : Grouping) (name : Text) : Except Failure Group :=
  match (g.position? name).bind (g.groups[·]?) with
  | some group => .ok group
  | none => .error (.noSuchGroup name)

/-- The grouping with a class added at the end of the group at the position of a name. -/
def add (g : Grouping) (name : Text) (t : Token) : Except Failure Grouping :=
  match g.position? name with
  | some position => Failure.ofConfig (ofGroups (g.groups.modify position (·.add t)))
  | none => .error (.unknownGroup name)

def nonEmpty (g : Grouping) : List Group := g.groups.filter (!·.isEmpty)

def size (g : Grouping) : Nat := g.groups.foldr (fun group n => group.size + n) 0

def allClasses (g : Grouping) : List Token := g.groups.flatMap Group.classes

def flatString (g : Grouping) : Text := joinOriginals g.allClasses

/-- Whether there are as many classes as the threshold asks for. -/
def meets (g : Grouping) (threshold : Value) : Except Failure Bool :=
  match threshold.number? with
  | some n => .ok (n.le (.int g.size))
  | none => .error (.notOrdered threshold)

/-- Whether two groupings have the same names and the same classes, in order. -/
def same (g h : Grouping) : Bool :=
  g.names = h.names &&
    g.groups.map (·.classes.map Token.original) = h.groups.map (·.classes.map Token.original)

end Grouping

end ClassList
