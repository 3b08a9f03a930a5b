import ClassList.Text

/-! Comment templates, with placeholders for the name, the number and the size of a group. -/

namespace ClassList

/-- What a comment says about a group: its name, its number among the groups shown, counted from one,
and how many classes it holds. -/
structure CommentVariables where
  groupName : Text
  index : Int
  count : Int
deriving DecidableEq

inductive Placeholder where
  | groupName
  | index
  | count
deriving DecidableEq

namespace Placeholder

def all : List Placeholder := [.groupName, .index, .count]

/-- How a template writes the placeholder. -/
def marker : Placeholder → Text
  | .groupName => "\x7bgroupName\x7d"
  | .index => "\x7bindex\x7d"
  | .count => "\x7bcount\x7d"

def value (v : CommentVariables) : Placeholder → Text
  | .groupName => v.groupName
  | .index => Text.ofInt v.index
  | .count => Text.ofInt v.count

/-- The placeholder that a text begins with, and the rest of the text. -/
def read? (s : Text) : Option (Placeholder × Text) :=
  all.findSome? fun p => (Text.after? p.marker s).map (p, ·)

theorem read?_eq_some {s rest : Text} {p : Placeholder} (h : read? s = some (p, rest)) :
    s = p.marker ++ rest := by
  obtain ⟨q, _, hq⟩ := List.exists_of_findSome?_eq_some h
  obtain ⟨r, hr, he⟩ := Option.map_eq_some_iff.mp hq
  cases he
  exact Text.after?_eq_some_iff.mp hr

end Placeholder

/-- Fills in a template in one pass from left to right. What is filled in is not looked at again, and
braces around anything else stay as they are. -/
def renderComment (v : CommentVariables) (template : Text) : Text :=
  match template with
  | [] => []
  | c :: cs =>
    match _h : Placeholder.read? (c :: cs) with
    | some (p, rest) => p.value v ++ renderComment v rest
    | none => c :: renderComment v cs
termination_by template.length
decreasing_by
  · have hlen := congrArg List.length (Placeholder.read?_eq_some _h)
    have : 0 < p.marker.length := by cases p <;> decide
    simp only [List.length_append] at hlen
    omega
  · simp

/-- Templates that go by a name. -/
def commentPresets : List (Text × Text) :=
  [("line", "// \x7bgroupName\x7d"), ("block", "/* \x7bgroupName\x7d */"),
    ("jsdoc", "/** \x7bgroupName\x7d */"), ("bracket", "// [\x7bgroupName\x7d]"),
    ("numbered", "// \x7bindex\x7d. \x7bgroupName\x7d"),
    ("verbose", "// \x7bgroupName\x7d (\x7bcount\x7d classes)")]

/-- The template of a preset. Any other text is a template itself. -/
def resolveTemplate (nameOrTemplate : Text) : Text :=
  (commentPresets.lookup nameOrTemplate).getD nameOrTemplate

def defaultTemplate : Text := "// \x7bgroupName\x7d"

end ClassList
