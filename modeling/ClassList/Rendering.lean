import ClassList.Comment
import ClassList.Grouping
import ClassList.Literal
import ClassList.Trace

/-! Rendering of a grouping as a call with one literal for each group that is not empty. -/

namespace ClassList

/-- How a call is laid out. The closing parenthesis stands two columns to the left of the arguments. -/
structure Style where
  indentWidth : Int := 2
  showGroupNames : Bool := true
  commentTemplate : Text := defaultTemplate
  utilityFunction : Text := "clsx"

namespace Style

/-- The arguments are indented by a repeated space, so the width of the indentation has to be an index. -/
def checkWidth (style : Style) : Except Failure Unit :=
  if Text.isIndex style.indentWidth then .ok () else .error (.notIndex style.indentWidth)

/-- The line that names a group. A comment without text leaves the line empty. -/
def commentLine (style : Style) (index : Nat) (g : Group) : Text :=
  let comment := renderComment ⟨g.name, index, g.size⟩ style.commentTemplate
  if comment.isEmpty then [] else Text.spaces style.indentWidth.toNat ++ comment

/-- The line that holds the classes of a group. A comma follows all but the last. -/
def literalLine (style : Style) (last : Bool) (classString : Text) : Text :=
  Text.spaces style.indentWidth.toNat ++ Literal.quote classString ++ (if last then [] else [','])

/-- The lines of the groups from number `index` on, each group with its class string. -/
def lines (style : Style) : (index : Nat) → List (Group × Text) → List Text
  | _, [] => []
  | index, (g, classString) :: rest =>
    (if style.showGroupNames then [style.commentLine index g] else []) ++
      style.literalLine rest.isEmpty classString :: style.lines (index + 1) rest

/-- The whole call. -/
def call (style : Style) (shown : List (Group × Text)) : Text :=
  style.utilityFunction ++ "(\n" ++ List.intercalate "\n" (style.lines 1 shown) ++ "\n" ++
    Text.spaces (style.indentWidth - 2).toNat ++ ")"

end Style

/-- A function that puts the classes of one group in another order. -/
abbrev Sorter := List Token → Job (List Token)

namespace Grouping

/-- The expression that stands for a grouping without classes. -/
def emptyExpression : Text := "\"\""

/-- The class string of a group, put in order first if there is a sorter. -/
def sortedString (sorter : Option Sorter) (g : Group) : Job Text :=
  match sorter with
  | some sort => do return g.classString (some (← sort g.classes))
  | none => return g.classString none

/-- Renders the groups that are not empty. The width of the indentation is checked before any group is
sorted. -/
def render (style : Style) (sorter : Option Sorter) (g : Grouping) : Job Text := do
  let shown := g.nonEmpty
  if shown.isEmpty then return emptyExpression
  Job.ofExcept style.checkWidth
  let strings ← shown.mapM (sortedString sorter)
  report [.groupsRendered shown.length g.size]
  return style.call (shown.zip strings)

end Grouping

end ClassList
