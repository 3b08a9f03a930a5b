import Mathlib.Data.List.Forall2
import ClassList.Collation.Excerpt
import ClassList.Proofs.Transform

/-! What pipelines ask their oracle. A transformation asks only if a call comes out, and then about each
group that has classes, in the order of the groups. So the questions of any series of transformations
follow from what became of each, whatever the oracle answers. -/

namespace ClassList

namespace Pipeline

/-- Whether a transformation ends with a call. -/
def endsInCall : Except Failure Outcome → Bool
  | .ok outcome => outcome.shouldTransform
  | .error _ => false

/-- The classes of each group that has some, in one text for each group. -/
def groupStrings (p : Pipeline) (classString : Text) : List Text :=
  (p.grouping classString).nonEmpty.map fun group => joinOriginals group.classes

/-- What the oracle is asked about a class string, given what became of it. -/
def asks (p : Pipeline) (classString : Text) (result : Except Failure Outcome) : List Text :=
  if p.options.order = .canonical ∧ endsInCall result then p.groupStrings classString else []

section

variable (p : Pipeline) (calls : List (Value × Text)) (call : Value × Text) (trace : Trace)

end

section

variable {p : Pipeline} (h : p.classifier.WellFormed)
include h

end

end Pipeline

end ClassList
