import ClassList.Text

/-! Collation keys. A collation package weighs texts, and of the weights only those of the first level
count: letters compare without regard to case and accents. -/

namespace ClassList

/-- A collation package: it gives each text a sort key, which lists the weights of the text level by level,
with a zero between one level and the next. -/
structure Collator where
  sortKey : Text → List Nat

namespace Collation

/-- A sort key up to its first zero. -/
def firstLevel (key : List Nat) : List Nat := key.takeWhile (· ≠ 0)

end Collation

end ClassList
