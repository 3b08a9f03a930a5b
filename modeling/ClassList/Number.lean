import ClassList.Number.Binary64

/-! Numbers of two kinds, integers of any size and floating-point numbers, compared by their exact
values. -/

namespace ClassList

inductive Number where
  | int (i : Int)
  | float (x : Binary64)
deriving DecidableEq

namespace Number

/-- A place on the extended line: a number `coefficient · 2 ^ exponent` or one of the two ends. -/
inductive Place where
  | bottom
  | point (coefficient exponent : Int)
  | top

/-- What is not a number has no place. -/
def place? : Number → Option Place
  | .int i => some (.point i 0)
  | .float .nan => none
  | .float (.infinity negative) => some (if negative then .bottom else .top)
  | .float (.finite negative significand exponent) =>
    some (.point (if negative then -(significand : Int) else significand) exponent)

def Place.le : Place → Place → Bool
  | .bottom, _ => true
  | _, .top => true
  | .point a e, .point b f =>
    let least := min e f
    decide (a * Nat.pow 2 (e - least).toNat ≤ b * Nat.pow 2 (f - least).toNat)
  | _, _ => false

/-- Order by value. What is not a number is in no relation, not even to itself. -/
def le (a b : Number) : Bool :=
  match a.place?, b.place? with
  | some p, some q => p.le q
  | _, _ => false

def lt (a b : Number) : Bool := a.le b && !b.le a

/-- Equality of values: an integer may equal a floating-point number, and both zeros are equal. -/
def same (a b : Number) : Bool := a.le b && b.le a

def isFinite : Number → Bool
  | .int _ => true
  | .float x => x.isFinite

end Number

end ClassList
