import ClassList.Number.Binary64
import ClassList.Text

/-! Decimal numbers: their value as floating-point numbers, and the pieces of their numerals. -/

namespace ClassList

/-- The number `± digits · 10 ^ exponent`. -/
structure Decimal where
  negative : Bool
  digits : Nat
  exponent : Int
deriving DecidableEq

namespace Decimal

/-- The nearest floating-point number. Past four hundred places before or behind the point every
value is infinite or zero, so powers of ten stay within that. -/
def toBinary64 (d : Decimal) : Binary64 :=
  let places : Int := (Text.ofNat d.digits).length + d.exponent
  if d.digits = 0 ∨ places < -400 then .ofRatio d.negative 0 1
  else if 400 < places then .infinity d.negative
  else if 0 ≤ d.exponent then .ofRatio d.negative (d.digits * Nat.pow 10 d.exponent.toNat) 1
  else .ofRatio d.negative d.digits (Nat.pow 10 (-d.exponent).toNat)

/-- The numeral of one or more digits at the start of a text, with the number of its digits and the
rest of the text. -/
def readDigits? (s : Text) : Option (Nat × Nat × Text) :=
  let digits := s.takeWhile Char.isDigit
  if digits.isEmpty then none
  else some (digits.foldl (fun n c => 10 * n + (c.toNat - 48)) 0, digits.length,
    s.dropWhile Char.isDigit)

/-- A point with digits behind it, if the text begins with one. -/
def readFraction? : Text → Option (Nat × Nat × Text)
  | '.' :: s => readDigits? s
  | _ => none

/-- An exponent, with its sign, if the text begins with one. -/
def readExponent? : Text → Option (Int × Text)
  | [] => none
  | e :: s =>
    if e = 'e' ∨ e = 'E' then
      match s with
      | '+' :: s => (readDigits? s).map fun (n, _, rest) => ((n : Int), rest)
      | '-' :: s => (readDigits? s).map fun (n, _, rest) => (-(n : Int), rest)
      | s => (readDigits? s).map fun (n, _, rest) => ((n : Int), rest)
    else none

end Decimal

end ClassList
