import ClassList.Number.Decimal

/-! The shortest decimal text of a floating-point number: the fewest digits that read back as the
number, and of those the digits nearest to it. -/

namespace ClassList

namespace Binary64

/-- The reals that round to `significand · 2 ^ exponent`, as bounds in units of a quarter of
`2 ^ exponent`. The bounds themselves round to it when the significand is even. -/
structure Rounding where
  exponent : Int
  low : Nat
  value : Nat
  high : Nat
  closed : Bool

/-- Below a power of two the numbers lie twice as close as above it. -/
def Rounding.of (significand : Nat) (exponent : Int) : Rounding where
  exponent := exponent
  low := 4 * significand - if significand = Nat.pow 2 52 ∧ -1074 < exponent then 1 else 2
  value := 4 * significand
  high := 4 * significand + 2
  closed := significand % 2 = 0

/-- On the grid of the multiples of `10 ^ place`, the neighbour of the value that rounds to it, if one
does. Of two, it is the nearer, and of two equally near the even one. -/
def Rounding.onGrid? (r : Rounding) (place : Int) : Option Nat :=
  let power := r.exponent - 2
  let unit := Nat.pow 2 power.toNat * Nat.pow 10 (-place).toNat
  let step := Nat.pow 10 place.toNat * Nat.pow 2 (-power).toNat
  let below := r.value * unit / step
  let within (n : Nat) : Bool :=
    if r.closed then r.low * unit ≤ n * step ∧ n * step ≤ r.high * unit
    else r.low * unit < n * step ∧ n * step < r.high * unit
  let toBelow := r.value * unit - below * step
  let toAbove := (below + 1) * step - r.value * unit
  let preferBelow := toBelow < toAbove ∨ (toBelow = toAbove ∧ below % 2 = 0)
  match 0 < below && within below, within (below + 1) with
  | true, true => some (if preferBelow then below else below + 1)
  | true, false => some below
  | false, true => some (below + 1)
  | false, false => none

/-- The first grid with a hit, from the coarse ones down. -/
def Rounding.search (r : Rounding) : (grids : Nat) → (place : Int) → Nat × Int
  | 0, place => (0, place)
  | grids + 1, place =>
    match r.onGrid? place with
    | some n => (n, place)
    | none => search r grids (place - 1)

/-- The shortest digits and the power of ten that they multiply. The search starts above the value
and needs seventeen digits at most. -/
def shortest (significand : Nat) (exponent : Int) : Nat × Int :=
  let bits : Int := Nat.log2 significand + exponent + 1
  (Rounding.of significand exponent).search 24 (Int.fdiv (bits * 30103) 100000 + 2)

end Binary64

/-- Choices of a notation: the powers of ten of a leading digit that are written without an exponent,
and the least number of digits of an exponent. -/
structure Layout where
  plainFrom : Int
  plainBelow : Int
  exponentDigits : Nat

namespace Layout

/-- Digits that multiply a power of ten, with at least one digit on both sides of the point, or with
an exponent behind the first digit. -/
def digits (layout : Layout) (digits : Nat) (place : Int) : Text :=
  let text := Text.ofNat digits
  let top := place + text.length - 1
  if layout.plainFrom ≤ top ∧ top < layout.plainBelow then
    if top < 0 then '0' :: '.' :: (List.replicate (-top - 1).toNat '0' ++ text)
    else if 0 ≤ place then text ++ List.replicate place.toNat '0' ++ ['.', '0']
    else text.take (top + 1).toNat ++ '.' :: text.drop (top + 1).toNat
  else
    let fraction := text.drop 1
    let exponent := Text.ofNat top.natAbs
    text.take 1 ++ (if fraction.isEmpty then [] else '.' :: fraction) ++
      'e' :: (if top < 0 then '-' else '+') ::
        (List.replicate (layout.exponentDigits - exponent.length) '0' ++ exponent)

/-- The text of a floating-point number. -/
def text (layout : Layout) : Binary64 → Text
  | .nan => "nan"
  | .infinity negative => if negative then "-inf" else "inf"
  | .finite negative significand exponent =>
    let magnitude :=
      if significand = 0 then ['0', '.', '0']
      else
        let (digits, place) := Binary64.shortest significand exponent
        layout.digits digits place
    if negative then '-' :: magnitude else magnitude

end Layout

end ClassList
