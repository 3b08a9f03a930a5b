/-! Binary floating-point numbers of 64 bits as exact values, and the rounding of a ratio of natural
numbers to the nearest of them. -/

namespace ClassList

/-- A finite number is `± significand · 2 ^ exponent`. The significand has at most 53 bits, and 53
exactly unless the exponent is the least one, `-1074`. -/
inductive Binary64 where
  | nan
  | infinity (negative : Bool)
  | finite (negative : Bool) (significand : Nat) (exponent : Int)
deriving DecidableEq

namespace Binary64

def isFinite : Binary64 → Bool
  | .finite .. => true
  | _ => false

/-- The natural number nearest to `num / den`; of two, the even one. -/
def roundRatio (num den : Nat) : Nat :=
  let whole := num / den
  let twice := 2 * (num % den)
  if twice < den ∨ (twice = den ∧ whole % 2 = 0) then whole else whole + 1

/-- Whether `2 ^ e ≤ num / den`. -/
def powerLe (e : Int) (num den : Nat) : Bool :=
  if 0 ≤ e then Nat.pow 2 e.toNat * den ≤ num else den ≤ num * Nat.pow 2 (-e).toNat

/-- The number nearest to `± num / den`, of two the one with an even significand. What rounds to
`2 ^ 1024` or more is infinite. -/
def ofRatio (negative : Bool) (num den : Nat) : Binary64 :=
  if num = 0 then .finite negative 0 (-1074)
  else
    let estimate : Int := (Nat.log2 num : Int) - Nat.log2 den
    let top := if powerLe estimate num den then estimate else estimate - 1
    let exponent := max (top - 52) (-1074)
    let significand :=
      if 0 ≤ exponent then roundRatio num (den * Nat.pow 2 exponent.toNat)
      else roundRatio (num * Nat.pow 2 (-exponent).toNat) den
    let carried := significand = Nat.pow 2 53
    let exponent := if carried then exponent + 1 else exponent
    let significand := if carried then Nat.pow 2 52 else significand
    if 971 < exponent then .infinity negative else .finite negative significand exponent

end Binary64

end ClassList
