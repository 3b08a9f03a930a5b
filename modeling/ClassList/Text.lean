/-! Texts and the operations on them that need no table of characters: decimal numerals, the search
for a part of a text, and replacement of every occurrence of a part. -/

namespace ClassList

/-- A text is the list of its code points, so that scanners recurse on it. -/
abbrev Text := List Char

instance : Coe String Text := ⟨String.toList⟩

namespace Text

def ofStrings (strings : List String) : List Text := strings.map String.toList

/-- The decimal numeral of a natural number. -/
def ofNat (n : Nat) : Text := Nat.toDigits 10 n

/-- The decimal numeral of an integer, with a minus sign in front of a negative one. -/
def ofInt : Int → Text
  | .ofNat n => ofNat n
  | .negSucc n => '-' :: ofNat (n + 1)

/-- The largest index of a text. -/
def largestIndex : Int := 9223372036854775807

/-- Whether an integer is an index, which has to fit into 64 bits with its sign. No text can be repeated
any other number of times. -/
def isIndex (n : Int) : Bool := -9223372036854775808 ≤ n && n ≤ largestIndex

/-- A run of `n` spaces, for an `n` that is an index. -/
def spaces (n : Nat) : Text := List.replicate n ' '

/-- Whether `a` is at most `b` in the order of code points. -/
def le (a b : Text) : Bool := !List.lex b a fun c d => c.toNat.blt d.toNat

/-- Whether `part` stands somewhere in the text without a gap. -/
def hasPart (part : Text) : Text → Bool
  | [] => part.isEmpty
  | c :: cs => part.isPrefixOf (c :: cs) || hasPart part cs

/-- The rest of the text after `part`, if the text begins with it. -/
def after? : (part : Text) → Text → Option Text
  | [], s => some s
  | _ :: _, [] => none
  | p :: ps, c :: cs => if p = c then after? ps cs else none

theorem after?_eq_some_iff {part s rest : Text} : after? part s = some rest ↔ s = part ++ rest := by
  induction part generalizing s with
  | nil => simp [after?, eq_comm]
  | cons p ps ih =>
    cases s with
    | nil => simp [after?]
    | cons c cs =>
      by_cases h : p = c
      · simp [after?, h, ih]
      · simp [after?, h, Ne.symm h]

/-- The occurrences of `old`, found from left to right without overlap, become `new`. An empty `old`
occurs nowhere. -/
def replaceAll (old new : Text) (s : Text) : Text :=
  match s with
  | [] => []
  | c :: cs =>
    match old with
    | [] => c :: cs
    | o :: os =>
      match _h : after? (o :: os) (c :: cs) with
      | some rest => new ++ replaceAll (o :: os) new rest
      | none => c :: replaceAll (o :: os) new cs
termination_by s.length
decreasing_by
  · have := congrArg List.length (after?_eq_some_iff.mp _h)
    simp at this ⊢
    omega
  · simp

end Text

end ClassList
