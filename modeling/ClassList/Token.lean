import ClassList.Text.Blank

/-! Utility classes: a class is cut at its colons into variant modifiers and a base, and a base may
carry an arbitrary value in brackets. -/

namespace ClassList

/-- A class as written, with its base and its modifiers from the outer to the inner one. -/
structure Token where
  original : Text
  base : Text
  modifiers : List Text
deriving DecidableEq

/-- A base such as `w-[500px]`, cut into its utility and the value in brackets. -/
structure Arbitrary where
  utility : Text
  value : Text
deriving DecidableEq

/-- The characters of a utility that can take an arbitrary value. -/
def isUtilityChar (c : Char) : Bool := ('a' ≤ c && c ≤ 'z') || c = '-'

/-- A text without the line feed that may end it. -/
def withoutFinalLineFeed (s : Text) : Text := if s.getLast? = some '\n' then s.dropLast else s

theorem withoutFinalLineFeed_append (s : Text) : withoutFinalLineFeed (s ++ ['\n']) = s := by
  rw [withoutFinalLineFeed, if_pos List.getLast?_concat, List.dropLast_concat]

theorem withoutFinalLineFeed_of_not_mem {s : Text} (h : '\n' ∉ s) : withoutFinalLineFeed s = s :=
  if_neg fun hlast => h (List.mem_of_getLast? hlast)

/-- A line feed at the end is all that is ever taken away. -/
theorem eq_withoutFinalLineFeed_or (s : Text) :
    s = withoutFinalLineFeed s ∨ s = withoutFinalLineFeed s ++ ['\n'] := by
  by_cases hlast : s.getLast? = some '\n'
  · obtain ⟨line, rfl⟩ := List.getLast?_eq_some_iff.mp hlast
    rw [withoutFinalLineFeed_append]
    exact .inr rfl
  · exact .inl (if_neg hlast).symm

/-- Cuts a base at its first opening bracket. The utility in front of the hyphen is not empty, and
neither is the value, which stays on one line and reaches to a closing bracket at the end. A line feed
after that bracket is passed over. -/
def Arbitrary.ofBase? (base : Text) : Option Arbitrary :=
  let line := withoutFinalLineFeed base
  let front := line.takeWhile (· ≠ '[')
  let back := (line.dropWhile (· ≠ '[')).drop 1
  let utility := front.dropLast
  let value := back.dropLast
  if front.getLast? = some '-' && back.getLast? = some ']' && !utility.isEmpty &&
      utility.all isUtilityChar && !value.isEmpty && !value.contains '\n' then
    some ⟨utility, value⟩
  else none

namespace Token

/-- What ends every modifier. -/
def delimiter : Char := ':'

/-- Cuts a class at every colon, also at those inside brackets. -/
def ofText (raw : Text) : Token :=
  let parts := raw.splitOn delimiter
  ⟨raw, parts.getLastD [], parts.dropLast⟩

def arbitrary? (t : Token) : Option Arbitrary := Arbitrary.ofBase? t.base

def isArbitrary (t : Token) : Bool := t.arbitrary?.isSome

/-- The base with a star in place of an arbitrary value. -/
def normalized (t : Token) : Text :=
  match t.arbitrary? with
  | some a => a.utility ++ ['-', '*']
  | none => t.base

def hasModifiers (t : Token) : Bool := !t.modifiers.isEmpty

/-- Whether two tokens are the same class: the text as written decides. -/
def same (a b : Token) : Bool := a.original = b.original

end Token

/-- The members of a list without repetitions, each at the place of its first occurrence. -/
def distinct {α : Type} (same : α → α → Bool) : List α → List α
  | [] => []
  | x :: xs => x :: (distinct same xs).filter fun y => !same x y

/-- The names of the classes in a class string. -/
def splitNames (classString : Text) : List Text := Text.words classString

/-- The names without repetitions, in the order of their first occurrences. -/
def deduplicate (names : List Text) : List Text := distinct (fun a b => a = b) names

/-- The originals with single spaces between them. -/
def joinOriginals (tokens : List Token) : Text := List.intercalate " " (tokens.map Token.original)

end ClassList
