import ClassList.Text.Hex
import ClassList.Text.Printable

/-! The quoted form of a text or of a run of octets, as messages show it. -/

namespace ClassList.Text.Quoted

/-- Double quotes only around what holds a single quote and no double quote. -/
def mark (s : Text) : Char := if s.contains '\'' && !s.contains '"' then '"' else '\''

/-- The escapes that the two forms share, around `other` for the characters with none. -/
def escapeChar (quote : Char) (other : Char → Text) (c : Char) : Text :=
  if c = quote ∨ c = '\\' then ['\\', c]
  else if c = '\n' then ['\\', 'n']
  else if c = '\r' then ['\\', 'r']
  else if c = '\t' then ['\\', 't']
  else other c

/-- A character that cannot be printed shows as the shortest of three numeric escapes. -/
def numeric (c : Char) : Text :=
  if c.toNat < 0x100 then '\\' :: 'x' :: hex 2 c.toNat
  else if c.toNat < 0x10000 then '\\' :: 'u' :: hex 4 c.toNat
  else '\\' :: 'U' :: hex 8 c.toNat

/-- The quoted form of a text. -/
def encode (s : Text) : Text :=
  let quote := mark s
  quote :: s.flatMap (escapeChar quote fun c => if isPrintable c then [c] else numeric c) ++ [quote]

/-- The quoted form of octets: those of printable ASCII characters show as the characters. -/
def encodeOctets (octets : List UInt8) : Text :=
  let s := octets.map fun o => Char.ofNat o.toNat
  let quote := mark s
  'b' :: quote :: s.flatMap (escapeChar quote fun c =>
    if 0x20 ≤ c.toNat ∧ c.toNat < 0x7F then [c] else numeric c) ++ [quote]

end ClassList.Text.Quoted
