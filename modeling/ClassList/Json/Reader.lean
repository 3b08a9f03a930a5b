import ClassList.Text.Hex
import ClassList.Value

/-! A reader of JSON documents that also takes the numbers NaN, Infinity and -Infinity. A key that an
object repeats keeps its first place and its last item. -/

namespace ClassList.Json

def isSpace (c : Char) : Bool := c = ' ' || c = '\t' || c = '\n' || c = '\r'

def skipSpace (s : Text) : Text := s.dropWhile isSpace

/-- The value of four hexadecimal digits, with the rest of the text. -/
def readUnit? (s : Text) : Option (Nat × Text) :=
  if (s.take 4).length = 4 then (Text.ofHex? (s.take 4)).map (·, s.drop 4) else none

/-- The character of a code point. A surrogate is none, and shows as the replacement character. -/
def character (code : Nat) : Char :=
  if 0xD800 ≤ code ∧ code < 0xE000 then '\ufffd' else Char.ofNat code

/-- The character behind a backslash and a `u`. A high surrogate joins with an escaped low one that
follows it. -/
def readEscapedUnit? (s : Text) : Option (Char × Text) := do
  let (high, rest) ← readUnit? s
  if 0xD800 ≤ high ∧ high < 0xDC00 then
    match rest with
    | '\\' :: 'u' :: more =>
      match readUnit? more with
      | some (low, tail) =>
        if 0xDC00 ≤ low ∧ low < 0xE000 then
          some (character (0x10000 + (high - 0xD800) * 0x400 + (low - 0xDC00)), tail)
        else some (character high, rest)
      | none => some (character high, rest)
    | _ => some (character high, rest)
  else some (character high, rest)

def readEscape? : Text → Option (Char × Text)
  | '"' :: s => some ('"', s)
  | '\\' :: s => some ('\\', s)
  | '/' :: s => some ('/', s)
  | 'b' :: s => some ('\x08', s)
  | 'f' :: s => some ('\x0c', s)
  | 'n' :: s => some ('\n', s)
  | 'r' :: s => some ('\r', s)
  | 't' :: s => some ('\t', s)
  | 'u' :: s => readEscapedUnit? s
  | _ => none

/-- The characters up to the closing quote of a string, with the rest of the text. Control characters
have to be escaped. -/
def readString? : (fuel : Nat) → Text → Option (Text × Text)
  | 0, _ => none
  | _ + 1, [] => none
  | fuel + 1, c :: s =>
    if c = '"' then some ([], s)
    else if c = '\\' then do
      let (e, s) ← readEscape? s
      let (content, s) ← readString? fuel s
      some (e :: content, s)
    else if c.toNat < 0x20 then none
    else do
      let (content, s) ← readString? fuel s
      some (c :: content, s)

/-- The digits before the point: a zero stands alone. -/
def readWhole? : Text → Option (Nat × Text)
  | '0' :: s => some (0, s)
  | s => (Decimal.readDigits? s).map fun (n, _, rest) => (n, rest)

/-- A number without its sign. It is an integer unless it has a fraction or an exponent. -/
def readNumber? (negative : Bool) (s : Text) : Option (Value × Text) := do
  let (whole, s) ← readWhole? s
  let (digits, places, s, plain) := match Decimal.readFraction? s with
    | some (fraction, places, rest) => (whole * Nat.pow 10 places + fraction, places, rest, false)
    | none => (whole, 0, s, true)
  match Decimal.readExponent? s with
  | some (exponent, rest) =>
    some (.float (Decimal.toBinary64 ⟨negative, digits, exponent - places⟩), rest)
  | none =>
    if plain then some (.int (if negative then -(digits : Int) else digits), s)
    else some (.float (Decimal.toBinary64 ⟨negative, digits, -(places : Int)⟩), s)

def words : List (Text × Value) :=
  [("null", .null), ("true", .bool true), ("false", .bool false), ("NaN", .float .nan),
    ("Infinity", .float (.infinity false)), ("-Infinity", .float (.infinity true))]

def readWord? (s : Text) : Option (Value × Text) :=
  words.findSome? fun (word, value) => (Text.after? word s).map (value, ·)

mutual

/-- One value at the start of a text. Each step down takes a unit of fuel, and at most two steps stand
between two characters read. -/
def readValue? : (fuel : Nat) → Text → Option (Value × Text)
  | 0, _ => none
  | fuel + 1, s =>
    match s with
    | '"' :: s => (readString? (s.length + 1) s).map fun (content, rest) => (.text content, rest)
    | '[' :: s =>
      match skipSpace s with
      | ']' :: s => some (.list [], s)
      | s => (readItems? fuel s).map fun (items, rest) => (.list items, rest)
    | '\x7b' :: s =>
      match skipSpace s with
      | '\x7d' :: s => some (.object [], s)
      | s => (readMembers? fuel s).map fun (entries, rest) => (Value.ofEntries entries, rest)
    | s =>
      match readWord? s with
      | some result => some result
      | none =>
        match s with
        | '-' :: s => readNumber? true s
        | s => readNumber? false s

/-- The items of a list that is not empty, up to its closing bracket. -/
def readItems? : (fuel : Nat) → Text → Option (List Value × Text)
  | 0, _ => none
  | fuel + 1, s => do
    let (item, s) ← readValue? fuel s
    match skipSpace s with
    | ',' :: s => do
      let (items, s) ← readItems? fuel (skipSpace s)
      some (item :: items, s)
    | ']' :: s => some ([item], s)
    | _ => none

/-- The members of an object that is not empty, up to its closing brace. -/
def readMembers? : (fuel : Nat) → Text → Option (List (Value × Value) × Text)
  | 0, _ => none
  | fuel + 1, s =>
    match s with
    | '"' :: s => do
      let (key, s) ← readString? (s.length + 1) s
      match skipSpace s with
      | ':' :: s => do
        let (item, s) ← readValue? fuel (skipSpace s)
        match skipSpace s with
        | ',' :: s => do
          let (entries, s) ← readMembers? fuel (skipSpace s)
          some ((.text key, item) :: entries, s)
        | '\x7d' :: s => some ([(.text key, item)], s)
        | _ => none
      | _ => none
    | _ => none

end

/-- The value of a document: one value with white space around it and nothing else. -/
def read? (s : Text) : Option Value :=
  match readValue? (2 * s.length + 2) (skipSpace s) with
  | some (value, rest) => if (skipSpace rest).isEmpty then some value else none
  | none => none

end ClassList.Json
