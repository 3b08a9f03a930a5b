import ClassList.Text

/-! Double-quoted literals in code. -/

namespace ClassList.Literal

/-- A quote or a backslash inside a literal has a backslash in front. -/
def escapeChar (c : Char) : Text := if c = '"' ∨ c = '\\' then ['\\', c] else [c]

def escape (s : Text) : Text := s.flatMap escapeChar

def quote (s : Text) : Text := '"' :: escape s ++ ['"']

/-- Reads the body of a literal up to its closing quote: a backslash takes the next character as it
is. The result is the text and what follows the quote. -/
def scan? : Text → Option (Text × Text)
  | [] => none
  | '"' :: rest => some ([], rest)
  | '\\' :: [] => none
  | '\\' :: c :: rest => (scan? rest).map fun (s, after) => (c :: s, after)
  | c :: rest => (scan? rest).map fun (s, after) => (c :: s, after)

end ClassList.Literal
