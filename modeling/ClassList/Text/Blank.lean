import ClassList.Text.Ranges

/-! Blank characters, the words between them, and texts without blanks at their ends. -/

namespace ClassList.Text

/-- The blank code points: the space separators and the characters that separate lines, paragraphs,
segments or white space in bidirectional text. -/
def blankRanges : List (Nat × Nat) :=
  [(0x9, 0xD), (0x1C, 0x20), (0x85, 0x85), (0xA0, 0xA0), (0x1680, 0x1680), (0x2000, 0x200A),
    (0x2028, 0x2029), (0x202F, 0x202F), (0x205F, 0x205F), (0x3000, 0x3000)]

def isBlank (c : Char) : Bool := inRanges blankRanges c.toNat

/-- The words of a text are its maximal runs of characters that are not blank. -/
def words (s : Text) : List Text := (s.splitOnP isBlank).filter (!·.isEmpty)

/-- The text without the blanks at both of its ends. -/
def strip (s : Text) : Text := ((s.dropWhile isBlank).reverse.dropWhile isBlank).reverse

def isBlankText (s : Text) : Bool := s.all isBlank

end ClassList.Text
