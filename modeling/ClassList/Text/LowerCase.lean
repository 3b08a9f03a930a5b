import ClassList.Text

/-! Lower case, as far as it can lead to an ASCII letter. -/

namespace ClassList.Text

/-- The lower case of the characters whose lower case holds an ASCII letter: the ASCII capitals, the
capital I with a dot above, which becomes a small i followed by a combining dot, and the kelvin sign.
Every other character stays, so a text is recognised as an ASCII word just when its lower case in any
script is that word. -/
def lowerChar (c : Char) : Text :=
  if c = '\u0130' then ['i', '\u0307']
  else if c = '\u212A' then ['k']
  else [c.toLower]

def lower (s : Text) : Text := s.flatMap lowerChar

end ClassList.Text
