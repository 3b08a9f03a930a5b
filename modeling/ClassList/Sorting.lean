import ClassList.Collation
import ClassList.Oracle
import ClassList.Token

/-! Sorting the classes of a group: by collation key in either direction, or by the answer of an
ordering oracle, from which no class is lost. -/

namespace ClassList

namespace Order

def read : Value → Except ConfigError Order
  | .text s =>
    match ofName? s with
    | some order => .ok order
    | none => .error (.unknownOrder s)
  | v => .error (.orderNotText v)

end Order

namespace Token

/-- The first level of the sort key that a collator gives to a class. -/
def collationKey (t : Token) (collator : Collator) : List Nat :=
  Collation.firstLevel (collator.sortKey t.original)

/-- Whether the collation key of `a` is at most that of `b`. Keys compare as lists, so a shorter key comes
before the keys that it begins. -/
def keyLe (collator : Collator) (a b : Token) : Bool :=
  !List.lex (b.collationKey collator) (a.collationKey collator) Nat.blt

def takeFirst? (name : Text) : List Token → Option (Token × List Token)
  | [] => none
  | t :: ts =>
    if t.original = name then some (t, ts)
    else (takeFirst? name ts).map fun (found, rest) => (found, t :: rest)

end Token

/-- The tokens that a list of names picks out of a stock: those found, in the order of the names, the
names that found none, and the tokens that stay behind, in stock order. -/
structure Selection where
  found : List Token
  ignored : List Text
  left : List Token
deriving DecidableEq

namespace Selection

/-- Serves the names in turn. Each takes the first token with that text that is still in stock. -/
def serve (stock : List Token) : List Text → Selection
  | [] => ⟨[], [], stock⟩
  | name :: names =>
    match Token.takeFirst? name stock with
    | some (t, stock) => let s := serve stock names; { s with found := t :: s.found }
    | none => let s := serve stock names; { s with ignored := name :: s.ignored }

def result (s : Selection) : List Token := s.found ++ s.left

/-- What is reported: each name ignored, then the number of tokens left behind, if any. -/
def events (s : Selection) : List Event :=
  s.ignored.map Event.nameIgnored ++
    if s.left.isEmpty then []
    else [.classesMissing s.found.length s.result.length s.left.length]

end Selection

namespace Order

/-- Puts tokens in the order that an oracle answers with. Without an oracle or a text for an answer,
they stay as they are. -/
def sortCanonical (oracle : Option Oracle) (tokens : List Token) : Run (List Token) := do
  match oracle with
  | none =>
    report [.oracleMissing]
    return tokens
  | some oracle =>
    match (← oracle.ask (joinOriginals tokens)).text with
    | .error reason =>
      report [.oracleFailed reason]
      return tokens
    | .ok names =>
      let selection := Selection.serve tokens (Text.words names)
      report selection.events
      return selection.result

/-- Sorts tokens. Tokens with equal keys keep their order in both directions. -/
def sort (order : Order) (collator : Collator) (oracle : Option Oracle) (tokens : List Token) :
    Run (List Token) :=
  match order with
  | .unsorted => return tokens
  | .ascending => return tokens.mergeSort (Token.keyLe collator)
  | .descending => return tokens.mergeSort fun a b => Token.keyLe collator b a
  | .canonical => sortCanonical oracle tokens

/-- Sorts tokens in the order that a value names. The value is not looked at if there is nothing to
sort. -/
def sortNamed (order : Value) (collator : Collator) (oracle : Option Oracle) (tokens : List Token) :
    Job (List Token) := do
  if tokens.isEmpty then return []
  let order ← Job.ofExcept (Failure.ofConfig (Order.read order))
  order.sort collator oracle tokens

end Order

end ClassList
