import ClassList.Number
import ClassList.Number.Shortest
import ClassList.Text.Quoted

/-! Option values of any type, before they are checked: their kinds, the two ways that messages show
them, and the comparisons that are defined between values of different kinds. -/

namespace ClassList

/-- A value as a configuration writes it. The entries of an object keep their order, and no two keys
are the same. -/
inductive Value where
  | null
  | bool (b : Bool)
  | int (i : Int)
  | float (x : Binary64)
  | text (s : Text)
  | list (items : List Value)
  | tuple (items : List Value)
  | octets (run : List UInt8)
  | object (entries : List (Value × Value))
deriving Inhabited

namespace Value

def typeName : Value → Text
  | .null => "NoneType"
  | .bool _ => "bool"
  | .int _ => "int"
  | .float _ => "float"
  | .text _ => "str"
  | .list _ => "list"
  | .tuple _ => "tuple"
  | .octets _ => "bytes"
  | .object _ => "dict"

/-- Powers of ten from `10 ^ -4` to `10 ^ 15` are written without an exponent, and exponents have two
digits at least. -/
def floatLayout : Layout := ⟨-4, 16, 2⟩

/-- A tuple of one item ends in a comma, so that it is told from an item in parentheses. -/
def tupleText : List Text → Text
  | [item] => '(' :: item ++ [',', ')']
  | items => '(' :: List.intercalate ", " items ++ [')']

mutual

/-- A value as messages quote it. -/
def inspect : Value → Text
  | .null => "None"
  | .bool b => if b then "True" else "False"
  | .int i => Text.ofInt i
  | .float x => floatLayout.text x
  | .text s => Text.Quoted.encode s
  | .list items => '[' :: List.intercalate ", " (inspectItems items) ++ [']']
  | .tuple items => tupleText (inspectItems items)
  | .octets run => Text.Quoted.encodeOctets run
  | .object entries => '\x7b' :: List.intercalate ", " (inspectEntries entries) ++ ['\x7d']

def inspectItems : List Value → List Text
  | [] => []
  | item :: items => inspect item :: inspectItems items

def inspectEntries : List (Value × Value) → List Text
  | [] => []
  | (key, item) :: entries => (inspect key ++ ": " ++ inspect item) :: inspectEntries entries

end

/-- A value as messages mention it: a text stands for itself. -/
def display : Value → Text
  | .text s => s
  | v => v.inspect

/-- Truth values count as the integers 0 and 1. -/
def number? : Value → Option Number
  | .bool b => some (.int (if b then 1 else 0))
  | .int i => some (.int i)
  | .float x => some (.float x)
  | _ => none

def text? : Value → Option Text
  | .text s => some s
  | _ => none

/-- The items of a list, a tuple or a run of octets. -/
def items? : Value → Option (List Value)
  | .list items => some items
  | .tuple items => some items
  | .octets run => some (run.map fun o => .int o.toNat)
  | _ => none

/-- What a walk through a value meets: the items of a sequence, the characters of a text, the keys of
an object. -/
def elements? : Value → Option (List Value)
  | .text s => some (s.map fun c => .text [c])
  | .object entries => some (entries.map Prod.fst)
  | v => v.items?

def isText (s : Text) : Value → Bool
  | .text t => t = s
  | _ => false

/-- Whether a text belongs to a value: as an item of a list or tuple, as a part of a text, as a key of
an object. -/
def hasText? : Value → Text → Option Bool
  | .list items, s => some (items.any (isText s))
  | .tuple items, s => some (items.any (isText s))
  | .text t, s => some (Text.hasPart s t)
  | .object entries, s => some (entries.any fun e => e.1.isText s)
  | _, _ => none

/-- Nothing, zero and what is empty are false. -/
def truthy : Value → Bool
  | .null => false
  | .text s => !s.isEmpty
  | .list items => !items.isEmpty
  | .tuple items => !items.isEmpty
  | .octets run => !run.isEmpty
  | .object entries => !entries.isEmpty
  | v => match v.number? with
    | some n => !n.same (.int 0)
    | none => true

mutual

/-- Whether a value can be a key: lists and objects cannot, nor can a tuple that holds one. -/
def isKey : Value → Bool
  | .list _ => false
  | .object _ => false
  | .tuple items => areKeys items
  | _ => true

def areKeys : List Value → Bool
  | [] => true
  | item :: items => isKey item && areKeys items

end

def sameNumber (v w : Value) : Bool :=
  match v.number?, w.number? with
  | some m, some n => m.same n
  | _, _ => false

mutual

/-- Whether two keys are the same. Numbers are compared by value, also across their types. -/
def sameKey : Value → Value → Bool
  | .null, .null => true
  | .text s, .text t => s = t
  | .octets s, .octets t => s = t
  | .tuple items, .tuple others => sameKeys items others
  | .bool b, w => sameNumber (.bool b) w
  | .int i, w => sameNumber (.int i) w
  | .float x, w => sameNumber (.float x) w
  | _, _ => false

def sameKeys : List Value → List Value → Bool
  | [], [] => true
  | item :: items, other :: others => sameKey item other && sameKeys items others
  | _, _ => false

end

/-- The entries with one more: a key that is there keeps its place and takes the new item. -/
def insert (key item : Value) : List (Value × Value) → List (Value × Value)
  | [] => [(key, item)]
  | (k, i) :: entries =>
    if k.sameKey key then (k, item) :: entries else (k, i) :: insert key item entries

/-- The object of a series of entries, of which the last with a key decides its item. -/
def ofEntries (entries : List (Value × Value)) : Value :=
  .object (entries.foldl (fun done e => insert e.1 e.2 done) [])

end Value

end ClassList
