import ClassList.Collation

/-! The collation algorithm over any table: a text is put into canonical decomposition, cut into the longest
sequences that the table holds, and weighed by their elements. -/

namespace ClassList.Collation

/-- A collation element: a weight for each level, the primary one first. A weight of zero does not count. -/
abbrev Element := List Nat

/-- The weights that elements have at a level. -/
def levelWeights (level : Nat) (elements : List Element) : List Nat :=
  (elements.filterMap (·[level]?)).filter (· ≠ 0)

/-- The weights of a text, level by level, with a zero between one level and the next. -/
def sortKey (elements : List Element) : List Nat :=
  (List.range 4).flatMap fun level =>
    (if level = 0 then [] else [0]) ++ levelWeights level elements

/-- The data of a collation: the elements of the sequences of code points that have an entry, those of a
code point where no entry applies, and for the decomposition of texts what a code point is made of and
the class of a combining mark, which is zero for any other code point. -/
structure Table where
  lookup? : List Nat → Option (List Element)
  implicit : Nat → List Element
  decompose : Nat → List Nat
  combiningClass : Nat → Nat

/-- The elements at the start of a text and the text that remains. -/
structure Step where
  elements : List Element
  rest : List Nat

namespace Table

variable (table : Table)

/-- Puts a combining mark in front of a text in the order of their classes. Marks of one class keep
their order. -/
def placeMark (mark : Nat) : List Nat → List Nat
  | [] => [mark]
  | c :: cs =>
    if table.combiningClass c ≠ 0 ∧ table.combiningClass c < table.combiningClass mark then
      c :: placeMark mark cs
    else mark :: c :: cs

/-- Sorts every run of combining marks by class, without moving marks of one class past each other. -/
def orderMarks (cs : List Nat) : List Nat :=
  cs.foldr (fun c rest =>
    if table.combiningClass c = 0 then c :: rest else table.placeMark c rest) []

/-- The code points of a text in canonical decomposition. -/
def normalize (s : Text) : List Nat :=
  table.orderMarks ((s.map Char.toNat).flatMap table.decompose)

/-- The longest sequence at the start of a text that the table holds, and its elements. -/
def longestPrefix? (cs : List Nat) : Option (List Nat × List Element) :=
  (List.range' 1 cs.length).reverse.findSome? fun n =>
    (table.lookup? (cs.take n)).map (cs.take n, ·)

/-- The first combining mark that, behind the sequence `start`, makes an entry of the table. Marks are
tried while each has another class than the one before it and none is of class zero. The result is the
elements of the entry and the text without the mark. -/
def takeMark? (start : List Nat) : (last : Nat) → List Nat → Option (List Element × List Nat)
  | _, [] => none
  | last, c :: cs =>
    let mark := table.combiningClass c
    if mark = 0 ∨ mark = last then none
    else
      match table.lookup? (start ++ [c]) with
      | some elements => some (elements, cs)
      | none => (takeMark? start mark cs).map fun (elements, rest) => (elements, c :: rest)

/-- Takes the longest entry off the text `c :: cs`, extended by a combining mark where the table has it
so. Where there is no entry, the first code point has implicit elements. -/
def step (c : Nat) (cs : List Nat) : Step :=
  match table.longestPrefix? (c :: cs) with
  | some (start, elements) =>
    match table.takeMark? start 0 ((c :: cs).drop start.length) with
    | some (elements, rest) => ⟨elements, rest⟩
    | none => ⟨elements, (c :: cs).drop start.length⟩
  | none =>
    match table.takeMark? [] 0 (c :: cs) with
    | some (elements, rest) => ⟨elements, rest⟩
    | none => ⟨table.implicit c, cs⟩

variable {table}

theorem longestPrefix?_length {cs start : List Nat} {elements : List Element}
    (h : table.longestPrefix? cs = some (start, elements)) : 0 < start.length := by
  obtain ⟨n, hn, hw⟩ := List.exists_of_findSome?_eq_some h
  obtain ⟨_, _, he⟩ := Option.map_eq_some_iff.mp hw
  simp only [Prod.mk.injEq] at he
  simp only [List.mem_reverse, List.mem_range'_1] at hn
  simp only [← he.1, List.length_take]
  omega

theorem takeMark?_length {start cs rest : List Nat} {elements : List Element} {last : Nat}
    (h : table.takeMark? start last cs = some (elements, rest)) : rest.length + 1 = cs.length := by
  induction cs generalizing last elements rest with
  | nil => simp [takeMark?] at h
  | cons c cs ih =>
    simp only [takeMark?] at h
    split at h
    · simp at h
    · split at h
      · simp_all
      · obtain ⟨_, hr, he⟩ := Option.map_eq_some_iff.mp h
        simp only [Prod.mk.injEq] at he
        simp [← he.2, ih hr]

variable (table)

/-- A step takes one code point at least. -/
theorem step_length (c : Nat) (cs : List Nat) : (table.step c cs).rest.length ≤ cs.length := by
  unfold step
  split
  · next hentry =>
    have hpos := longestPrefix?_length hentry
    split
    · next hmark =>
      have := takeMark?_length hmark
      simp only [List.length_drop, List.length_cons] at this
      dsimp only
      omega
    · simp only [List.length_drop, List.length_cons]
      omega
  · split
    · next hmark =>
      have := takeMark?_length hmark
      simp only [List.length_cons] at this
      dsimp only
      omega
    · exact Nat.le_refl _

/-- The elements of a decomposed text, step by step. -/
def weigh : List Nat → List Element
  | [] => []
  | c :: cs => (table.step c cs).elements ++ weigh (table.step c cs).rest
termination_by cs => cs.length
decreasing_by exact Nat.lt_succ_of_le (table.step_length c cs)

/-- The collator that runs the algorithm on a table. -/
def collator : Collator where
  sortKey s := sortKey (table.weigh (table.normalize s))

end Table

end ClassList.Collation
