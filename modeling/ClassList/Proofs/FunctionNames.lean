import Mathlib.Computability.Language
import ClassList.Options
import ClassList.Proofs.Words

/-! The names of functions as a language: identifiers with single dots between them. The check of a name
decides this language, except that it passes over one line feed at the end. -/

namespace ClassList

open Computability

/-- The texts of one character of a class. -/
def oneOf (p : Char → Bool) : Language Char := {s | ∃ c, p c = true ∧ s = [c]}

/-- A first character and any number of further ones. -/
def identifiers : Language Char := oneOf isIdentifierStart * (oneOf isIdentifierChar)∗

/-- An identifier and any number of further ones, each behind a dot. -/
def functionNames : Language Char := identifiers * ({['.']} * identifiers)∗

theorem mem_oneOf_kstar {p : Char → Bool} {s : Text} : s ∈ (oneOf p)∗ ↔ s.all p = true := by
  rw [Language.mem_kstar]
  constructor
  · rintro ⟨pieces, rfl, hpieces⟩
    rw [List.all_eq_true]
    intro c hc
    obtain ⟨piece, hpiece, hc⟩ := List.mem_flatten.mp hc
    obtain ⟨d, hd, rfl⟩ := hpieces piece hpiece
    rwa [List.mem_singleton.mp hc]
  · intro h
    refine ⟨s.map ([·]), (List.flatMap_singleton' s).symm, ?_⟩
    intro piece hpiece
    obtain ⟨c, hc, rfl⟩ := List.mem_map.mp hpiece
    exact ⟨c, List.all_eq_true.mp h c hc, rfl⟩

theorem mem_identifiers {s : Text} : s ∈ identifiers ↔ isIdentifier s = true := by
  rw [identifiers, Language.mem_mul]
  constructor
  · rintro ⟨_, ⟨c, hc, rfl⟩, rest, hrest, rfl⟩
    exact Bool.and_eq_true_iff.mpr ⟨hc, mem_oneOf_kstar.mp hrest⟩
  · intro h
    cases s with
    | nil => cases h
    | cons c rest =>
      obtain ⟨hc, hrest⟩ := Bool.and_eq_true_iff.mp h
      exact ⟨[c], ⟨c, hc, rfl⟩, rest, mem_oneOf_kstar.mpr hrest, rfl⟩

theorem of_mem_isIdentifier {s : Text} (h : isIdentifier s = true) {c : Char} (hc : c ∈ s) :
    isIdentifierStart c = true ∨ isIdentifierChar c = true := by
  cases s with
  | nil => cases hc
  | cons d rest =>
    obtain ⟨hstart, hrest⟩ := Bool.and_eq_true_iff.mp h
    rcases List.mem_cons.mp hc with rfl | hc
    · exact .inl hstart
    · exact .inr (List.all_eq_true.mp hrest c hc)

theorem intercalate_dots (first : Text) (rest : List Text) :
    List.intercalate ['.'] (first :: rest) = first ++ rest.flatMap ('.' :: ·) := by
  induction rest generalizing first with
  | nil => rw [List.intercalate_singleton, List.flatMap_nil, List.append_nil]
  | cons next rest ih =>
    rw [List.intercalate_cons_cons, ih, List.flatMap_cons]
    simp

theorem mem_dotted_kstar {s : Text} :
    s ∈ ({['.']} * identifiers)∗ ↔
      ∃ names : List Text, (∀ name ∈ names, isIdentifier name = true) ∧
        s = names.flatMap ('.' :: ·) := by
  rw [Language.mem_kstar]
  constructor
  · rintro ⟨pieces, rfl, hpieces⟩
    induction pieces with
    | nil => exact ⟨[], fun _ h => absurd h List.not_mem_nil, rfl⟩
    | cons piece pieces ih =>
      obtain ⟨_, rfl, name, hname, rfl⟩ := Language.mem_mul.mp (hpieces _ (List.mem_cons_self ..))
      obtain ⟨names, hnames, hrest⟩ := ih fun y hy => hpieces y (List.mem_cons_of_mem _ hy)
      refine ⟨name :: names, ?_, ?_⟩
      · exact List.forall_mem_cons.mpr ⟨mem_identifiers.mp hname, hnames⟩
      · rw [List.flatten_cons, hrest]
        rfl
  · rintro ⟨names, hnames, rfl⟩
    refine ⟨names.map ('.' :: ·), rfl, fun piece hpiece => ?_⟩
    obtain ⟨name, hname, rfl⟩ := List.mem_map.mp hpiece
    exact Language.mem_mul.mpr ⟨['.'], rfl, name, mem_identifiers.mpr (hnames name hname), rfl⟩

/-- A text is a function name if the pieces between its dots are identifiers. -/
theorem mem_functionNames {s : Text} :
    s ∈ functionNames ↔ (s.splitOn '.').all isIdentifier = true := by
  rw [functionNames, Language.mem_mul]
  constructor
  · rintro ⟨first, hfirst, _, hrest, rfl⟩
    obtain ⟨names, hnames, rfl⟩ := mem_dotted_kstar.mp hrest
    have hall : ∀ name ∈ first :: names, isIdentifier name = true :=
      List.forall_mem_cons.mpr ⟨mem_identifiers.mp hfirst, hnames⟩
    have hdots : ∀ name ∈ first :: names, '.' ∉ name := fun name hname hc =>
      absurd (of_mem_isIdentifier (hall name hname) hc) (by decide)
    rw [← intercalate_dots, List.splitOn_intercalate '.' hdots (List.cons_ne_nil _ _)]
    exact List.all_eq_true.mpr hall
  · intro h
    have hparts : List.intercalate ['.'] (s.splitOn '.') = s := List.intercalate_splitOn '.'
    cases hsplit : s.splitOn '.' with
    | nil => exact absurd hsplit (List.splitOn_ne_nil _ _)
    | cons first names =>
      rw [hsplit] at h hparts
      obtain ⟨hfirst, hnames⟩ := List.forall_mem_cons.mp (List.all_eq_true.mp h)
      refine ⟨first, mem_identifiers.mpr hfirst, _, mem_dotted_kstar.mpr ⟨names, hnames, rfl⟩, ?_⟩
      rw [← intercalate_dots, hparts]

/-- A character of a name is a dot or belongs to one of the identifiers. -/
theorem of_mem_functionNames {s : Text} (h : s ∈ functionNames) {c : Char} (hc : c ∈ s) :
    c = '.' ∨ isIdentifierStart c = true ∨ isIdentifierChar c = true := by
  have hparts : List.intercalate ['.'] (s.splitOn '.') = s := List.intercalate_splitOn '.'
  rw [← hparts] at hc
  rcases Text.mem_intercalate hc with hdot | ⟨name, hname, hc⟩
  · exact .inl (List.mem_singleton.mp hdot)
  · have hname := List.all_eq_true.mp (mem_functionNames.mp h) name hname
    exact .inr (of_mem_isIdentifier hname hc)

/-! ### Names hold no blanks -/

theorem Text.isBlank_of_isWordChar {c : Char} (h : isWordChar c = true) : isBlank c = false := by
  have hapart : Apart wordRanges blankRanges := by decide +kernel
  exact hapart.inRanges_eq_false h

theorem isBlank_of_isIdentifierStart {c : Char} (h : isIdentifierStart c = true) :
    Text.isBlank c = false := by
  have hapart : Text.Apart [(0x21, 0x7E)] Text.blankRanges := by decide
  refine hapart.inRanges_eq_false ?_
  simp only [isIdentifierStart, Bool.or_eq_true, Bool.and_eq_true, decide_eq_true_eq, Char.le_def,
    UInt32.le_iff_toNat_le] at h
  simp only [Text.inRanges, Bool.or_false, Bool.and_eq_true, decide_eq_true_eq]
  rcases h with ((hupper | hlower) | rfl) | rfl
  · exact ⟨Nat.le_trans (by decide) hupper.1, Nat.le_trans hupper.2 (by decide)⟩
  · exact ⟨Nat.le_trans (by decide) hlower.1, Nat.le_trans hlower.2 (by decide)⟩
  · decide
  · decide

theorem isBlank_of_isIdentifierChar {c : Char} (h : isIdentifierChar c = true) :
    Text.isBlank c = false := by
  rw [isIdentifierChar, Bool.or_eq_true, decide_eq_true_eq] at h
  rcases h with hword | rfl
  · exact Text.isBlank_of_isWordChar hword
  · rfl

theorem unbroken_of_mem_functionNames {name : Text} (h : name ∈ functionNames) :
    name.Unbroken := by
  intro c hc
  rcases of_mem_functionNames h hc with rfl | hstart | hchar
  · rfl
  · exact isBlank_of_isIdentifierStart hstart
  · exact isBlank_of_isIdentifierChar hchar

theorem not_mem_of_mem_functionNames {s : Text} (h : s ∈ functionNames) : '\n' ∉ s := fun hc =>
  absurd (unbroken_of_mem_functionNames h '\n' hc) (by decide)

/-! ### The check -/

/-- What passes the check is a function name, or one with a line feed behind it. -/
theorem isFunctionName_iff {s : Text} :
    isFunctionName s = true ↔ ∃ name ∈ functionNames, s = name ∨ s = name ++ ['\n'] := by
  rw [isFunctionName, ← mem_functionNames]
  constructor
  · intro h
    exact ⟨_, h, eq_withoutFinalLineFeed_or s⟩
  · rintro ⟨name, hname, rfl | rfl⟩
    · rwa [withoutFinalLineFeed_of_not_mem (not_mem_of_mem_functionNames hname)]
    · rwa [withoutFinalLineFeed_append]

end ClassList
