import ClassList.Proofs.Parts
import ClassList.Proofs.Search

/-! Bases that end in a value in brackets. A base is written by a utility and a value in one way at most, so
it makes no difference how a search for the two goes about it, and a base is cut just when it is written
in this way. A normalized base is written by none. -/

namespace ClassList

namespace Arbitrary

open Expression

/-- The base is the utility, a hyphen and the value in brackets. -/
structure Spells (a : Arbitrary) (base : Text) : Prop where
  utility_ne_nil : a.utility ≠ []
  utility_chars : ∀ c ∈ a.utility, isUtilityChar c = true
  value_ne_nil : a.value ≠ []
  base_eq : base = a.toBase

/-- A utility, a hyphen and a bracket, a value on one line, and a bracket at the end. The preferences are
those for the utility and for the value. -/
def expression (first second : Preference) : List Piece :=
  [.run first isUtilityChar, .exactly ['-', '['], .run second (· ≠ '\n'), .exactly [']'], .lineEnd]

/-- What the pieces of the expression take. -/
def texts (a : Arbitrary) : List Text := [a.utility, ['-', '['], a.value, [']'], []]

section Forms

variable {a b : Arbitrary} {base : Text} {first second : Preference}

theorem spells_iff (hline : '\n' ∉ base) : a.Spells base ↔ ofBase? base = some a := by
  rw [ofBase?_eq_some_iff]
  constructor
  · intro h
    have hvalue : '\n' ∉ a.value := fun hmem => hline (by simp [h.base_eq, toBase, hmem])
    exact ⟨⟨h.utility_ne_nil, h.utility_chars, h.value_ne_nil, hvalue⟩, .inl h.base_eq⟩
  · rintro ⟨h, hbase | rfl⟩
    · exact ⟨h.utility_ne_nil, h.utility_chars, h.value_ne_nil, hbase⟩
    · exact absurd (List.mem_append_right _ (List.mem_singleton.mpr rfl)) hline

theorem Spells.unique (ha : a.Spells base) (hb : b.Spells base) (hline : '\n' ∉ base) : b = a :=
  Option.some.inj (((spells_iff hline).mp hb).symm.trans ((spells_iff hline).mp ha))

theorem Spells.idxOf_bracket (h : a.Spells base) : base.idxOf '[' = a.utility.length + 1 := by
  rw [h.base_eq, toBase_eq_append,
    List.idxOf_append_of_notMem (bracket_not_mem_front h.utility_chars), List.idxOf_cons_self,
    List.length_append, List.length_singleton, Nat.add_zero]

theorem WellFormed.matches_expression (h : a.WellFormed) {rest : Text}
    (hrest : rest = [] ∨ rest = ['\n']) :
    Matches (expression first second) a.texts (a.toBase ++ rest) := by
  have hline : ∀ c ∈ a.value, decide (c ≠ '\n') = true := fun c hc =>
    decide_eq_true fun heq => h.value_line (heq ▸ hc)
  have hmatch : Matches (expression first second) a.texts
      (a.utility ++ (['-', '['] ++ (a.value ++ ([']'] ++ ([] ++ rest))))) :=
    .cons ⟨h.utility_ne_nil, h.utility_chars⟩ <| .cons rfl <| .cons ⟨h.value_ne_nil, hline⟩ <|
      .cons rfl <| .cons ⟨rfl, hrest⟩ .nil
  simpa [toBase] using hmatch

/-- A match of the expression is a way to write the base, also with a line feed behind. -/
theorem exists_of_matches {found : List Text} (h : Matches (expression first second) found base) :
    ∃ a : Arbitrary, a.WellFormed ∧ found = a.texts ∧
      (base = a.toBase ∨ base = a.toBase ++ ['\n']) := by
  -- What each piece has taken, in turn.
  obtain _ | ⟨⟨hutility, hchars⟩, h⟩ := h
  obtain _ | ⟨hopen, h⟩ := h
  obtain _ | ⟨⟨hvalue, hline⟩, h⟩ := h
  obtain _ | ⟨hclose, h⟩ := h
  obtain _ | ⟨⟨hend, hrest⟩, h⟩ := h
  cases h
  subst hopen hclose hend
  rename_i utility value rest
  refine ⟨⟨utility, value⟩, ⟨hutility, hchars, hvalue, fun hmem => ?_⟩, rfl, ?_⟩
  · exact absurd (hline _ hmem) (by decide)
  · rcases hrest with rfl | rfl
    · exact .inl (by simp [toBase])
    · exact .inr (by simp [toBase])

/-- Every search finds what the base is cut into, and nothing else. -/
theorem mem_search_expression_iff {found : List Text} :
    found ∈ search (expression first second) base ↔
      ∃ a, ofBase? base = some a ∧ found = a.texts := by
  rw [mem_search_iff]
  constructor
  · intro h
    obtain ⟨a, hwell, hfound, hbase⟩ := exists_of_matches h
    exact ⟨a, ofBase?_eq_some_iff.mpr ⟨hwell, hbase⟩, hfound⟩
  · rintro ⟨a, ha, rfl⟩
    obtain ⟨hwell, rfl | rfl⟩ := ofBase?_eq_some_iff.mp ha
    · simpa using hwell.matches_expression (.inl rfl)
    · exact hwell.matches_expression (.inr rfl)

example : search (expression .longest .shortest) "a-[b]-[c]]" =
    [Text.ofStrings ["a", "-[", "b]-[c]", "]", ""]] := by decide

theorem ofBase?_concat_star (s : Text) : ofBase? (s ++ ['*']) = none := by
  rw [Option.eq_none_iff_forall_ne_some]
  intro a ha
  have hlast : (s ++ ['*']).getLast? = some '*' := List.getLast?_concat
  obtain ⟨-, hbase | hbase⟩ := ofBase?_eq_some_iff.mp ha
  · rw [hbase, getLast?_toBase] at hlast
    cases hlast
  · rw [hbase, List.getLast?_concat] at hlast
    cases hlast

end Forms

end Arbitrary

namespace Token

open Arbitrary Expression

variable {t u : Token}

theorem isArbitrary_iff (hline : '\n' ∉ t.base) :
    t.isArbitrary = true ↔ ∃ a : Arbitrary, a.Spells t.base := by
  simp only [spells_iff hline]
  exact Option.isSome_iff_exists

/-- A normalized base ends in a star, or it is a base that is not cut. -/
theorem ofBase?_normalized (t : Token) : ofBase? t.normalized = none := by
  cases harbitrary : t.arbitrary? with
  | none => rwa [normalized_eq_base harbitrary]
  | some a =>
    have hstar : t.normalized = (a.utility ++ ['-']) ++ ['*'] := by
      simp [normalized_of_arbitrary? harbitrary]
    rw [hstar, ofBase?_concat_star]

theorem line_of_mem_splitNames {classString name : Text} (h : name ∈ splitNames classString) :
    '\n' ∉ (ofText name).base := by
  intro hmem
  obtain ⟨front, -, hname⟩ := exists_variantPart name
  have hblank := (Text.isWord_of_mem_words h).unbroken '\n' (hname ▸ List.mem_append_right front hmem)
  exact absurd hblank (by decide)

/-- On one line, a base has a value in brackets just when it is written by a utility and a value. There is
one way to write it so, in which the first bracket of the base opens the value, and every search finds
just that one, whichever runs it tries first. The normalized base is then the utility with a wildcard, and
if there is no such way it is the base. Normalized bases stay as they are, and the bases of the names in a
class string are on one line. -/
theorem isArbitrary_exact :
    (∀ t : Token, '\n' ∉ t.base →
      (t.isArbitrary = true ↔ ∃ a : Arbitrary, a.Spells t.base) ∧
      (∀ a : Arbitrary, a.Spells t.base →
        (∀ b : Arbitrary, b.Spells t.base → b = a) ∧
        t.base.idxOf '[' = a.utility.length + 1 ∧
        (∀ first second found,
          found ∈ search (expression first second) t.base ↔ found = a.texts) ∧
        t.normalized = a.utility ++ ['-', '*']) ∧
      ((¬∃ a : Arbitrary, a.Spells t.base) →
        (∀ first second, search (expression first second) t.base = []) ∧
        t.normalized = t.base)) ∧
    (∀ t u : Token, u.base = t.normalized → u.normalized = u.base) ∧
    ∀ classString, ∀ name ∈ splitNames classString, '\n' ∉ (ofText name).base := by
  refine ⟨fun t hline => ⟨isArbitrary_iff hline, fun a ha => ?_, fun hnone => ?_⟩, fun t u h => ?_,
    fun _ _ => line_of_mem_splitNames⟩
  · have hbase : ofBase? t.base = some a := (spells_iff hline).mp ha
    refine ⟨fun b hb => ha.unique hb hline, ha.idxOf_bracket, fun first second found => ?_,
      normalized_of_arbitrary? hbase⟩
    simp [mem_search_expression_iff, hbase]
  · have hbase : ofBase? t.base = none := by
      rw [Option.eq_none_iff_forall_ne_some]
      exact fun a ha => hnone ⟨a, (spells_iff hline).mpr ha⟩
    refine ⟨fun first second => List.eq_nil_iff_forall_not_mem.mpr fun found => ?_,
      normalized_eq_base hbase⟩
    simp [mem_search_expression_iff, hbase]
  · refine normalized_eq_base ?_
    rw [arbitrary?, h, ofBase?_normalized]

/-- A utility that is a hyphen in front of a hyphen, and a value that holds brackets and a hyphen between
them, next to brackets without a value. -/
theorem isArbitrary_exact_hyphens :
    let t := ofText "md:--[x-[]]"
    let u := ofText "w-[]"
    "md:--[x-[]]".toList ∈ splitNames "flex\nmd:--[x-[]]" ∧ '\n' ∉ t.base ∧
      Arbitrary.Spells ⟨"-", "x-[]"⟩ t.base ∧ t.isArbitrary = true ∧
      (∀ b : Arbitrary, b.Spells t.base → b = ⟨"-", "x-[]"⟩) ∧ t.base.idxOf '[' = 2 ∧
      Arbitrary.texts ⟨"-", "x-[]"⟩ ∈ search (expression .shortest .longest) t.base ∧
      t.normalized = "--*".toList ∧ (ofText "--*").normalized = "--*".toList ∧
      u.isArbitrary = false ∧ search (expression .shortest .longest) u.base = [] ∧
      u.normalized = "w-[]".toList := by
  intro t u
  obtain ⟨hrecognized, hstable, hlines⟩ := isArbitrary_exact
  have hname : "md:--[x-[]]".toList ∈ splitNames "flex\nmd:--[x-[]]" := by decide
  have hline : '\n' ∉ t.base := hlines _ _ hname
  have hspells : Arbitrary.Spells ⟨"-", "x-[]"⟩ t.base :=
    ⟨by decide, List.all_eq_true.mp rfl, by decide, by decide⟩
  obtain ⟨hiff, hways, -⟩ := hrecognized t hline
  obtain ⟨hunique, hplace, hfound, hnormalized⟩ := hways _ hspells
  obtain ⟨hiff', -, hnone⟩ := hrecognized u (by decide)
  have hplain : ¬u.isArbitrary = true := by decide
  obtain ⟨hnothing, hunchanged⟩ := hnone (mt hiff'.mpr hplain)
  exact ⟨hname, hline, hspells, hiff.mpr ⟨_, hspells⟩, hunique, hplace, (hfound _ _ _).mpr rfl,
    hnormalized, hstable t (ofText "--*") (by rw [hnormalized]; decide), Bool.eq_false_iff.mpr hplain,
    hnothing _ _, hunchanged⟩

end Token

end ClassList
