import Mathlib.Data.List.Basic
import ClassList.Token

/-! How classes are cut. The base is what stands behind the last colon, and a base that is written with a
value in brackets is cut at its first bracket, whatever brackets the value holds. -/

namespace ClassList

namespace Token

/-- What can stand in front of a base: nothing, or a text that ends in a colon. -/
def IsVariantPart (front : Text) : Prop := front = [] ∨ front.getLast? = some delimiter

theorem ofText_of_not_mem {raw : Text} (h : delimiter ∉ raw) : ofText raw = ⟨raw, raw, []⟩ := by
  simp [ofText, List.splitOn_eq_singleton h]

theorem base_ofText_append {front base : Text} (hfront : IsVariantPart front)
    (hbase : delimiter ∉ base) : (ofText (front ++ base)).base = base := by
  rcases hfront with rfl | hlast
  · rw [List.nil_append, ofText_of_not_mem hbase]
  · rw [← List.dropLast_append_getLast? _ hlast, List.append_assoc, List.singleton_append]
    simp [ofText, List.splitOn_append_cons_self, List.splitOn_eq_singleton hbase]

theorem normalized_of_arbitrary? {t : Token} {a : Arbitrary} (h : t.arbitrary? = some a) :
    t.normalized = a.utility ++ ['-', '*'] := by
  rw [normalized, h]

theorem normalized_eq_base {t : Token} (h : t.arbitrary? = none) : t.normalized = t.base := by
  rw [normalized, h]

end Token

namespace Arbitrary

/-- The base that writes a utility with a value. -/
def toBase (a : Arbitrary) : Text := a.utility ++ '-' :: '[' :: (a.value ++ [']'])

/-- A utility that can take a value, and a value that stays on one line. -/
structure WellFormed (a : Arbitrary) : Prop where
  utility_ne_nil : a.utility ≠ []
  utility_chars : ∀ c ∈ a.utility, isUtilityChar c = true
  value_ne_nil : a.value ≠ []
  value_line : '\n' ∉ a.value

variable {a : Arbitrary}

theorem toBase_eq_append (a : Arbitrary) :
    a.toBase = (a.utility ++ ['-']) ++ '[' :: (a.value ++ [']']) := by
  simp [toBase]

theorem getLast?_toBase (a : Arbitrary) : a.toBase.getLast? = some ']' := by
  rw [toBase, ← List.cons_append, ← List.cons_append, ← List.append_assoc, List.getLast?_concat]

theorem withoutFinalLineFeed_toBase (a : Arbitrary) : withoutFinalLineFeed a.toBase = a.toBase := by
  rw [withoutFinalLineFeed, getLast?_toBase, if_neg (by decide)]

theorem bracket_not_mem_front (hchars : ∀ c ∈ a.utility, isUtilityChar c = true) :
    '[' ∉ a.utility ++ ['-'] := by
  intro hmem
  rcases List.mem_append.mp hmem with hmem | hmem
  · exact absurd (hchars _ hmem) (by decide)
  · exact absurd (List.mem_singleton.mp hmem) (by decide)

/-- The first bracket of the base is the one that opens the value. -/
theorem WellFormed.front_eq (h : a.WellFormed) :
    a.toBase.takeWhile (· ≠ '[') = a.utility ++ ['-'] ∧
      a.toBase.dropWhile (· ≠ '[') = '[' :: (a.value ++ [']']) := by
  have hfront : ∀ c ∈ a.utility ++ ['-'], decide (c ≠ '[') = true := fun c hc =>
    decide_eq_true fun heq => bracket_not_mem_front h.utility_chars (heq ▸ hc)
  rw [toBase_eq_append, List.takeWhile_append_of_pos hfront, List.dropWhile_append_of_pos hfront]
  simp

theorem WellFormed.ofBase?_toBase (h : a.WellFormed) : ofBase? a.toBase = some a := by
  obtain ⟨hfront, hback⟩ := h.front_eq
  have hchars : a.utility.all isUtilityChar = true := List.all_eq_true.mpr h.utility_chars
  have hline : a.value.contains '\n' = false := by simpa using h.value_line
  simp only [ofBase?, withoutFinalLineFeed_toBase, hfront, hback, List.drop_one, List.tail_cons,
    List.dropLast_concat, List.getLast?_concat, hchars, hline]
  simp [h.utility_ne_nil, h.value_ne_nil]

/-- What a base is cut into writes the base, apart from a line feed at its end. -/
theorem wellFormed_of_ofBase? {base : Text} (h : ofBase? base = some a) :
    a.WellFormed ∧ withoutFinalLineFeed base = a.toBase := by
  simp only [ofBase?, Option.ite_none_right_eq_some, Bool.and_eq_true, decide_eq_true_eq] at h
  generalize withoutFinalLineFeed base = line at h ⊢
  obtain ⟨⟨⟨⟨⟨⟨hhyphen, hclose⟩, hutility⟩, hchars⟩, hvalue⟩, hline⟩, ha⟩ := h
  cases ha
  have hfront := List.dropLast_append_getLast? _ hhyphen
  have hback := List.dropLast_append_getLast? _ hclose
  have hopen : line.dropWhile (· ≠ '[') = '[' :: (line.dropWhile (· ≠ '[')).drop 1 := by
    have hhead := List.head?_dropWhile_not (· ≠ '[') line
    cases hrest : line.dropWhile (· ≠ '[') with
    | nil =>
      rw [hrest] at hclose
      cases hclose
    | cons c rest =>
      rw [hrest] at hhead
      simpa using hhead
  refine ⟨⟨by simpa using hutility, List.all_eq_true.mp hchars, by simpa using hvalue,
    by simpa using hline⟩, ?_⟩
  rw [toBase_eq_append, hfront, hback, ← hopen, List.takeWhile_append_dropWhile]

/-- Exactly the bases that a well-formed utility and value write are cut, also with a line feed behind. -/
theorem ofBase?_eq_some_iff {base : Text} :
    ofBase? base = some a ↔ a.WellFormed ∧ (base = a.toBase ∨ base = a.toBase ++ ['\n']) := by
  constructor
  · intro h
    obtain ⟨hwell, hline⟩ := wellFormed_of_ofBase? h
    rw [← hline]
    exact ⟨hwell, eq_withoutFinalLineFeed_or base⟩
  · rintro ⟨hwell, rfl | rfl⟩
    · exact hwell.ofBase?_toBase
    · have hsame : ofBase? (a.toBase ++ ['\n']) = ofBase? a.toBase := by
        rw [ofBase?, withoutFinalLineFeed_append, ofBase?, withoutFinalLineFeed_toBase]
      rw [hsame, hwell.ofBase?_toBase]

theorem WellFormed.delimiter_not_mem_toBase (h : a.WellFormed) (hvalue : Token.delimiter ∉ a.value) :
    Token.delimiter ∉ a.toBase := by
  have hutility : Token.delimiter ∉ a.utility := fun hmem =>
    absurd (h.utility_chars _ hmem) (by decide)
  simpa [toBase, Token.delimiter] using And.intro hutility hvalue

theorem WellFormed.normalized_eq (h : a.WellFormed) {t : Token} (ht : t.base = a.toBase) :
    t.normalized = a.utility ++ ['-', '*'] := by
  refine Token.normalized_of_arbitrary? ?_
  rw [Token.arbitrary?, ht, h.ofBase?_toBase]

end Arbitrary

end ClassList
