import ClassList.Pattern
import ClassList.Proofs.Tokens

/-! A class and a pattern that takes it start with the same word, where a word ends at a hyphen. The value
in brackets, which patterns do not see, comes after a hyphen, and so does the star of a wildcard. So
groups whose patterns start with different words take different classes. -/

namespace ClassList

namespace Text

/-- What stands in front of the first hyphen of a text, or all of it. -/
def firstWord (s : Text) : Text := s.takeWhile (· ≠ '-')

theorem firstWord_append_hyphen (s rest : Text) : firstWord (s ++ '-' :: rest) = firstWord s := by
  induction s with
  | nil => rfl
  | cons c s ih =>
    by_cases hc : c = '-'
    · simp [firstWord, hc]
    · simpa [firstWord, hc] using ih

/-- A number for a text. Texts with different codes are different, and numbers compare at once. -/
def code (s : Text) : Nat := s.foldl (fun n c => 256 * n + c.toNat) 0

end Text

theorem Arbitrary.exists_base_eq {base : Text} {a : Arbitrary} (h : ofBase? base = some a) :
    ∃ rest, base = a.utility ++ '-' :: rest := by
  obtain ⟨-, rfl | rfl⟩ := ofBase?_eq_some_iff.mp h
  · exact ⟨_, rfl⟩
  · exact ⟨'[' :: (a.value ++ [']']) ++ ['\n'], by simp [toBase]⟩

theorem Token.firstWord_normalized (t : Token) :
    Text.firstWord t.normalized = Text.firstWord t.base := by
  cases harbitrary : t.arbitrary? with
  | none => rw [normalized_eq_base harbitrary]
  | some a =>
    obtain ⟨rest, hbase⟩ := Arbitrary.exists_base_eq harbitrary
    rw [normalized_of_arbitrary? harbitrary, hbase]
    exact (Text.firstWord_append_hyphen ..).trans (Text.firstWord_append_hyphen ..).symm

namespace Pattern

theorem toText_ofText (s : Text) : (ofText s).toText = s := by
  unfold ofText
  split
  · rename_i hend
    obtain ⟨stem, rfl⟩ := List.isSuffixOf_iff_suffix.mp hend
    simp [toText, wildcardEnd]
  · rfl

theorem firstWord_toText_of_accepts {p : Pattern} {t : Token} (h : p.accepts t = true) :
    Text.firstWord p.toText = Text.firstWord t.base := by
  rw [← t.firstWord_normalized]
  cases p with
  | exact base =>
    rcases Bool.or_eq_true_iff.mp h with hbase | hbase
    · rw [t.firstWord_normalized, of_decide_eq_true hbase, toText]
    · rw [of_decide_eq_true hbase, toText]
  | wildcard stem =>
    have hword : Text.firstWord (wildcard stem).toText = Text.firstWord stem :=
      Text.firstWord_append_hyphen stem ['*']
    rw [hword]
    rcases Bool.or_eq_true_iff.mp h with hstem | hprefix
    · rw [of_decide_eq_true hstem]
    · obtain ⟨rest, hrest⟩ := List.isPrefixOf_iff_prefix.mp hprefix
      rw [← hrest, List.append_assoc]
      exact (Text.firstWord_append_hyphen stem rest).symm

end Pattern

theorem firstWord_of_matchesPattern {pattern : Text} {t : Token}
    (h : matchesPattern pattern t = true) : Text.firstWord pattern = Text.firstWord t.base := by
  have hword := Pattern.firstWord_toText_of_accepts h
  rwa [Pattern.toText_ofText] at hword

end ClassList
