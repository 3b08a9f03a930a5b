import Mathlib.Data.List.Basic
import ClassList.Proofs.Patterns
import ClassList.Proofs.Words

/-! Patterns by segments, which are the parts of a text between its hyphens. A wildcard takes a class just
when the segments of its stem begin the segments of the normalized base. Any other pattern takes one base,
and the normalized base adds nothing to it. -/

namespace ClassList

namespace Text

/-- The parts of a text between its hyphens. There is an empty part next to a hyphen at either end, and
between two hyphens in a row. -/
def segments (s : Text) : List Text := s.splitOn '-'

theorem segments_ne_nil (s : Text) : segments s ≠ [] := List.splitOn_ne_nil '-' s

theorem segments_append_hyphen (s rest : Text) :
    segments (s ++ '-' :: rest) = segments s ++ segments rest :=
  List.splitOn_append_cons_self s rest

theorem intercalate_segments (s : Text) : List.intercalate ['-'] (segments s) = s :=
  List.intercalate_splitOn '-'

/-- To begin with the segments of a stem is to be the stem, or to go on after it with a hyphen. -/
theorem segments_prefix_iff {stem s : Text} :
    segments stem <+: segments s ↔ s = stem ∨ stem ++ ['-'] <+: s := by
  constructor
  · rintro ⟨more, hmore⟩
    by_cases hnil : more = []
    · left
      rw [hnil, List.append_nil] at hmore
      rw [← intercalate_segments s, ← hmore, intercalate_segments]
    · right
      refine ⟨List.intercalate ['-'] more, ?_⟩
      calc stem ++ ['-'] ++ List.intercalate ['-'] more
          = List.intercalate ['-'] (segments stem) ++ ['-'] ++ List.intercalate ['-'] more := by
            rw [intercalate_segments]
        _ = List.intercalate ['-'] (segments stem ++ more) :=
            (intercalate_append (segments_ne_nil stem) hnil).symm
        _ = s := by rw [hmore, intercalate_segments]
  · rintro (rfl | ⟨rest, rfl⟩)
    · exact List.prefix_rfl
    · rw [List.append_assoc, List.singleton_append, segments_append_hyphen]
      exact List.prefix_append ..

end Text

namespace Token

/-- A base is its own normal form, or its normal form is written as a wildcard. -/
theorem normalized_eq_base_or (t : Token) :
    t.normalized = t.base ∨ Pattern.wildcardEnd <:+ t.normalized := by
  cases harbitrary : t.arbitrary? with
  | none => exact .inl (normalized_eq_base harbitrary)
  | some a => exact .inr (normalized_of_arbitrary? harbitrary ▸ List.suffix_append ..)

/-- Which patterns a token falls under, as they are written: those that end in a hyphen and a star by the
segments in front of that, and of all others its base. -/
inductive FallsUnder (t : Token) : (pattern : Text) → Prop
  | stem {stem : Text} (h : Text.segments stem <+: Text.segments t.normalized) :
      FallsUnder t (stem ++ Pattern.wildcardEnd)
  | base (h : ¬Pattern.wildcardEnd <:+ t.base) : FallsUnder t t.base

end Token

section Matching

variable {t : Token} {stem pattern : Text}

theorem Pattern.ofText_append_wildcardEnd (stem : Text) :
    ofText (stem ++ wildcardEnd) = .wildcard stem := by
  have hend : wildcardEnd.isSuffixOf (stem ++ wildcardEnd) = true :=
    List.isSuffixOf_iff_suffix.mpr (List.suffix_append ..)
  rw [ofText, if_pos hend]
  simp [wildcardEnd]

theorem Pattern.ofText_of_not_suffix (h : ¬wildcardEnd <:+ pattern) :
    ofText pattern = .exact pattern := by
  rw [ofText, if_neg (mt List.isSuffixOf_iff_suffix.mp h)]

theorem matchesPattern_stem_iff :
    matchesPattern (stem ++ Pattern.wildcardEnd) t = true ↔
      Text.segments stem <+: Text.segments t.normalized := by
  rw [matchesPattern, Pattern.ofText_append_wildcardEnd, Pattern.accepts, Bool.or_eq_true,
    decide_eq_true_iff, List.isPrefixOf_iff_prefix, Text.segments_prefix_iff]

/-- A normalized base that is not the base ends as a wildcard does, so it is no other pattern. -/
theorem matchesPattern_base_iff (h : ¬Pattern.wildcardEnd <:+ pattern) :
    matchesPattern pattern t = true ↔ t.base = pattern := by
  have hnormalized : t.normalized = pattern → t.base = pattern := by
    rintro rfl
    exact (t.normalized_eq_base_or.resolve_right h).symm
  rw [matchesPattern, Pattern.ofText_of_not_suffix h, Pattern.accepts, Bool.or_eq_true,
    decide_eq_true_iff, decide_eq_true_iff, or_iff_left_of_imp hnormalized]

theorem matchesPattern_iff_fallsUnder : matchesPattern pattern t = true ↔ t.FallsUnder pattern := by
  constructor
  · intro h
    by_cases hend : Pattern.wildcardEnd <:+ pattern
    · obtain ⟨stem, rfl⟩ := hend
      exact .stem (matchesPattern_stem_iff.mp h)
    · obtain rfl := (matchesPattern_base_iff hend).mp h
      exact .base hend
  · rintro (h | h)
    · exact matchesPattern_stem_iff.mpr h
    · exact (matchesPattern_base_iff h).mpr rfl

theorem firstMatch?_eq_some_iff {patterns : List Text} :
    firstMatch? patterns t = some pattern ↔
      t.FallsUnder pattern ∧ ∃ front back, patterns = front ++ pattern :: back ∧
        ∀ earlier ∈ front, ¬t.FallsUnder earlier := by
  simp only [firstMatch?, List.find?_eq_some_iff_append, Bool.not_eq_true',
    ← Bool.not_eq_true, matchesPattern_iff_fallsUnder]

theorem firstMatch?_eq_none_iff {patterns : List Text} :
    firstMatch? patterns t = none ↔ ∀ pattern ∈ patterns, ¬t.FallsUnder pattern := by
  simp only [firstMatch?, List.find?_eq_none, matchesPattern_iff_fallsUnder]

end Matching

/-- A stem with a wildcard behind it matches the tokens whose normalized base begins with the segments of the
stem, so it matches whatever a longer stem does. Any other pattern matches the tokens of which it is the
base. The first pattern of a list that matches in this sense is found, if there is one. -/
theorem matchesPattern_segments (t : Token) :
    (∀ stem, matchesPattern (stem ++ Pattern.wildcardEnd) t = true ↔
      Text.segments stem <+: Text.segments t.normalized) ∧
    (∀ pattern, ¬Pattern.wildcardEnd <:+ pattern →
      (matchesPattern pattern t = true ↔ t.base = pattern)) ∧
    (∀ stem more, matchesPattern (stem ++ '-' :: more ++ Pattern.wildcardEnd) t = true →
      matchesPattern (stem ++ Pattern.wildcardEnd) t = true) ∧
    ∀ patterns,
      (∀ pattern, firstMatch? patterns t = some pattern ↔
        t.FallsUnder pattern ∧ ∃ front back, patterns = front ++ pattern :: back ∧
          ∀ earlier ∈ front, ¬t.FallsUnder earlier) ∧
      (firstMatch? patterns t = none ↔ ∀ pattern ∈ patterns, ¬t.FallsUnder pattern) := by
  refine ⟨fun _ => matchesPattern_stem_iff, fun _ => matchesPattern_base_iff, fun stem more h => ?_,
    fun _ => ⟨fun _ => firstMatch?_eq_some_iff, firstMatch?_eq_none_iff⟩⟩
  have hlonger := matchesPattern_stem_iff.mp h
  rw [Text.segments_append_hyphen] at hlonger
  exact matchesPattern_stem_iff.mpr ((List.prefix_append ..).trans hlonger)

/-- The normalized base of `md:w-[a-b]` is `w-*`, which ends as a wildcard does and is a stem too. -/
theorem matchesPattern_segments_stars :
    let t := Token.ofText "md:w-[a-b]"
    matchesPattern "w-*-*" t = true ∧ matchesPattern "w-*" t = true ∧
      matchesPattern "w-a-*" t = false ∧ matchesPattern "-*" t = false ∧
      matchesPattern "w-[a-b]" t = true ∧ matchesPattern "w" t = false ∧
      firstMatch? (Text.ofStrings ["-*", "w", "w-a-*", "w-*-*", "w-[a-b]"]) t =
        some "w-*-*".toList := by
  intro t
  obtain ⟨hstem, hbase, hshorter, hfirst⟩ := matchesPattern_segments t
  have hstar : matchesPattern "w-*-*" t = true := (hstem "w-*").mpr (by decide)
  refine ⟨hstar, hshorter "w" ['*'] hstar, ?_, ?_, (hbase _ (by decide)).mpr rfl, ?_, ?_⟩
  · exact Bool.eq_false_iff.mpr (mt (hstem "w-a").mp (by decide))
  · exact Bool.eq_false_iff.mpr (mt (hstem []).mp (by decide))
  · exact Bool.eq_false_iff.mpr (mt (hbase "w" (by decide)).mp (by decide))
  · refine ((hfirst _).1 _).mpr ⟨matchesPattern_iff_fallsUnder.mp hstar,
      Text.ofStrings ["-*", "w", "w-a-*"], Text.ofStrings ["w-[a-b]"], rfl, fun earlier h => ?_⟩
    rw [← matchesPattern_iff_fallsUnder]
    revert earlier
    decide

end ClassList
