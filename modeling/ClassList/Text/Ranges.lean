import ClassList.Text

/-! Sets of characters written as ascending tables of code point ranges. -/

namespace ClassList.Text

/-- Whether a code point lies in one of the ranges, both ends included. The ranges ascend, so the
search ends at the first one that starts past the code point. -/
def inRanges : List (Nat × Nat) → Nat → Bool
  | [], _ => false
  | (low, high) :: ranges, n => low ≤ n && (n ≤ high || inRanges ranges n)

theorem exists_range_of_inRanges {ranges : List (Nat × Nat)} {n : Nat}
    (h : inRanges ranges n = true) : ∃ range ∈ ranges, range.1 ≤ n ∧ n ≤ range.2 := by
  induction ranges with
  | nil => cases h
  | cons range ranges ih =>
    simp only [inRanges, Bool.and_eq_true, Bool.or_eq_true, decide_eq_true_eq] at h
    obtain ⟨hlow, hhigh | h⟩ := h
    · exact ⟨range, List.mem_cons_self .., hlow, hhigh⟩
    · obtain ⟨r, hr, hn⟩ := ih h
      exact ⟨r, List.mem_cons_of_mem _ hr, hn⟩

/-- No range of one table meets a range of the other. -/
def Apart (a b : List (Nat × Nat)) : Prop := ∀ r ∈ a, ∀ q ∈ b, r.2 < q.1 ∨ q.2 < r.1

instance (a b : List (Nat × Nat)) : Decidable (Apart a b) :=
  inferInstanceAs (Decidable (∀ r ∈ a, ∀ q ∈ b, r.2 < q.1 ∨ q.2 < r.1))

theorem Apart.inRanges_eq_false {a b : List (Nat × Nat)} (h : Apart a b) {n : Nat}
    (hn : inRanges a n = true) : inRanges b n = false := by
  rw [← Bool.not_eq_true]
  intro hn'
  obtain ⟨r, hr, hlow, hhigh⟩ := exists_range_of_inRanges hn
  obtain ⟨q, hq, hlow', hhigh'⟩ := exists_range_of_inRanges hn'
  rcases h r hr q hq with hlt | hlt <;> omega

end ClassList.Text
