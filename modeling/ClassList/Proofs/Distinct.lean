import ClassList.Proofs.Words
import ClassList.Token

/-! Lists without repetitions, and the classes of a class string: its words, each once. -/

namespace ClassList

section Distinct

variable {α : Type} [DecidableEq α]

theorem mem_distinct {a : α} {l : List α} :
    a ∈ distinct (fun a b => decide (a = b)) l ↔ a ∈ l := by
  induction l with
  | nil => rfl
  | cons b l ih =>
    rw [distinct, List.mem_cons, List.mem_cons, List.mem_filter, ih]
    by_cases h : a = b
    · simp [h]
    · have hne : ¬b = a := fun e => h e.symm
      simp [h, hne]

theorem nodup_distinct (l : List α) : (distinct (fun a b => decide (a = b)) l).Nodup := by
  induction l with
  | nil => exact List.nodup_nil
  | cons b l ih =>
    rw [distinct, List.nodup_cons]
    refine ⟨?_, ih.sublist List.filter_sublist⟩
    intro h
    simpa using (List.mem_filter.mp h).2

theorem distinct_of_nodup {l : List α} (h : l.Nodup) :
    distinct (fun a b => decide (a = b)) l = l := by
  induction l with
  | nil => rfl
  | cons b l ih =>
    obtain ⟨hb, hl⟩ := List.nodup_cons.mp h
    rw [distinct, ih hl, List.filter_eq_self.mpr]
    intro a ha
    have hne : b ≠ a := fun e => hb (e ▸ ha)
    simpa using hne

theorem distinct_perm {l l' : List α} (h : ∀ a, a ∈ l ↔ a ∈ l') :
    (distinct (fun a b => decide (a = b)) l).Perm (distinct (fun a b => decide (a = b)) l') := by
  rw [List.perm_ext_iff_of_nodup (nodup_distinct l) (nodup_distinct l')]
  intro a
  rw [mem_distinct, mem_distinct, h]

end Distinct

section Order

variable {α : Type} [DecidableEq α] [BEq α] [LawfulBEq α]

theorem distinct_append (l l' : List α) :
    distinct (fun a b => decide (a = b)) (l ++ l') =
      distinct (fun a b => decide (a = b)) l ++
        (distinct (fun a b => decide (a = b)) l').filter fun a => !l.contains a := by
  induction l with
  | nil => exact (List.filter_eq_self.mpr fun _ _ => rfl).symm
  | cons b l ih =>
    rw [List.cons_append, distinct, distinct, ih, List.filter_append, List.filter_filter, List.cons_append]
    congr 2
    refine List.filter_congr fun a _ => ?_
    simp [eq_comm]

/-- The members stand in the order of their first occurrences. -/
theorem pairwise_idxOf_distinct (l : List α) :
    (distinct (fun a b => decide (a = b)) l).Pairwise fun a b => l.idxOf a < l.idxOf b := by
  induction l with
  | nil => exact .nil
  | cons c l ih =>
    have hlater : ∀ a ∈ (distinct (fun a b => decide (a = b)) l).filter fun a => !decide (c = a),
        (c :: l).idxOf a = l.idxOf a + 1 := by
      intro a ha
      have hne : c ≠ a := by simpa using (List.mem_filter.mp ha).2
      rw [List.idxOf_cons, beq_eq_false_iff_ne.mpr hne, cond_false]
    rw [distinct, List.pairwise_cons]
    constructor
    · intro a ha
      rw [List.idxOf_cons_self, hlater a ha]
      exact Nat.succ_pos _
    · refine (ih.filter _).imp_of_mem fun {a b} ha hb hlt => ?_
      rw [hlater a ha, hlater b hb]
      exact Nat.succ_lt_succ hlt

end Order

/-- The classes of a class string, each at its first occurrence. -/
def tokensOf (classString : Text) : List Token :=
  (deduplicate (splitNames classString)).map Token.ofText

theorem map_original_map_ofText (names : List Text) :
    (names.map Token.ofText).map Token.original = names := by
  rw [List.map_map]
  exact List.map_id names

theorem map_original_tokensOf (classString : Text) :
    (tokensOf classString).map Token.original = deduplicate (splitNames classString) :=
  map_original_map_ofText _

theorem nodup_tokensOf (classString : Text) : ((tokensOf classString).map Token.original).Nodup := by
  rw [map_original_tokensOf]
  exact nodup_distinct _

/-- Every token of a class string comes from reading its own text, which is a word. -/
theorem of_mem_tokensOf {t : Token} {classString : Text} (h : t ∈ tokensOf classString) :
    Text.IsWord t.original ∧ t = Token.ofText t.original := by
  obtain ⟨name, hname, rfl⟩ := List.mem_map.mp h
  exact ⟨Text.isWord_of_mem_words (mem_distinct.mp hname), rfl⟩

/-- Class strings of the same names have the same classes. -/
theorem tokensOf_perm {classString other : Text}
    (h : ∀ name, name ∈ splitNames classString ↔ name ∈ splitNames other) :
    (tokensOf classString).Perm (tokensOf other) :=
  (distinct_perm h).map Token.ofText

theorem tokensOf_eq_nil_iff {classString : Text} :
    tokensOf classString = [] ↔ splitNames classString = [] := by
  rw [tokensOf, List.map_eq_nil_iff, deduplicate]
  cases splitNames classString with
  | nil => simp [distinct]
  | cons name names => simp [distinct]

/-- Different words with blanks between them are the classes of the class string they make. -/
theorem tokensOf_of_words {classString : Text} {tokens : List Token}
    (hread : ∀ t ∈ tokens, t = Token.ofText t.original)
    (hnodup : (tokens.map Token.original).Nodup)
    (hwords : Text.words classString = tokens.map Token.original) :
    tokensOf classString = tokens := by
  rw [tokensOf, splitNames, hwords, deduplicate, distinct_of_nodup hnodup, List.map_map]
  calc
    tokens.map (Token.ofText ∘ Token.original) = tokens.map id :=
      List.map_congr_left fun t ht => (hread t ht).symm
    _ = tokens := List.map_id tokens

/-- The classes of a class string, joined in whatever order, read back in this order. -/
theorem tokensOf_joinOriginals {tokens : List Token} {classString : Text}
    (h : tokens.Perm (tokensOf classString)) : tokensOf (joinOriginals tokens) = tokens := by
  have hwords : ∀ t ∈ tokens, Text.IsWord t.original ∧ t = Token.ofText t.original :=
    fun t ht => of_mem_tokensOf (h.mem_iff.mp ht)
  refine tokensOf_of_words (fun t ht => (hwords t ht).2) ?_ ?_
  · exact (h.map Token.original).nodup_iff.mpr (nodup_tokensOf classString)
  · refine Text.words_intercalate_of_isWord fun w hw => ?_
    obtain ⟨t, ht, rfl⟩ := List.mem_map.mp hw
    exact (hwords t ht).1

end ClassList
