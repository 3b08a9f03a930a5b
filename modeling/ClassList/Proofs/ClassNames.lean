import ClassList.Proofs.Distinct

/-! The names in a class string are the runs of characters between its blanks. Whatever blanks are put
between and around names, the names read back, and of a list with repetitions each name is kept where it
occurs first. -/

namespace ClassList

namespace Text

instance (s : Text) : Decidable (Unbroken s) :=
  decidable_of_iff (s.all (!isBlank ·) = true) (by simp [Unbroken])

instance (w : Text) : Decidable (IsWord w) :=
  decidable_of_iff (w ≠ [] ∧ Unbroken w) ⟨fun ⟨hne, h⟩ => ⟨hne, h⟩, fun h => ⟨h.ne_nil, h.unbroken⟩⟩

/-! ### Runs -/

/-- The text is empty or begins with a blank. -/
def StartsBlank (s : Text) : Prop := ∀ c ∈ s.head?, isBlank c = true

/-- The text is empty or ends with a blank. -/
def EndsBlank (s : Text) : Prop := StartsBlank s.reverse

/-- From the place `start` on, the word stands in the text between blanks or ends of the text. -/
def IsRun (s : Text) (start : Nat) (word : Text) : Prop :=
  IsWord word ∧ ∃ front back, s = front ++ word ++ back ∧ front.length = start ∧
    EndsBlank front ∧ StartsBlank back

section Run

variable {s t word : Text} {start : Nat} {c : Char}

theorem StartsBlank.eq_nil (h : StartsBlank s) (hs : Unbroken s) : s = [] := by
  cases s with
  | nil => rfl
  | cons c s =>
    have hc := hs c (List.mem_cons_self ..)
    rw [h c rfl] at hc
    cases hc

theorem EndsBlank.eq_nil (h : EndsBlank s) (hs : Unbroken s) : s = [] :=
  List.reverse_eq_nil_iff.mp (StartsBlank.eq_nil h fun c hc => hs c (List.mem_reverse.mp hc))

theorem startsBlank_append_cons (hc : isBlank c = true) : StartsBlank (s ++ c :: t) ↔ StartsBlank s := by
  cases s with
  | nil => simp [StartsBlank, hc]
  | cons d s => rfl

theorem endsBlank_append_cons (hc : isBlank c = true) : EndsBlank (s ++ c :: t) ↔ EndsBlank t := by
  rw [EndsBlank, List.reverse_append, List.reverse_cons, List.append_assoc, List.singleton_append,
    startsBlank_append_cons hc, EndsBlank]

theorem isRun_of_unbroken (h : Unbroken s) : IsRun s start word ↔ s ≠ [] ∧ start = 0 ∧ word = s := by
  constructor
  · rintro ⟨hword, front, back, rfl, rfl, hfront, hback⟩
    have hfront := hfront.eq_nil fun c hc => h c (by simp [hc])
    have hback := hback.eq_nil fun c hc => h c (by simp [hc])
    subst hfront hback
    simpa using hword.ne_nil
  · rintro ⟨hne, rfl, rfl⟩
    exact ⟨⟨hne, h⟩, [], [], by simp, rfl, by simp [EndsBlank, StartsBlank], by simp [StartsBlank]⟩

/-- A run does not go past a blank. -/
theorem isRun_append_blank (hc : isBlank c = true) :
    IsRun (s ++ c :: t) start word ↔
      IsRun s start word ∨ ∃ place, start = s.length + 1 + place ∧ IsRun t place word := by
  constructor
  · rintro ⟨hword, front, back, hparts, rfl, hfront, hback⟩
    have hnot : ∀ u v, word ≠ u ++ c :: v := by
      rintro u v rfl
      have := hword.unbroken c (by simp)
      simp [this] at hc
    rcases List.append_eq_append_iff.mp hparts with ⟨u, hs, hrest⟩ | ⟨u, rfl, rfl⟩
    · cases u with
      | nil =>
        exact .inl ⟨hword, front, [], by simpa using hs.symm, rfl, hfront, by simp [StartsBlank]⟩
      | cons d u =>
        obtain ⟨rfl, rfl⟩ := List.cons.inj hrest
        rcases List.append_eq_append_iff.mp hs with ⟨v, -, hbroken⟩ | ⟨v, rfl, htail⟩
        · exact absurd hbroken (hnot v u)
        · cases v with
          | nil => exact absurd htail.symm (hnot [] u)
          | cons e v =>
            obtain ⟨rfl, rfl⟩ := List.cons.inj htail
            refine .inr ⟨v.length, by simp; omega, hword, v, back, rfl, rfl, ?_, hback⟩
            exact (endsBlank_append_cons hc).mp hfront
    · exact .inl ⟨hword, front, u, rfl, rfl, hfront, (startsBlank_append_cons hc).mp hback⟩
  · rintro (⟨hword, front, back, rfl, rfl, hfront, hback⟩ |
      ⟨_, rfl, hword, front, back, rfl, rfl, hfront, hback⟩)
    · exact ⟨hword, front, back ++ c :: t, by simp, rfl, hfront, (startsBlank_append_cons hc).mpr hback⟩
    · exact ⟨hword, s ++ c :: front, back, by simp, by simp; omega, (endsBlank_append_cons hc).mpr hfront,
        hback⟩

end Run

/-- The runs of a text with their places, in order. -/
structure AreRuns (s : Text) (runs : List (Nat × Text)) : Prop where
  ordered : (runs.map Prod.fst).Pairwise (· < ·)
  mem_iff : ∀ start word, (start, word) ∈ runs ↔ IsRun s start word

section Runs

variable {s t : Text}

theorem exists_runs_of_unbroken (h : Unbroken s) :
    ∃ runs, AreRuns s runs ∧ words s = runs.map Prod.snd := by
  by_cases hne : s = []
  · subst hne
    exact ⟨[], ⟨.nil, fun _ _ => by simp [isRun_of_unbroken h]⟩, words_nil⟩
  · refine ⟨[(0, s)], ⟨List.pairwise_singleton _ _, fun _ _ => ?_⟩, IsWord.words_eq ⟨hne, h⟩⟩
    simp [isRun_of_unbroken h, hne]

/-- Behind a blank, the runs of a text go on with those of what follows. -/
theorem AreRuns.append_blank {c : Char} (hc : isBlank c = true) {runs later : List (Nat × Text)}
    (hruns : AreRuns s runs) (hlater : AreRuns t later) :
    AreRuns (s ++ c :: t) (runs ++ later.map fun (start, word) => (s.length + 1 + start, word)) where
  ordered := by
    rw [List.map_append, List.map_map, List.pairwise_append]
    refine ⟨hruns.ordered, ?_, ?_⟩
    · exact List.pairwise_map.mpr ((List.pairwise_map.mp hlater.ordered).imp fun hlt =>
        Nat.add_lt_add_left hlt _)
    · intro start hstart place hplace
      obtain ⟨⟨start, word⟩, hmem, rfl⟩ := List.mem_map.mp hstart
      obtain ⟨later, -, rfl⟩ := List.mem_map.mp hplace
      obtain ⟨-, front, back, rfl, rfl, -⟩ := (hruns.mem_iff start word).mp hmem
      simp
      omega
  mem_iff start word := by
    rw [List.mem_append, hruns.mem_iff, isRun_append_blank hc, List.mem_map]
    refine or_congr_right ⟨?_, ?_⟩
    · rintro ⟨⟨place, word⟩, hmem, h⟩
      cases h
      exact ⟨place, rfl, (hlater.mem_iff place word).mp hmem⟩
    · rintro ⟨place, rfl, hrun⟩
      exact ⟨(place, word), (hlater.mem_iff place word).mpr hrun, rfl⟩

/-- The words of a text are its runs. -/
theorem exists_runs (s : Text) : ∃ runs, AreRuns s runs ∧ words s = runs.map Prod.snd := by
  induction s using cut_induction with
  | unbroken s hs => exact exists_runs_of_unbroken hs
  | cut front c back hfront hc ih =>
    obtain ⟨later, hlater, hback⟩ := ih
    obtain ⟨runs, hruns, hwords⟩ := exists_runs_of_unbroken hfront
    refine ⟨_, hruns.append_blank hc hlater, ?_⟩
    rw [words_append_blank front hc, hwords, List.map_append, List.map_map]
    exact congrArg _ hback

end Runs

/-! ### Names with blanks between them -/

theorem words_append_of_blank {lead : Text} (h : isBlankText lead = true) (s : Text) :
    words (lead ++ s) = words s := by
  induction lead with
  | nil => rfl
  | cons c lead ih =>
    obtain ⟨hc, hlead⟩ := Bool.and_eq_true_iff.mp (List.all_cons.symm.trans h)
    have hfront := words_append_blank [] hc (lead ++ s)
    rw [List.nil_append, words_nil, List.nil_append] at hfront
    rw [List.cons_append, hfront, ih hlead]

theorem IsWord.words_append {w gap s : Text} (hw : IsWord w) (hgap : isBlankText gap = true)
    (hapart : gap = [] → s = []) : words (w ++ (gap ++ s)) = w :: words s := by
  cases gap with
  | nil => rw [hapart rfl, List.append_nil, List.append_nil, hw.words_eq, words_nil]
  | cons c gap =>
    obtain ⟨hc, hgap⟩ := Bool.and_eq_true_iff.mp (List.all_cons.symm.trans hgap)
    rw [List.cons_append, words_append_blank w hc, hw.words_eq, words_append_of_blank hgap,
      List.singleton_append]

/-- Words with blanks behind each of them read back. Behind the last one there may be none. -/
theorem words_pieces {lead : Text} {pieces : List (Text × Text)} (hlead : isBlankText lead = true)
    (hpieces : ∀ p ∈ pieces, IsWord p.1 ∧ isBlankText p.2 = true)
    (hapart : ∀ p ∈ pieces.dropLast, p.2 ≠ []) :
    words (lead ++ pieces.flatMap fun p => p.1 ++ p.2) = pieces.map Prod.fst := by
  rw [words_append_of_blank hlead]
  induction pieces with
  | nil => exact words_nil
  | cons p rest ih =>
    obtain ⟨⟨hword, hgap⟩, hrest⟩ := List.forall_mem_cons.mp hpieces
    rw [List.flatMap_cons, List.map_cons, List.append_assoc]
    cases rest with
    | nil => exact hword.words_append hgap fun _ => rfl
    | cons q rest =>
      obtain ⟨hp, hlater⟩ := List.forall_mem_cons.mp hapart
      rw [hword.words_append hgap fun hnone => absurd hnone hp, ih hrest hlater]

theorem IsWord.strip_eq {w : Text} (h : IsWord w) : strip w = w := by
  have hkeep : ∀ s, Unbroken s → s.dropWhile isBlank = s := by
    intro s hs
    cases s with
    | nil => rfl
    | cons c s => exact List.dropWhile_cons_of_neg (by simp [hs c (List.mem_cons_self ..)])
  have hreverse : Unbroken w.reverse := fun c hc => h.unbroken c (List.mem_reverse.mp hc)
  rw [strip, hkeep w h.unbroken, hkeep _ hreverse, List.reverse_reverse]

end Text

theorem splitNames_strip (s : Text) :
    ((splitNames s).filter fun name => !(Text.strip name).isEmpty).map Text.strip = splitNames s := by
  have hstrip : ∀ name ∈ splitNames s, Text.strip name = name := fun name hname =>
    (Text.isWord_of_mem_words hname).strip_eq
  rw [List.filter_eq_self.mpr, List.map_congr_left hstrip, List.map_id']
  intro name hname
  rw [hstrip name hname]
  simpa using (Text.isWord_of_mem_words hname).ne_nil

theorem deduplicate_deduplicate (names : List Text) :
    deduplicate (deduplicate names) = deduplicate names :=
  distinct_of_nodup (nodup_distinct names)

/-- The names of a class string are its runs of characters that are not blank, from left to right, and blanks
at the ends of a name are not there to be cut off. Names with blanks between them, and perhaps around them,
read back. Without repetitions, every name is there once, in the order of the first occurrences, and more
names behind add those that are new. -/
theorem splitNames_deduplicate_exact :
    (∀ s : Text,
      (∃ runs, Text.AreRuns s runs ∧ splitNames s = runs.map Prod.snd) ∧
      (∀ name ∈ splitNames s, name ≠ [] ∧ ∀ c ∈ name, Text.isBlank c = false) ∧
      ((splitNames s).filter fun name => !(Text.strip name).isEmpty).map Text.strip = splitNames s) ∧
    (∀ (lead : Text) (pieces : List (Text × Text)), Text.isBlankText lead = true →
      (∀ p ∈ pieces, Text.IsWord p.1 ∧ Text.isBlankText p.2 = true) →
      (∀ p ∈ pieces.dropLast, p.2 ≠ []) →
      splitNames (lead ++ pieces.flatMap fun p => p.1 ++ p.2) = pieces.map Prod.fst) ∧
    ∀ names : List Text,
      (deduplicate names).Nodup ∧ (∀ name, name ∈ deduplicate names ↔ name ∈ names) ∧
      ((deduplicate names).Pairwise fun a b => names.idxOf a < names.idxOf b) ∧
      deduplicate (deduplicate names) = deduplicate names ∧
      ∀ more, deduplicate (names ++ more) =
        deduplicate names ++ (deduplicate more).filter fun name => !names.contains name := by
  refine ⟨fun s => ⟨Text.exists_runs s, fun name hname => ?_, splitNames_strip s⟩,
    fun _ _ => Text.words_pieces, fun names => ⟨nodup_distinct names, fun _ => mem_distinct,
      pairwise_idxOf_distinct names, deduplicate_deduplicate names, distinct_append names⟩⟩
  have hword := Text.isWord_of_mem_words hname
  exact ⟨hword.ne_nil, hword.unbroken⟩

/-- Wide, narrow and invisible blanks divide the names, one of which occurs twice. -/
theorem splitNames_deduplicate_exact_mixed :
    let lead : Text := "\u2003\t"
    let pieces : List (Text × Text) := [("w-4", "\u00a0\u3000"), ("flex", "\x1c"), ("w-4", "")]
    Text.isBlankText lead = true ∧ (∀ p ∈ pieces, Text.IsWord p.1 ∧ Text.isBlankText p.2 = true) ∧
      (∀ p ∈ pieces.dropLast, p.2 ≠ []) ∧
      splitNames "\u2003\tw-4\u00a0\u3000flex\x1cw-4" = pieces.map Prod.fst ∧
      deduplicate (pieces.map Prod.fst) = Text.ofStrings ["w-4", "flex"] := by
  intro lead pieces
  have hlead : Text.isBlankText lead = true := by decide
  have hpieces : ∀ p ∈ pieces, Text.IsWord p.1 ∧ Text.isBlankText p.2 = true := by decide
  have hapart : ∀ p ∈ pieces.dropLast, p.2 ≠ [] := by decide
  exact ⟨hlead, hpieces, hapart, splitNames_deduplicate_exact.2.1 lead pieces hlead hpieces hapart, rfl⟩

end ClassList
