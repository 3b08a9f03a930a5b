import ClassList.Text.Blank

/-! Words of texts: where they come apart, and how a text put together from words reads back. -/

namespace ClassList.Text

theorem mem_intercalate {c : Char} {sep : Text} {texts : List Text}
    (h : c ∈ List.intercalate sep texts) : c ∈ sep ∨ ∃ s ∈ texts, c ∈ s := by
  induction texts with
  | nil => exact absurd h List.not_mem_nil
  | cons s rest ih =>
    cases rest with
    | nil =>
      rw [List.intercalate_singleton] at h
      exact Or.inr ⟨s, List.mem_cons_self .., h⟩
    | cons t rest =>
      rw [List.intercalate_cons_cons, List.mem_append, List.mem_append] at h
      rcases h with (h | h) | h
      · exact Or.inr ⟨s, List.mem_cons_self .., h⟩
      · exact Or.inl h
      · rcases ih h with hc | ⟨u, hu, hc⟩
        · exact Or.inl hc
        · exact Or.inr ⟨u, List.mem_cons_of_mem _ hu, hc⟩

theorem intercalate_append {sep : Text} {front back : List Text} (hfront : front ≠ [])
    (hback : back ≠ []) : List.intercalate sep (front ++ back) =
      List.intercalate sep front ++ sep ++ List.intercalate sep back := by
  induction front with
  | nil => exact absurd rfl hfront
  | cons s rest ih =>
    cases rest with
    | nil =>
      rw [List.singleton_append, List.intercalate_cons_of_ne_nil hback, List.intercalate_singleton]
    | cons t rest =>
      rw [List.cons_append, List.intercalate_cons_of_ne_nil (by simp), ih (List.cons_ne_nil t rest),
        List.intercalate_cons_cons]
      simp only [List.append_assoc]

/-- Texts that are put together in runs and then altogether. -/
theorem intercalate_flatten {sep : Text} {runs : List (List Text)} (h : ∀ run ∈ runs, run ≠ []) :
    List.intercalate sep runs.flatten = List.intercalate sep (runs.map (List.intercalate sep)) := by
  induction runs with
  | nil => rfl
  | cons run rest ih =>
    obtain ⟨hrun, hrest⟩ := List.forall_mem_cons.mp h
    rw [List.flatten_cons, List.map_cons]
    cases rest with
    | nil => simp [List.intercalate_singleton]
    | cons run' rest =>
      have hback : (run' :: rest).flatten ≠ [] := by
        rw [List.flatten_cons]
        exact List.append_ne_nil_of_left_ne_nil (List.forall_mem_cons.mp hrest).1 _
      rw [intercalate_append hrun hback, ih hrest, List.map_cons, List.intercalate_cons_cons]

def Unbroken (s : Text) : Prop := ∀ c ∈ s, isBlank c = false

/-- A text that is one word. -/
structure IsWord (w : Text) : Prop where
  ne_nil : w ≠ []
  unbroken : Unbroken w

theorem Unbroken.nil : Unbroken [] := fun _ h => absurd h (List.not_mem_nil)

theorem Unbroken.cons {c : Char} {s : Text} (hc : isBlank c = false) (hs : Unbroken s) :
    Unbroken (c :: s) := by
  intro d hd
  rcases List.mem_cons.mp hd with rfl | hd
  · exact hc
  · exact hs d hd

/-- The first blank of a text cuts it in two, if there is one. -/
theorem unbroken_or_cut (s : Text) :
    Unbroken s ∨ ∃ front c back, Unbroken front ∧ isBlank c = true ∧ s = front ++ c :: back := by
  induction s with
  | nil => exact Or.inl Unbroken.nil
  | cons c s ih =>
    by_cases hc : isBlank c = true
    · exact Or.inr ⟨[], c, s, Unbroken.nil, hc, rfl⟩
    · have hc : isBlank c = false := by simpa using hc
      rcases ih with hs | ⟨front, d, back, hfront, hd, rfl⟩
      · exact Or.inl (hs.cons hc)
      · exact Or.inr ⟨c :: front, d, back, hfront.cons hc, hd, rfl⟩

/-- Texts from one blank to the next. -/
theorem cut_induction {motive : Text → Prop} (unbroken : ∀ s, Unbroken s → motive s)
    (cut : ∀ front c back, Unbroken front → isBlank c = true → motive back →
      motive (front ++ c :: back)) (s : Text) : motive s := by
  induction h : s.length using Nat.strongRecOn generalizing s with
  | ind n ih =>
    rcases unbroken_or_cut s with hs | ⟨front, c, back, hfront, hc, rfl⟩
    · exact unbroken s hs
    · have hlt : back.length < n := by
        rw [← h, List.length_append, List.length_cons]
        omega
      exact cut front c back hfront hc (ih _ hlt back rfl)

@[simp] theorem words_nil : words [] = [] := by simp [words, List.splitOnP_nil]

theorem IsWord.words_eq {w : Text} (h : IsWord w) : words w = [w] := by
  rw [words, List.splitOnP_eq_singleton h.unbroken]
  simp [h.ne_nil]

theorem words_append_blank (s : Text) {c : Char} (hc : isBlank c = true) (t : Text) :
    words (s ++ c :: t) = words s ++ words t := by
  unfold words
  rw [List.splitOnP_append_cons _ _ hc, List.filter_append]

theorem isWord_of_mem_words {s w : Text} (h : w ∈ words s) : IsWord w := by
  have whole : ∀ s, Unbroken s → w ∈ words s → IsWord w := by
    intro s hs hw
    by_cases hne : s = []
    · simp [hne] at hw
    · rw [IsWord.words_eq ⟨hne, hs⟩, List.mem_singleton] at hw
      exact hw ▸ ⟨hne, hs⟩
  induction s using cut_induction with
  | unbroken s hs => exact whole s hs h
  | cut front c back hfront hc ih =>
    rw [words_append_blank front hc, List.mem_append] at h
    exact h.elim (whole front hfront) ih

/-- A text has no words just when it holds nothing but blanks. -/
theorem words_eq_nil_iff {s : Text} : words s = [] ↔ ∀ c ∈ s, isBlank c = true := by
  have whole : ∀ s, Unbroken s → (words s = [] ↔ ∀ c ∈ s, isBlank c = true) := by
    intro s hs
    cases s with
    | nil => simp
    | cons c s =>
      have hc := hs c (List.mem_cons_self ..)
      rw [IsWord.words_eq ⟨List.cons_ne_nil c s, hs⟩]
      simp [hc]
  induction s using cut_induction with
  | unbroken s hs => exact whole s hs
  | cut front c back hfront hc ih =>
    have hback : words back = [] ↔ ∀ c ∈ back, isBlank c = true := ih
    rw [words_append_blank front hc, List.append_eq_nil_iff, whole front hfront, hback,
      List.forall_mem_append, List.forall_mem_cons]
    simp [hc]

/-- Texts with single spaces between them have the words of the texts. -/
theorem words_intercalate (texts : List Text) :
    words (List.intercalate " " texts) = texts.flatMap words := by
  induction texts with
  | nil => exact words_nil
  | cons s rest ih =>
    cases rest with
    | nil => simp [List.intercalate_singleton]
    | cons t rest =>
      rw [List.intercalate_cons_cons, List.append_assoc]
      show words (s ++ ' ' :: List.intercalate " " (t :: rest)) = _
      rw [words_append_blank s (by decide), ih]
      rfl

/-- Words with single spaces between them read back. -/
theorem words_intercalate_of_isWord {names : List Text} (h : ∀ w ∈ names, IsWord w) :
    words (List.intercalate " " names) = names := by
  rw [words_intercalate]
  induction names with
  | nil => rfl
  | cons w rest ih =>
    rw [List.flatMap_cons, (h w (List.mem_cons_self ..)).words_eq,
      ih fun v hv => h v (List.mem_cons_of_mem _ hv), List.singleton_append]

end ClassList.Text
