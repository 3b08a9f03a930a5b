import ClassList.Text

/-! Expressions that are matched from the start of a text, and a search for the matches that goes back to
the last choice when it is stuck. Its answer is the first match in the order in which it tries the choices.
That order is a matter of preference between short and long runs, but which matches there are is not. -/

namespace ClassList

namespace Expression

/-- Which of the runs that it can take a repetition tries first. -/
inductive Preference where
  | shortest
  | longest

/-- One or more characters of a class, a text as it is written, or the end of the line, where a line feed
may stand as the last character. -/
inductive Piece where
  | run (preference : Preference) (accepts : Char → Bool)
  | exactly (s : Text)
  | lineEnd

/-- The runs of characters of a class at the start of a text, each with what is left, from the shortest
to the longest. -/
def runs (accepts : Char → Bool) : Text → List (Text × Text)
  | [] => []
  | c :: cs =>
    if accepts c then ([c], cs) :: (runs accepts cs).map fun (run, rest) => (c :: run, rest) else []

/-- What a piece can take from the start of a text, each with what is left, in the order of preference. -/
def Piece.cuts : Piece → Text → List (Text × Text)
  | run .shortest accepts, s => runs accepts s
  | run .longest accepts, s => (runs accepts s).reverse
  | exactly t, s => (Text.after? t s).toList.map (t, ·)
  | lineEnd, s => if s = [] ∨ s = ['\n'] then [([], s)] else []

/-- All matches at the start of a text, in the order in which they are found. A match is the list of what
the pieces have taken. -/
def search : List Piece → Text → List (List Text)
  | [], _ => [[]]
  | piece :: pieces, s =>
    (piece.cuts s).flatMap fun (taken, rest) => (search pieces rest).map (taken :: ·)

/-- What a piece takes in front of a rest. No preference has a part in it. -/
def Piece.Takes : Piece → (taken rest : Text) → Prop
  | run _ accepts, taken, _ => taken ≠ [] ∧ ∀ c ∈ taken, accepts c = true
  | exactly t, taken, _ => taken = t
  | lineEnd, taken, rest => taken = [] ∧ (rest = [] ∨ rest = ['\n'])

/-- The pieces take these texts, one after the other, from the start of a text. -/
inductive Matches : List Piece → (texts : List Text) → Text → Prop
  | nil {s} : Matches [] [] s
  | cons {piece pieces taken texts rest} (htakes : piece.Takes taken rest)
      (h : Matches pieces texts rest) : Matches (piece :: pieces) (taken :: texts) (taken ++ rest)

theorem mem_runs_iff {accepts : Char → Bool} {s run rest : Text} :
    (run, rest) ∈ runs accepts s ↔
      s = run ++ rest ∧ run ≠ [] ∧ ∀ c ∈ run, accepts c = true := by
  induction s generalizing run with
  | nil => cases run <;> simp [runs]
  | cons c cs ih =>
    constructor
    · intro h
      rw [runs] at h
      split at h
      · rename_i hc
        rcases List.mem_cons.mp h with heq | hlonger
        · cases heq
          exact ⟨rfl, List.cons_ne_nil c [], by simpa using hc⟩
        · obtain ⟨⟨run, rest⟩, hmem, heq⟩ := List.mem_map.mp hlonger
          cases heq
          obtain ⟨rfl, -, hall⟩ := ih.mp hmem
          exact ⟨rfl, List.cons_ne_nil c run, List.forall_mem_cons.mpr ⟨hc, hall⟩⟩
      · cases h
    · rintro ⟨hs, hne, hall⟩
      cases run with
      | nil => exact absurd rfl hne
      | cons d run =>
        obtain ⟨rfl, rfl⟩ := List.cons.inj hs
        obtain ⟨hc, hall⟩ := List.forall_mem_cons.mp hall
        rw [runs, if_pos hc]
        cases run with
        | nil => exact List.mem_cons_self ..
        | cons d run =>
          have hmem := ih.mpr ⟨rfl, List.cons_ne_nil d run, hall⟩
          exact List.mem_cons_of_mem _ (List.mem_map.mpr ⟨_, hmem, rfl⟩)

theorem Piece.mem_cuts_iff {piece : Piece} {s taken rest : Text} :
    (taken, rest) ∈ piece.cuts s ↔ s = taken ++ rest ∧ piece.Takes taken rest := by
  cases piece with
  | run preference accepts =>
    cases preference with
    | shortest => exact mem_runs_iff
    | longest => exact List.mem_reverse.trans mem_runs_iff
  | exactly t =>
    constructor
    · intro h
      obtain ⟨rest, hrest, heq⟩ := List.mem_map.mp h
      cases heq
      exact ⟨Text.after?_eq_some_iff.mp (Option.mem_toList.mp hrest), rfl⟩
    · rintro ⟨hs, rfl⟩
      exact List.mem_map.mpr ⟨rest, Option.mem_toList.mpr (Text.after?_eq_some_iff.mpr hs), rfl⟩
  | lineEnd =>
    rw [cuts]
    constructor
    · intro h
      split at h
      · rename_i hend
        cases List.mem_singleton.mp h
        exact ⟨rfl, rfl, hend⟩
      · cases h
    · rintro ⟨rfl, rfl, hend⟩
      rw [List.nil_append, if_pos hend]
      exact List.mem_singleton.mpr rfl

/-- The search finds all matches and nothing else. -/
theorem mem_search_iff {pieces : List Piece} {texts : List Text} {s : Text} :
    texts ∈ search pieces s ↔ Matches pieces texts s := by
  induction pieces generalizing texts s with
  | nil =>
    rw [search, List.mem_singleton]
    exact ⟨fun h => h ▸ .nil, fun h => by cases h; rfl⟩
  | cons piece pieces ih =>
    rw [search, List.mem_flatMap]
    constructor
    · rintro ⟨⟨taken, rest⟩, hcut, h⟩
      obtain ⟨texts, htexts, rfl⟩ := List.mem_map.mp h
      obtain ⟨rfl, htakes⟩ := Piece.mem_cuts_iff.mp hcut
      exact .cons htakes (ih.mp htexts)
    · rintro (_ | ⟨htakes, h⟩)
      exact ⟨_, Piece.mem_cuts_iff.mpr ⟨rfl, htakes⟩, List.mem_map.mpr ⟨_, ih.mpr h, rfl⟩⟩

example :
    let twice (preference : Preference) := search [.run preference (· = 'a'), .exactly "a"] "aaa"
    twice .shortest = [Text.ofStrings ["a", "a"], Text.ofStrings ["aa", "a"]] ∧
      twice .longest = [Text.ofStrings ["aa", "a"], Text.ofStrings ["a", "a"]] := by decide

end Expression

end ClassList
