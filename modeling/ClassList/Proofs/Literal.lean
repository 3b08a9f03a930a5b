import Mathlib.Logic.Function.Defs
import ClassList.Literal
import ClassList.Proofs.Replacement

/-! Literals read back: a scan of an escaped text stops at the closing quote. To escape is to double the
backslashes and then to put one in front of every quote. -/

namespace ClassList.Literal

theorem scan?_plain {c : Char} (hquote : c ≠ '"') (hslash : c ≠ '\\') (rest : Text) :
    scan? (c :: rest) = (scan? rest).map fun (s, after) => (c :: s, after) := by
  rw [scan?]
  · intro h
    exact absurd h hquote
  · intro h
    exact absurd h hslash
  · intro _ _ h
    exact absurd h hslash

theorem scan?_append_of_plain {front : Text} (h : ∀ c ∈ front, c ≠ '"' ∧ c ≠ '\\') (rest : Text) :
    scan? (front ++ rest) = (scan? rest).map fun (s, after) => (front ++ s, after) := by
  induction front with
  | nil => exact Option.map_id'.symm
  | cons c front ih =>
    obtain ⟨⟨hquote, hslash⟩, hfront⟩ := List.forall_mem_cons.mp h
    rw [List.cons_append, scan?_plain hquote hslash, ih hfront, Option.map_map]
    rfl

theorem scan?_escapeChar (c : Char) (rest : Text) :
    scan? (escapeChar c ++ rest) = (scan? rest).map fun (s, after) => (c :: s, after) := by
  unfold escapeChar
  split
  · rfl
  · rename_i h
    obtain ⟨hquote, hslash⟩ := not_or.mp h
    exact scan?_plain hquote hslash rest

/-- What follows the closing quote of an escaped text is left as it is. -/
theorem scan?_escape (s rest : Text) : scan? (escape s ++ '"' :: rest) = some (s, rest) := by
  induction s with
  | nil => rfl
  | cons c s ih =>
    rw [escape, List.flatMap_cons, List.append_assoc, scan?_escapeChar]
    exact congrArg (Option.map fun (s, after) => (c :: s, after)) ih

theorem escape_append (s t : Text) : escape (s ++ t) = escape s ++ escape t := List.flatMap_append

/-- The backslashes come first: those in front of quotes are not doubled. -/
theorem escape_eq_replaceAll (s : Text) :
    escape s = Text.replaceAll ['"'] ['\\', '"'] (Text.replaceAll ['\\'] ['\\', '\\'] s) := by
  rw [Text.replaceAll_singleton, Text.replaceAll_singleton, List.flatMap_assoc, escape]
  congr 1
  funext c
  unfold escapeChar
  by_cases hslash : c = '\\'
  · subst hslash
    rfl
  · by_cases hquote : c = '"'
    · subst hquote
      rfl
    · simp [hslash, hquote]

/-- A literal gives back its text and the text behind it. -/
theorem quote_append_injective : Function.Injective fun p : Text × Text => quote p.1 ++ p.2 := by
  rintro ⟨s, rest⟩ ⟨s', rest'⟩ h
  have hbody : escape s ++ '"' :: rest = escape s' ++ '"' :: rest' := by
    simpa [quote] using h
  have hscan := scan?_escape s rest
  rw [hbody, scan?_escape] at hscan
  exact (Option.some.inj hscan).symm

theorem escape_injective : Function.Injective escape := by
  intro s s' h
  have hscan := scan?_escape s []
  rw [h, scan?_escape] at hscan
  exact (congrArg Prod.fst (Option.some.inj hscan)).symm

theorem mem_of_mem_escape {c : Char} {s : Text} (h : c ∈ escape s) : c ∈ s ∨ c = '\\' := by
  obtain ⟨d, hd, hc⟩ := List.mem_flatMap.mp h
  unfold escapeChar at hc
  split at hc
  · rcases List.mem_cons.mp hc with rfl | hc
    · exact Or.inr rfl
    · exact Or.inl (List.mem_singleton.mp hc ▸ hd)
  · exact Or.inl (List.mem_singleton.mp hc ▸ hd)

/-- Escaping goes through a text in one pass and keeps texts apart. Behind the opening quote of a literal, a
scan ends at the closing quote, with the text of the literal and with what follows it, so that nothing else
has to be known about a literal in order to read on. -/
theorem quote_delimits (s rest : Text) :
    escape s = Text.replaceAll ['"'] ['\\', '"'] (Text.replaceAll ['\\'] ['\\', '\\'] s) ∧
    quote s ++ rest = '"' :: (escape s ++ '"' :: rest) ∧
    scan? (escape s ++ '"' :: rest) = some (s, rest) ∧
    (∀ t, escape (s ++ t) = escape s ++ escape t) ∧
    Function.Injective escape ∧
    Function.Injective fun p : Text × Text => quote p.1 ++ p.2 := by
  have hparts : quote s ++ rest = '"' :: (escape s ++ '"' :: rest) := by
    rw [quote, List.append_assoc, List.cons_append, List.singleton_append]
  exact ⟨escape_eq_replaceAll s, hparts, scan?_escape s rest, escape_append s, escape_injective,
    quote_append_injective⟩

/-- The backslash at the end of a text does not escape the closing quote. -/
example : scan? ("a\\\\\\\"\\\\\",".toList) = some ("a\\\"\\".toList, [',']) := rfl

end ClassList.Literal
