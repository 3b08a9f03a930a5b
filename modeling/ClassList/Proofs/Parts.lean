import Mathlib.Data.Set.Function
import ClassList.Proofs.Tokens
import ClassList.Proofs.Words

/-! A class and its parts, which are the modifiers and then the base. Put together with colons the parts
are the class again, and whatever texts without colons are put together are the parts of the result. So
classes as they are written and lists of parts correspond one to one. -/

namespace ClassList

namespace Text

/-- A text is cut into one piece more than it has separators. -/
theorem length_splitOn (sep : Char) (s : Text) : (s.splitOn sep).length = s.count sep + 1 := by
  induction s with
  | nil => rfl
  | cons c s ih =>
    rw [List.splitOn_cons_eq_if_modifyHead, List.count_cons]
    split
    · rw [List.length_cons, ih]
    · rw [List.length_modifyHead, ih]

theorem not_mem_of_mem_splitOn {sep : Char} {s piece : Text} (h : piece ∈ s.splitOn sep) :
    sep ∉ piece := by
  induction s generalizing piece with
  | nil =>
    obtain rfl := List.mem_singleton.mp h
    exact List.not_mem_nil
  | cons c s ih =>
    rw [List.splitOn_cons_eq_if_modifyHead] at h
    split at h
    · rcases List.mem_cons.mp h with rfl | h
      · exact List.not_mem_nil
      · exact ih h
    · rename_i hc
      -- The character joins the first piece, and the others are those of the rest.
      cases hsplit : s.splitOn sep with
      | nil => exact absurd hsplit (List.splitOn_ne_nil sep s)
      | cons first pieces =>
        rw [hsplit, List.modifyHead_cons] at h
        have hpieces : ∀ piece ∈ first :: pieces, sep ∉ piece := fun _ hmem => ih (hsplit ▸ hmem)
        rcases List.mem_cons.mp h with rfl | h
        · have hne : sep ≠ c := fun heq => hc (beq_iff_eq.mpr heq.symm)
          exact List.not_mem_cons_of_ne_of_not_mem hne (hpieces first (List.mem_cons_self ..))
        · exact hpieces piece (List.mem_cons_of_mem _ h)

end Text

namespace Token

/-- The modifiers of a class, and then its base. -/
def parts (t : Token) : List Text := t.modifiers ++ [t.base]

/-- What the parts of a class can be: texts without colons, and at least one of them. -/
structure AreParts (texts : List Text) : Prop where
  ne_nil : texts ≠ []
  undivided : ∀ text ∈ texts, delimiter ∉ text

theorem getLast_parts (t : Token) (h : t.parts ≠ []) : t.parts.getLast h = t.base :=
  List.getLast_concat ..

theorem parts_ofText (raw : Text) : (ofText raw).parts = raw.splitOn delimiter := by
  have hne : raw.splitOn delimiter ≠ [] := List.splitOn_ne_nil delimiter raw
  calc (ofText raw).parts
      = (raw.splitOn delimiter).dropLast ++ [(raw.splitOn delimiter).getLastD []] := rfl
    _ = (raw.splitOn delimiter).dropLast ++ [(raw.splitOn delimiter).getLast hne] := by
        rw [List.getLastD_eq_getLast?, List.getLast?_eq_some_getLast hne, Option.getD_some]
    _ = raw.splitOn delimiter := List.dropLast_concat_getLast hne

theorem intercalate_parts_ofText (raw : Text) :
    List.intercalate [delimiter] (ofText raw).parts = raw := by
  rw [parts_ofText, List.intercalate_splitOn]

theorem areParts_parts_ofText (raw : Text) : AreParts (ofText raw).parts where
  ne_nil := List.append_ne_nil_of_right_ne_nil _ (List.cons_ne_nil _ _)
  undivided _ h := Text.not_mem_of_mem_splitOn (parts_ofText raw ▸ h)

theorem length_modifiers_ofText (raw : Text) :
    (ofText raw).modifiers.length = raw.count delimiter := by
  have hlength : (ofText raw).parts.length = raw.count delimiter + 1 := by
    rw [parts_ofText, Text.length_splitOn]
  simpa [parts] using hlength

theorem AreParts.parts_ofText_intercalate {texts : List Text} (h : AreParts texts) :
    (ofText (List.intercalate [delimiter] texts)).parts = texts := by
  rw [parts_ofText, List.splitOn_intercalate delimiter h.undivided h.ne_nil]

theorem AreParts.base_ofText_intercalate {texts : List Text} (h : AreParts texts) :
    (ofText (List.intercalate [delimiter] texts)).base = texts.getLast h.ne_nil := by
  rw [← getLast_parts _ (areParts_parts_ofText _).ne_nil]
  exact List.getLast_congr _ _ h.parts_ofText_intercalate

/-- A class is its base behind a variant part. -/
theorem exists_variantPart (raw : Text) :
    ∃ front, IsVariantPart front ∧ raw = front ++ (ofText raw).base := by
  have hraw := intercalate_parts_ofText raw
  by_cases hnil : (ofText raw).modifiers = []
  · refine ⟨[], .inl rfl, ?_⟩
    rw [parts, hnil, List.nil_append, List.intercalate_singleton] at hraw
    exact hraw.symm
  · refine ⟨List.intercalate [delimiter] (ofText raw).modifiers ++ [delimiter],
      .inr List.getLast?_concat, ?_⟩
    rw [parts, Text.intercalate_append hnil (List.cons_ne_nil _ _), List.intercalate_singleton] at hraw
    exact hraw.symm

theorem bijOn_parts_ofText :
    Set.BijOn (fun raw => (ofText raw).parts) Set.univ {texts | AreParts texts} := by
  have hinverse : Set.InvOn (List.intercalate [delimiter]) (fun raw => (ofText raw).parts)
      Set.univ {texts | AreParts texts} :=
    ⟨fun raw _ => intercalate_parts_ofText raw, fun _ h => AreParts.parts_ofText_intercalate h⟩
  exact hinverse.bijOn (fun raw _ => areParts_parts_ofText raw) fun _ _ => Set.mem_univ _

/-- The parts of a class hold no colons, and with colons between them they are the class again. So there is
a modifier for each colon, and tokens with equal parts are the same class. Conversely, texts
without colons that are put together with colons are the parts of that class, and the last of them is
its base. -/
theorem ofText_parts_inverse :
    (∀ raw : Text, (ofText raw).original = raw ∧
      List.intercalate [delimiter] (ofText raw).parts = raw ∧
      (∀ part ∈ (ofText raw).parts, delimiter ∉ part) ∧
      (ofText raw).modifiers.length = raw.count delimiter) ∧
    (∀ (texts : List Text) (h : AreParts texts),
      (ofText (List.intercalate [delimiter] texts)).parts = texts ∧
      (ofText (List.intercalate [delimiter] texts)).base = texts.getLast h.ne_nil) ∧
    (∀ raw raw' : Text, (ofText raw).parts = (ofText raw').parts →
      (ofText raw).original = (ofText raw').original) ∧
    Set.BijOn (fun raw => (ofText raw).parts) Set.univ {texts | AreParts texts} := by
  refine ⟨fun raw => ⟨rfl, intercalate_parts_ofText raw, (areParts_parts_ofText raw).undivided,
    length_modifiers_ofText raw⟩, fun _ h => ⟨h.parts_ofText_intercalate,
    h.base_ofText_intercalate⟩, fun raw raw' h => ?_, bijOn_parts_ofText⟩
  exact bijOn_parts_ofText.injOn (Set.mem_univ raw) (Set.mem_univ raw') h

/-- Empty parts at both ends and between two colons, and a colon in brackets. -/
theorem ofText_parts_inverse_empty :
    let texts := Text.ofStrings ["", "md", "", "[&", "p]", ""]
    AreParts texts ∧ (ofText ":md::[&:p]:").parts = texts ∧ (ofText ":md::[&:p]:").base = [] ∧
      (ofText ":md::[&:p]:").modifiers.length = 5 := by
  intro texts
  obtain ⟨hparts, hjoined, -, -⟩ := ofText_parts_inverse
  have h : AreParts texts := ⟨by decide, by decide⟩
  have hjoin : List.intercalate [delimiter] texts = ":md::[&:p]:".toList := by decide
  obtain ⟨htexts, hbase⟩ := hjoined texts h
  rw [hjoin] at htexts hbase
  obtain ⟨-, -, -, hcolons⟩ := hparts ":md::[&:p]:"
  exact ⟨h, htexts, hbase, hcolons.trans (by decide)⟩

end Token

end ClassList
