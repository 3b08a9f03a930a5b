import ClassList.Text

/-! Replacement in texts: what is replaced where it stands, and what is passed over. -/

namespace ClassList.Text

variable {old new : Text}

theorem replaceAll_append_self (hold : old ≠ []) (rest : Text) :
    replaceAll old new (old ++ rest) = new ++ replaceAll old new rest := by
  obtain ⟨o, os, rfl⟩ := List.exists_cons_of_ne_nil hold
  have hthere : after? (o :: os) (o :: (os ++ rest)) = some rest := after?_eq_some_iff.mpr rfl
  rw [List.cons_append, replaceAll]
  split
  · rename_i found hfound
    rw [hthere] at hfound
    cases hfound
    rfl
  · rename_i hnone
    rw [hthere] at hnone
    cases hnone

theorem replaceAll_cons_of_not_prefix {c : Char} {cs : Text} (h : ¬old <+: c :: cs) :
    replaceAll old new (c :: cs) = c :: replaceAll old new cs := by
  cases old with
  | nil => exact absurd (List.nil_prefix ..) h
  | cons o os =>
    rw [replaceAll]
    split
    · rename_i found hfound
      exact absurd ⟨found, (after?_eq_some_iff.mp hfound).symm⟩ h
    · rfl

/-- A part whose characters are not the first one of what is replaced is passed over. -/
theorem replaceAll_append_of_forall_ne {o : Char} {os front : Text} (h : ∀ c ∈ front, c ≠ o)
    (rest : Text) : replaceAll (o :: os) new (front ++ rest) = front ++ replaceAll (o :: os) new rest := by
  induction front with
  | nil => rfl
  | cons c front ih =>
    obtain ⟨hc, hfront⟩ := List.forall_mem_cons.mp h
    have hnot : ¬o :: os <+: c :: (front ++ rest) := fun hprefix =>
      hc (List.cons_prefix_cons.mp hprefix).1.symm
    rw [List.cons_append, replaceAll_cons_of_not_prefix hnot, ih hfront, List.cons_append]

theorem replaceAll_of_forall_ne {o : Char} {os s : Text} (h : ∀ c ∈ s, c ≠ o) :
    replaceAll (o :: os) new s = s := by
  calc
    replaceAll (o :: os) new s = replaceAll (o :: os) new (s ++ []) := by rw [List.append_nil]
    _ = s ++ replaceAll (o :: os) new [] := replaceAll_append_of_forall_ne h []
    _ = s := by rw [replaceAll, List.append_nil]

/-- A character is replaced wherever it stands. -/
theorem replaceAll_singleton (o : Char) (s : Text) :
    replaceAll [o] new s = s.flatMap fun c => if c = o then new else [c] := by
  induction s with
  | nil => rw [replaceAll, List.flatMap_nil]
  | cons c s ih =>
    rw [List.flatMap_cons, ← ih]
    by_cases hc : c = o
    · subst hc
      rw [if_pos rfl]
      exact replaceAll_append_self (List.cons_ne_nil c []) s
    · have hnot : ¬[o] <+: c :: s := fun hprefix => hc (List.cons_prefix_cons.mp hprefix).1.symm
      rw [if_neg hc, replaceAll_cons_of_not_prefix hnot, List.singleton_append]

end ClassList.Text
