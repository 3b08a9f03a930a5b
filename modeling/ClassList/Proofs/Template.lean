import ClassList.Comment

/-! Comment templates: a placeholder gives way to its value where it stands, and text without braces is
kept. -/

namespace ClassList

theorem Text.eq_minus_or_isDigit_of_mem_ofInt {c : Char} {i : Int} (h : c ∈ ofInt i) :
    c = '-' ∨ c.isDigit = true := by
  have hdigit : ∀ n, c ∈ ofNat n → c.isDigit = true := fun _ hc =>
    Nat.isDigit_of_mem_toDigits (by decide) (by decide) hc
  cases i with
  | ofNat n => exact .inr (hdigit n h)
  | negSucc n => exact (List.mem_cons.mp h).imp_right (hdigit (n + 1))

namespace Placeholder

theorem read?_marker (p : Placeholder) (rest : Text) : read? (p.marker ++ rest) = some (p, rest) := by
  cases p <;> rfl

theorem marker_eq_cons (p : Placeholder) : ∃ rest, p.marker = '\x7b' :: rest := by
  cases p <;> exact ⟨_, rfl⟩

theorem read?_plain {c : Char} (h : c ≠ '\x7b') (rest : Text) : read? (c :: rest) = none := by
  rw [read?, List.findSome?_eq_none_iff]
  intro p _
  -- Every marker begins with a brace.
  obtain ⟨tail, htail⟩ := p.marker_eq_cons
  rw [htail, Text.after?, if_neg h.symm, Option.map_none]

end Placeholder

section Render

variable (v : CommentVariables)

@[simp] theorem renderComment_nil : renderComment v [] = [] := by
  rw [renderComment]

theorem renderComment_of_read? {p : Placeholder} {c : Char} {cs rest : Text}
    (h : Placeholder.read? (c :: cs) = some (p, rest)) :
    renderComment v (c :: cs) = p.value v ++ renderComment v rest := by
  rw [renderComment]
  split
  · rename_i hread
    rw [h] at hread
    cases hread
    rfl
  · rename_i hread
    rw [h] at hread
    cases hread

theorem renderComment_marker (p : Placeholder) (rest : Text) :
    renderComment v (p.marker ++ rest) = p.value v ++ renderComment v rest := by
  have hread := p.read?_marker rest
  cases p <;> exact renderComment_of_read? v hread

theorem renderComment_of_read?_none {c : Char} {cs : Text}
    (h : Placeholder.read? (c :: cs) = none) :
    renderComment v (c :: cs) = c :: renderComment v cs := by
  rw [renderComment]
  split
  · rename_i hread
    rw [h] at hread
    cases hread
  · rfl

theorem renderComment_plain {c : Char} (h : c ≠ '\x7b') (rest : Text) :
    renderComment v (c :: rest) = c :: renderComment v rest :=
  renderComment_of_read?_none v (Placeholder.read?_plain h rest)

theorem renderComment_append {front : Text} (h : ∀ c ∈ front, c ≠ '\x7b') (rest : Text) :
    renderComment v (front ++ rest) = front ++ renderComment v rest := by
  induction front with
  | nil => rfl
  | cons c front ih =>
    rw [List.cons_append, renderComment_plain v (h c (List.mem_cons_self ..)),
      ih fun d hd => h d (List.mem_cons_of_mem _ hd), List.cons_append]

theorem renderComment_of_plain {s : Text} (h : ∀ c ∈ s, c ≠ '\x7b') : renderComment v s = s := by
  simpa using renderComment_append v h []

/-- A comment is made of the characters of its template and of the values. -/
theorem mem_renderComment {c : Char} {template : Text} (h : c ∈ renderComment v template) :
    c ∈ template ∨ ∃ p : Placeholder, c ∈ p.value v := by
  induction template using renderComment.induct with
  | case1 => simp at h
  | case2 d cs p rest hread ih =>
    rw [renderComment_of_read? v hread, List.mem_append] at h
    rcases h with h | h
    · exact Or.inr ⟨p, h⟩
    · refine (ih h).imp_left fun hrest => ?_
      rw [Placeholder.read?_eq_some hread]
      exact List.mem_append_right _ hrest
  | case3 d cs hread ih =>
    rw [renderComment_of_read?_none v hread, List.mem_cons] at h
    rcases h with rfl | h
    · exact Or.inl (List.mem_cons_self ..)
    · exact (ih h).imp_left (List.mem_cons_of_mem _)

end Render

end ClassList
