import Mathlib.Data.Bool.AllAny
import Mathlib.Logic.Function.Basic
import ClassList.Proofs.Replacement
import ClassList.Proofs.Template

/-! Templates as lines of characters and placeholders. To fill in all placeholders in one pass is to replace
their markers one after the other, the name of the group last: numerals can neither bring about a marker
nor break one, but a name can. -/

namespace ClassList

namespace Placeholder

/-- A brace opens a marker, and there is no other one in it. -/
theorem exists_marker_eq (p : Placeholder) :
    ∃ body, p.marker = '\x7b' :: body ∧ ∀ c ∈ body, c ≠ '\x7b' := by
  cases p <;> exact ⟨_, rfl, List.all_iff_forall_prop.mp (by decide)⟩

theorem marker_append_inj {p q : Placeholder} {s t : Text} (h : p.marker ++ s = q.marker ++ t) :
    p = q ∧ s = t := by
  have hread := p.read?_marker s
  rw [h, q.read?_marker t] at hread
  cases hread
  exact ⟨rfl, rfl⟩

/-- Markers do not overlap: behind a marker, the next one comes after its end. -/
theorem exists_of_marker_append_eq {p q : Placeholder} {c : Char} {front back rest : Text}
    (h : q.marker ++ rest = c :: front ++ p.marker ++ back) :
    ∃ between, c :: front = q.marker ++ between ∧ rest = between ++ p.marker ++ back := by
  obtain ⟨body, hbody, hplain⟩ := q.exists_marker_eq
  obtain ⟨body', hbody', -⟩ := p.exists_marker_eq
  rw [hbody, List.append_assoc, List.cons_append, List.cons_append, List.cons.injEq,
    List.append_eq_append_iff] at h
  obtain ⟨rfl, ⟨between, rfl, rfl⟩ | ⟨inner, rfl, hinner⟩⟩ := h
  · exact ⟨between, by rw [hbody, List.cons_append], (List.append_assoc ..).symm⟩
  · cases inner with
    | nil => exact ⟨[], by simp [hbody], hinner.symm⟩
    | cons d inner =>
      -- The brace that opens the later marker would stand inside the earlier one.
      rw [hbody', List.cons_append, List.cons_append, List.cons.injEq] at hinner
      exact absurd hinner.1.symm (hplain d (by simp))

end Placeholder

/-- A template is made of single characters and of placeholders. -/
inductive TemplatePiece where
  | char (c : Char)
  | placeholder (p : Placeholder)
deriving DecidableEq

namespace TemplatePiece

/-- The text of a piece, with a given text for each placeholder. -/
def write (f : Placeholder → Text) : TemplatePiece → Text
  | .char c => [c]
  | .placeholder p => f p

/-- The pieces of a template, read from left to right: where a marker stands, there is its placeholder, and
any other character stands for itself. -/
inductive Reads : (template : Text) → List TemplatePiece → Prop
  | nil : Reads [] []
  | placeholder (p : Placeholder) {rest : Text} {pieces : List TemplatePiece} (h : Reads rest pieces) :
      Reads (p.marker ++ rest) (.placeholder p :: pieces)
  | char {c : Char} {rest : Text} {pieces : List TemplatePiece}
      (hc : ∀ p : Placeholder, ¬p.marker <+: c :: rest) (h : Reads rest pieces) :
      Reads (c :: rest) (.char c :: pieces)

theorem exists_reads (template : Text) : ∃ pieces, Reads template pieces := by
  induction template using renderComment.induct with
  | case1 => exact ⟨[], .nil⟩
  | case2 c cs p rest hread ih =>
    obtain ⟨pieces, h⟩ := ih
    rw [Placeholder.read?_eq_some hread]
    exact ⟨.placeholder p :: pieces, .placeholder p h⟩
  | case3 c cs hread ih =>
    obtain ⟨pieces, h⟩ := ih
    refine ⟨.char c :: pieces, .char ?_ h⟩
    rintro p ⟨rest, hmarker⟩
    rw [← hmarker, Placeholder.read?_marker] at hread
    cases hread

section Reads

variable {template : Text} {pieces : List TemplatePiece} (h : Reads template pieces)
include h

theorem Reads.flatMap_marker : pieces.flatMap (write Placeholder.marker) = template := by
  induction h with
  | nil => rfl
  | placeholder p h ih => rw [List.flatMap_cons, ih, write]
  | char hc h ih => rw [List.flatMap_cons, ih, write, List.singleton_append]

theorem Reads.renderComment_eq (v : CommentVariables) :
    renderComment v template = pieces.flatMap (write (Placeholder.value v)) := by
  induction h with
  | nil => exact renderComment_nil v
  | placeholder p h ih => rw [renderComment_marker, ih, List.flatMap_cons, write]
  | @char c rest pieces hc h ih =>
    have hread : Placeholder.read? (c :: rest) = none := by
      rw [Option.eq_none_iff_forall_ne_some]
      rintro ⟨p, found⟩ hfound
      exact hc p ⟨found, (Placeholder.read?_eq_some hfound).symm⟩
    rw [renderComment_of_read?_none v hread, ih, List.flatMap_cons, write, List.singleton_append]

/-- Wherever a marker stands in a template, it is read as its placeholder. -/
theorem Reads.occurrence_iff {p : Placeholder} {front back : Text} :
    template = front ++ p.marker ++ back ↔ ∃ before after,
      pieces = before ++ .placeholder p :: after ∧
        front = before.flatMap (write Placeholder.marker) ∧
        back = after.flatMap (write Placeholder.marker) := by
  constructor
  · intro htemplate
    induction h generalizing front with
    | nil =>
      obtain ⟨body, hbody, -⟩ := p.exists_marker_eq
      simp [hbody] at htemplate
    | @placeholder q rest pieces h ih =>
      cases front with
      | nil =>
        obtain ⟨rfl, rfl⟩ := Placeholder.marker_append_inj htemplate
        exact ⟨[], pieces, rfl, rfl, h.flatMap_marker.symm⟩
      | cons c front =>
        obtain ⟨between, hfront, hrest⟩ := Placeholder.exists_of_marker_append_eq htemplate
        obtain ⟨before, after, rfl, rfl, rfl⟩ := ih hrest
        exact ⟨.placeholder q :: before, after, rfl, hfront, rfl⟩
    | @char c rest pieces hc h ih =>
      cases front with
      | nil => exact absurd ⟨back, htemplate.symm⟩ (hc p)
      | cons d front =>
        obtain ⟨rfl, hrest⟩ := List.cons.inj htemplate
        obtain ⟨before, after, rfl, rfl, rfl⟩ := ih hrest
        exact ⟨.char c :: before, after, rfl, rfl, rfl⟩
  · rintro ⟨before, after, rfl, rfl, rfl⟩
    rw [← h.flatMap_marker, List.flatMap_append, List.flatMap_cons, write, List.append_assoc]

end Reads

/-- A text that has nothing in common with any marker. -/
structure Inert (s : Text) : Prop where
  ne_nil : s ≠ []
  not_mem : ∀ c ∈ s, ∀ p : Placeholder, c ∉ p.marker

/-- Texts for the placeholders, some of which are filled in while the others are markers still. -/
def PartlyFilled (f : Placeholder → Text) : Prop := ∀ p, f p = p.marker ∨ Inert (f p)

theorem partlyFilled_marker : PartlyFilled Placeholder.marker := fun _ => .inl rfl

theorem PartlyFilled.update {f : Placeholder → Text} (hf : PartlyFilled f) (p : Placeholder) {s : Text}
    (hs : Inert s) : PartlyFilled (Function.update f p s) := by
  intro q
  by_cases hq : q = p
  · subst hq
    rw [Function.update_self]
    exact .inr hs
  · rw [Function.update_of_ne hq]
    exact hf q

section Replace

variable {f : Placeholder → Text} (hf : PartlyFilled f)
include hf

/-- What stands behind the brace of a marker is found only where it is written in the template. -/
theorem prefix_of_prefix_write {p : Placeholder} {s : Text} (hs : ∀ c ∈ s, c ≠ '\x7b' ∧ c ∈ p.marker)
    {pieces : List TemplatePiece} (h : s <+: pieces.flatMap (write f)) :
    s <+: pieces.flatMap (write Placeholder.marker) := by
  induction pieces generalizing s with
  | nil => exact h
  | cons piece pieces ih =>
    cases s with
    | nil => exact List.nil_prefix
    | cons c s =>
      obtain ⟨hc, hs⟩ := List.forall_mem_cons.mp hs
      rw [List.flatMap_cons] at h ⊢
      cases piece with
      | char d =>
        rw [write, List.singleton_append, List.cons_prefix_cons] at h ⊢
        exact h.imp_right (ih hs)
      | placeholder q =>
        rw [write] at h
        rcases hf q with hq | hq
        · obtain ⟨body, hbody, -⟩ := q.exists_marker_eq
          rw [hq, hbody, List.cons_append, List.cons_prefix_cons] at h
          exact absurd h.1 hc.1
        · obtain ⟨d, numeral, hd⟩ := List.exists_cons_of_ne_nil hq.ne_nil
          rw [hd, List.cons_append, List.cons_prefix_cons] at h
          have hmem : c ∈ f q := by rw [hd, h.1]; exact List.mem_cons_self ..
          exact absurd hc.2 (hq.not_mem c hmem p)

/-- The texts of other placeholders are passed over when a marker is replaced. -/
theorem replaceAll_append_of_ne {p q : Placeholder} (hne : p ≠ q) (new rest : Text) :
    Text.replaceAll p.marker new (f q ++ rest) = f q ++ Text.replaceAll p.marker new rest := by
  obtain ⟨body, hbody, -⟩ := p.exists_marker_eq
  rcases hf q with hq | hq
  · obtain ⟨body', hbody', hplain⟩ := q.exists_marker_eq
    have hnot : ¬p.marker <+: '\x7b' :: (body' ++ rest) := by
      rintro ⟨after, hafter⟩
      rw [← List.cons_append, ← hbody'] at hafter
      exact hne (Placeholder.marker_append_inj hafter).1
    rw [hq, hbody', List.cons_append, Text.replaceAll_cons_of_not_prefix hnot, hbody,
      Text.replaceAll_append_of_forall_ne hplain, List.cons_append]
  · have hplain : ∀ c ∈ f q, c ≠ '\x7b' := by
      rintro c hc rfl
      exact hq.not_mem _ hc p (hbody ▸ List.mem_cons_self ..)
    rw [hbody, Text.replaceAll_append_of_forall_ne hplain]

/-- To replace a marker is to fill in its placeholder, where other placeholders are markers still or are
filled in with texts that have nothing in common with a marker. -/
theorem Reads.replaceAll_marker {template : Text} {pieces : List TemplatePiece}
    (h : Reads template pieces) {p : Placeholder} (hp : f p = p.marker) (new : Text) :
    Text.replaceAll p.marker new (pieces.flatMap (write f)) =
      pieces.flatMap (write (Function.update f p new)) := by
  obtain ⟨body, hbody, hplain⟩ := p.exists_marker_eq
  have hne : p.marker ≠ [] := by simp [hbody]
  induction h with
  | nil => rw [List.flatMap_nil, List.flatMap_nil, Text.replaceAll]
  | @placeholder q rest pieces h ih =>
    rw [List.flatMap_cons, List.flatMap_cons, write, write, ← ih]
    by_cases hq : p = q
    · subst hq
      rw [hp, Text.replaceAll_append_self hne, Function.update_self]
    · rw [Function.update_of_ne (Ne.symm hq), replaceAll_append_of_ne hf hq]
  | @char c rest pieces hc h ih =>
    rw [List.flatMap_cons, List.flatMap_cons, write, write, ← ih, List.singleton_append,
      List.singleton_append]
    -- A marker that began here would stand in the template already.
    refine Text.replaceAll_cons_of_not_prefix fun hprefix => hc p ?_
    rw [hbody, List.cons_prefix_cons] at hprefix
    have hmem : ∀ d ∈ body, d ≠ '\x7b' ∧ d ∈ p.marker := fun d hd =>
      ⟨hplain d hd, hbody ▸ List.mem_cons_of_mem _ hd⟩
    rw [hbody, List.cons_prefix_cons, ← h.flatMap_marker]
    exact hprefix.imp_right (prefix_of_prefix_write hf hmem)

end Replace

theorem inert_ofInt (i : Int) : Inert (Text.ofInt i) where
  ne_nil := by
    cases i with
    | ofNat n => exact Nat.toDigits_ne_nil
    | negSucc n => exact List.cons_ne_nil _ _
  not_mem := by
    rintro c hc p hmarker
    have hmark : ∀ c ∈ p.marker, c ≠ '-' ∧ c.isDigit = false := by
      cases p <;> exact List.all_iff_forall_prop.mp (by decide)
    obtain ⟨hminus, hdigit⟩ := hmark c hmarker
    rcases Text.eq_minus_or_isDigit_of_mem_ofInt hc with h | h
    · exact hminus h
    · exact Bool.eq_false_iff.mp hdigit h

end TemplatePiece

open TemplatePiece in
/-- A template comes apart into characters and placeholders, with a placeholder just where a marker is
written, and a comment has the characters as they are and the values in place of the placeholders. The
same comes of replacing the markers of the index, of the count and of the name, in this order. -/
theorem renderComment_expands (template : Text) :
    ∃ pieces : List TemplatePiece,
      template = pieces.flatMap (write Placeholder.marker) ∧
      (∀ (p : Placeholder) (front back : Text),
        template = front ++ p.marker ++ back ↔ ∃ before after,
          pieces = before ++ .placeholder p :: after ∧
            front = before.flatMap (write Placeholder.marker) ∧
            back = after.flatMap (write Placeholder.marker)) ∧
      ∀ v : CommentVariables,
        renderComment v template = pieces.flatMap (write (Placeholder.value v)) ∧
        renderComment v template =
          Text.replaceAll Placeholder.groupName.marker v.groupName
            (Text.replaceAll Placeholder.count.marker (Text.ofInt v.count)
              (Text.replaceAll Placeholder.index.marker (Text.ofInt v.index) template)) := by
  obtain ⟨pieces, h⟩ := exists_reads template
  refine ⟨pieces, h.flatMap_marker.symm, fun _ _ _ => h.occurrence_iff, fun v =>
    ⟨h.renderComment_eq v, ?_⟩⟩
  have hnumbered := partlyFilled_marker.update .index (inert_ofInt v.index)
  have hcounted := hnumbered.update .count (inert_ofInt v.count)
  have hindex := h.replaceAll_marker partlyFilled_marker (p := .index) rfl (Text.ofInt v.index)
  have hcount := h.replaceAll_marker hnumbered (p := .count) rfl (Text.ofInt v.count)
  have hname := h.replaceAll_marker hcounted (p := .groupName) rfl v.groupName
  have hfilled : Function.update (Function.update (Function.update Placeholder.marker .index
      (Text.ofInt v.index)) .count (Text.ofInt v.count)) .groupName v.groupName =
        Placeholder.value v := by
    funext p
    cases p <;> rfl
  rw [h.renderComment_eq v, ← hfilled, ← hname, ← hcount, ← hindex, h.flatMap_marker]

/-- A name that completes the braces around its marker is not looked at again. -/
example : renderComment ⟨"index", 3, 1⟩ "\x7b\x7bgroupName\x7d\x7d \x7bcount\x7d" =
    "\x7bindex\x7d 1".toList := by
  decide +kernel

end ClassList
