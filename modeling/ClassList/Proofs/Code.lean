import ClassList.Proofs.Decoding

/-! Code without its comments. A comment is recognised outside literals: one of a line reaches to the
end of the line, one of a block to its closing mark. -/

namespace ClassList.Code

open Literal (lineTerminators)

inductive Place where
  | code
  | literal (quote : Char)
  | lineComment
  | blockComment

def isQuote (c : Char) : Bool := c = '"' || c = '\'' || c = '`'

/-- What is left of code without its comments, read from a place on. The end of a line does not belong
to the comment before it. -/
def strip : Place → Text → Text
  | _, [] => []
  | .code, '/' :: '/' :: rest => strip .lineComment rest
  | .code, '/' :: '*' :: rest => strip .blockComment rest
  | .code, c :: rest => c :: strip (if isQuote c then .literal c else .code) rest
  | .literal quote, '\\' :: c :: rest => '\\' :: c :: strip (.literal quote) rest
  | .literal quote, c :: rest => c :: strip (if c = quote then .code else .literal quote) rest
  | .lineComment, c :: rest =>
    if lineTerminators.contains c then c :: strip .code rest else strip .lineComment rest
  | .blockComment, '*' :: '/' :: rest => strip .code rest
  | .blockComment, _ :: rest => strip .blockComment rest

/-- A character that opens neither a comment nor a literal. -/
def isPlain (c : Char) : Bool := c ≠ '/' && !isQuote c

theorem strip_plain {c : Char} (h : isPlain c = true) (rest : Text) :
    strip .code (c :: rest) = c :: strip .code rest := by
  simp only [isPlain, Bool.and_eq_true, decide_eq_true_eq, Bool.not_eq_true'] at h
  obtain ⟨hslash, hquote⟩ := h
  rw [strip, hquote]
  · rfl
  · exact fun _ hc => absurd hc hslash
  · exact fun _ hc => absurd hc hslash

theorem strip_append {s : Text} (h : ∀ c ∈ s, isPlain c = true) (rest : Text) :
    strip .code (s ++ rest) = s ++ strip .code rest := by
  induction s with
  | nil => rfl
  | cons c s ih =>
    rw [List.cons_append, strip_plain (h c (List.mem_cons_self ..)),
      ih fun d hd => h d (List.mem_cons_of_mem _ hd), List.cons_append]

theorem strip_escape (s rest : Text) :
    strip (.literal '"') (Literal.escape s ++ '"' :: rest) =
      Literal.escape s ++ '"' :: strip .code rest := by
  induction s with
  | nil => rfl
  | cons c s ih =>
    rw [Literal.escape, List.flatMap_cons, List.append_assoc, List.append_assoc,
      ← Literal.escape, ← ih, Literal.escapeChar]
    split
    · rfl
    · rename_i hplain
      obtain ⟨hquote, hslash⟩ := not_or.mp hplain
      rw [List.singleton_append, strip, if_neg hquote]
      · rfl
      · exact fun _ _ hc => absurd hc hslash

/-- A literal is kept as it is, whatever it holds. -/
theorem strip_quote (s rest : Text) :
    strip .code (Literal.quote s ++ rest) = Literal.quote s ++ strip .code rest := by
  rw [Literal.quote, List.append_assoc, List.cons_append]
  show '"' :: strip (.literal '"') (Literal.escape s ++ '"' :: rest) = _
  rw [strip_escape]
  simp

theorem strip_lineComment {body : Text} (h : ∀ c ∈ body, c ∉ lineTerminators) (rest : Text) :
    strip .lineComment (body ++ '\n' :: rest) = '\n' :: strip .code rest := by
  induction body with
  | nil => rfl
  | cons c body ih =>
    have hc : lineTerminators.contains c = false := by
      simpa using h c (List.mem_cons_self ..)
    rw [List.cons_append, strip, hc]
    exact ih fun d hd => h d (List.mem_cons_of_mem _ hd)

theorem strip_blockComment_cons {c : Char} {rest : Text} (h : ¬['*', '/'] <+: c :: rest) :
    strip .blockComment (c :: rest) = strip .blockComment rest := by
  rw [strip]
  rintro tail rfl rfl
  exact h ⟨tail, rfl⟩

/-- A block comment ends at the closing mark that follows its text. -/
theorem strip_blockComment {body : Text} (h : Text.hasPart ['*', '/'] body = false) (rest : Text) :
    strip .blockComment (body ++ ' ' :: '*' :: '/' :: rest) = strip .code rest := by
  induction body with
  | nil => rfl
  | cons c body ih =>
    rw [Text.hasPart, Bool.or_eq_false_iff] at h
    rw [List.cons_append, strip_blockComment_cons, ih h.2]
    -- The mark is not in the text, and it does not begin in it, since a space comes next.
    rintro ⟨tail, htail⟩
    cases body with
    | nil => simp at htail
    | cons d body =>
      have hstart : '*' = c → '/' ≠ d := by simpa [List.isPrefixOf] using h.1
      simp only [List.cons_append, List.nil_append, List.cons.injEq] at htail
      exact hstart htail.1 htail.2.1

/-- Without its comments a line comes down to another one, and what follows is read as code again. -/
def StripsTo (line kept : Text) : Prop :=
  ∀ rest, strip .code (line ++ '\n' :: rest) = kept ++ '\n' :: strip .code rest

theorem isPlain_of_mem_spaces {c : Char} {n : Nat} (h : c ∈ Text.spaces n) : isPlain c = true := by
  rw [List.eq_of_mem_replicate h]
  rfl

theorem stripsTo_lineComment {body : Text} (h : ∀ c ∈ body, c ∉ lineTerminators) (n : Nat) :
    StripsTo (Text.spaces n ++ '/' :: '/' :: body) (Text.spaces n) := by
  intro rest
  rw [List.append_assoc, strip_append fun _ => isPlain_of_mem_spaces]
  exact congrArg (Text.spaces n ++ ·) (strip_lineComment h rest)

theorem stripsTo_blockComment {body : Text} (h : Text.hasPart ['*', '/'] body = false) (n : Nat) :
    StripsTo (Text.spaces n ++ '/' :: '*' :: (body ++ [' ', '*', '/'])) (Text.spaces n) := by
  intro rest
  rw [List.append_assoc, strip_append fun _ => isPlain_of_mem_spaces]
  show Text.spaces n ++ strip .blockComment (body ++ [' ', '*', '/'] ++ '\n' :: rest) = _
  rw [List.append_assoc]
  exact congrArg (Text.spaces n ++ ·) (strip_blockComment h ('\n' :: rest))

theorem stripsTo_quote (n : Nat) (s : Text) {after : Text} (h : ∀ c ∈ after, isPlain c = true) :
    StripsTo (Text.spaces n ++ Literal.quote s ++ after) (Text.spaces n ++ Literal.quote s ++ after) := by
  intro rest
  rw [List.append_assoc, List.append_assoc, strip_append fun _ => isPlain_of_mem_spaces,
    List.append_assoc, strip_quote, strip_append h]
  simp only [List.append_assoc]
  rw [strip_plain (c := '\n') rfl]

end ClassList.Code
