import ClassList.Json.Reader
import ClassList.Json.Literal
import ClassList.Proofs.Literal

/-! Literals of JSON read back. A literal is printable ASCII whatever the text is, its first quote without
a backslash in front is the one that closes it, and reading it gives the text. -/

namespace ClassList

namespace Text

/-! ### Hexadecimal numerals -/

theorem hexDigit?_digitChar : ∀ d < 16, hexDigit? (Nat.digitChar d) = some d := by decide

theorem length_hex (width n : Nat) : (hex width n).length = width := by
  induction width generalizing n with
  | zero => rfl
  | succ width ih => rw [hex, List.length_append, ih, List.length_singleton]

theorem ofHex?_concat (s : Text) (c : Char) :
    ofHex? (s ++ [c]) = (ofHex? s).bind fun n => (hexDigit? c).map (16 * n + ·) := by
  rw [ofHex?, List.foldlM_append, ← ofHex?]
  simp

theorem ofHex?_hex {width n : Nat} (h : n < Nat.pow 16 width) : ofHex? (hex width n) = some n := by
  induction width generalizing n with
  | zero =>
    rw [Nat.lt_one_iff.mp h]
    rfl
  | succ width ih =>
    have hpower : Nat.pow 16 (width + 1) = 16 * Nat.pow 16 width := Nat.mul_comm ..
    have hfront : n / 16 < Nat.pow 16 width := Nat.div_lt_of_lt_mul (hpower ▸ h)
    have hlast := hexDigit?_digitChar (n % 16) (Nat.mod_lt n (by decide))
    rw [hex, ofHex?_concat, ih hfront, Option.bind_some, hlast, Option.map_some, Nat.div_add_mod]

theorem exists_digitChar_of_mem_hex {c : Char} {width n : Nat} (h : c ∈ hex width n) :
    ∃ d < 16, c = Nat.digitChar d := by
  induction width generalizing n with
  | zero => exact absurd h List.not_mem_nil
  | succ width ih =>
    rw [hex, List.mem_append, List.mem_singleton] at h
    exact h.elim ih fun hlast => ⟨n % 16, Nat.mod_lt n (by decide), hlast⟩

end Text

namespace Json

/-- The characters that are escaped by one letter or mark, and the mark of each. -/
def shortEscapes : List (Char × Char) :=
  [('"', '"'), ('\\', '\\'), ('\n', 'n'), ('\r', 'r'), ('\t', 't'), ('\x08', 'b'), ('\x0c', 'f')]

/-- The ways in which a literal holds a character: as it is, behind a backslash, as a unit of 16 bits, or
as two units for the upper and the lower ten bits of what is beyond. -/
inductive Writes (c : Char) : Text → Prop
  | plain (hquote : c ≠ '"') (hslash : c ≠ '\\') (hprintable : ' ' ≤ c ∧ c ≤ '~') : Writes c [c]
  | short {mark : Char} (h : (c, mark) ∈ shortEscapes) : Writes c ['\\', mark]
  | unit (h : c.toNat < 0x10000) : Writes c (unitEscape c.toNat)
  | pair {upper lower : Nat} (hupper : upper < 0x400) (hlower : lower < 0x400)
      (h : c.toNat = 0x10000 + upper * 0x400 + lower) :
      Writes c (unitEscape (0xD800 + upper) ++ unitEscape (0xDC00 + lower))

theorem writes_literalChar (c : Char) : Writes c (literalChar c) := by
  unfold literalChar
  iterate 7
    split
    · exact .short (by subst c; decide)
  rename_i hquote hslash _ _ _ _ _
  split
  · next hprintable => exact .plain hquote hslash hprintable
  split
  · next hunit => exact .unit hunit
  · have hlt : c.toNat < 0x110000 := by
      rcases c.valid with h | h
      · exact Nat.lt_trans h (by decide)
      · exact h.2
    have hdiv := Nat.div_add_mod (c.toNat - 0x10000) 0x400
    exact .pair (by omega) (by omega) (by omega)

variable {c : Char} {written : Text}

/-! ### A literal as code -/

theorem Writes.isPrintable (h : Writes c written) : ∀ d ∈ written, ' ' ≤ d ∧ d ≤ '~' := by
  have hunit : ∀ n, ∀ d ∈ unitEscape n, ' ' ≤ d ∧ d ≤ '~' := by
    intro n
    have hdigit : ∀ d < 16, ' ' ≤ Nat.digitChar d ∧ Nat.digitChar d ≤ '~' := by decide
    refine List.forall_mem_cons.mpr ⟨by decide, List.forall_mem_cons.mpr ⟨by decide, fun d hd => ?_⟩⟩
    obtain ⟨digit, hlt, rfl⟩ := Text.exists_digitChar_of_mem_hex hd
    exact hdigit digit hlt
  cases h with
  | plain _ _ hprintable => exact List.forall_mem_singleton.mpr hprintable
  | short hmark =>
    have hmarks : ∀ e ∈ shortEscapes, ' ' ≤ e.2 ∧ e.2 ≤ '~' := by decide
    exact List.forall_mem_cons.mpr ⟨by decide, List.forall_mem_singleton.mpr (hmarks _ hmark)⟩
  | unit => exact hunit _
  | pair => exact List.forall_mem_append.mpr ⟨hunit _, hunit _⟩

/-- Where a literal ends does not depend on the characters that are written in it. -/
theorem Writes.snd_scan?_append (h : Writes c written) (rest : Text) :
    (Literal.scan? (written ++ rest)).map Prod.snd = (Literal.scan? rest).map Prod.snd := by
  have hunit : ∀ n rest, (Literal.scan? (unitEscape n ++ rest)).map Prod.snd =
      (Literal.scan? rest).map Prod.snd := by
    intro n rest
    have hdigit : ∀ d < 16, Nat.digitChar d ≠ '"' ∧ Nat.digitChar d ≠ '\\' := by decide
    have hplain : ∀ d ∈ Text.hex 4 n, d ≠ '"' ∧ d ≠ '\\' := by
      intro d hd
      obtain ⟨digit, hlt, rfl⟩ := Text.exists_digitChar_of_mem_hex hd
      exact hdigit digit hlt
    rw [unitEscape, List.cons_append, List.cons_append, Literal.scan?,
      Literal.scan?_append_of_plain hplain, Option.map_map, Option.map_map]
    rfl
  cases h with
  | plain hquote hslash =>
    rw [List.singleton_append, Literal.scan?_plain hquote hslash, Option.map_map]
    rfl
  | short =>
    rw [List.cons_append, List.singleton_append, Literal.scan?, Option.map_map]
    rfl
  | unit => exact hunit _ rest
  | pair => rw [List.append_assoc, hunit, hunit]

theorem snd_scan?_flatMap_literalChar (s rest : Text) :
    (Literal.scan? (s.flatMap literalChar ++ '"' :: rest)).map Prod.snd = some rest := by
  induction s with
  | nil => rfl
  | cons c s ih =>
    rw [List.flatMap_cons, List.append_assoc, (writes_literalChar c).snd_scan?_append, ih]

/-! ### Reading a literal -/

theorem readEscape?_of_mem_shortEscapes {mark : Char} (h : (c, mark) ∈ shortEscapes) (rest : Text) :
    readEscape? (mark :: rest) = some (c, rest) := by
  simp only [shortEscapes, List.mem_cons, List.not_mem_nil, or_false, Prod.mk.injEq] at h
  rcases h with ⟨rfl, rfl⟩ | ⟨rfl, rfl⟩ | ⟨rfl, rfl⟩ | ⟨rfl, rfl⟩ | ⟨rfl, rfl⟩ | ⟨rfl, rfl⟩ | ⟨rfl, rfl⟩ <;> rfl

theorem readUnit?_hex {unit : Nat} (h : unit < 0x10000) (rest : Text) :
    readUnit? (Text.hex 4 unit ++ rest) = some (unit, rest) := by
  have hlength := Text.length_hex 4 unit
  rw [readUnit?, List.take_left' hlength, List.drop_left' hlength, if_pos hlength,
    Text.ofHex?_hex h, Option.map_some]

theorem readEscapedUnit?_unit (h : c.toNat < 0x10000) (rest : Text) :
    readEscapedUnit? (Text.hex 4 c.toNat ++ rest) = some (c, rest) := by
  have hvalid : c.toNat < 0xD800 ∨ 0xDFFF < c.toNat := c.valid.imp_right And.left
  have hcharacter : character c.toNat = c := by
    rw [character, if_neg (by omega), Char.ofNat_toNat]
  simp only [readEscapedUnit?, readUnit?_hex h, Option.bind_eq_bind, Option.bind_some]
  rw [if_neg (by omega), hcharacter]

theorem readEscapedUnit?_pair {upper lower : Nat} (hupper : upper < 0x400) (hlower : lower < 0x400)
    (h : c.toNat = 0x10000 + upper * 0x400 + lower) (rest : Text) :
    readEscapedUnit? (Text.hex 4 (0xD800 + upper) ++ (unitEscape (0xDC00 + lower) ++ rest)) =
      some (c, rest) := by
  have hcharacter :
      character (0x10000 + (0xD800 + upper - 0xD800) * 0x400 + (0xDC00 + lower - 0xDC00)) = c := by
    rw [Nat.add_sub_cancel_left, Nat.add_sub_cancel_left, ← h, character, if_neg (by omega),
      Char.ofNat_toNat]
  have hhigh : ∀ rest, readUnit? (Text.hex 4 (0xD800 + upper) ++ rest) = some (0xD800 + upper, rest) :=
    readUnit?_hex (by omega)
  have hlow : readUnit? (Text.hex 4 (0xDC00 + lower) ++ rest) = some (0xDC00 + lower, rest) :=
    readUnit?_hex (by omega) rest
  simp only [readEscapedUnit?, hhigh, unitEscape, List.cons_append, Option.bind_eq_bind,
    Option.bind_some, hlow]
  rw [if_pos (by omega), if_pos (by omega), hcharacter]

/-- A character is read from each of its forms, by one unit of fuel. -/
theorem Writes.readString?_append (h : Writes c written) (fuel : Nat) (rest : Text) :
    readString? (fuel + 1) (written ++ rest) =
      (readString? fuel rest).map fun (content, after) => (c :: content, after) := by
  have hescape : ∀ escape, readEscape? (escape ++ rest) = some (c, rest) →
      readString? (fuel + 1) ('\\' :: escape ++ rest) =
        (readString? fuel rest).map fun (content, after) => (c :: content, after) := by
    intro escape hread
    rw [List.cons_append, readString?, if_neg (by decide), if_pos rfl, hread, Option.bind_eq_bind,
      Option.bind_some]
    dsimp only
    cases readString? fuel rest <;> rfl
  cases h with
  | plain hquote hslash hprintable =>
    have hcontrol : ¬c.toNat < 0x20 := Nat.not_lt.mpr hprintable.1
    rw [List.singleton_append, readString?, if_neg hquote, if_neg hslash, if_neg hcontrol]
    cases readString? fuel rest <;> rfl
  | short hmark => exact hescape [_] (readEscape?_of_mem_shortEscapes hmark rest)
  | unit hunit => exact hescape ('u' :: _) (readEscapedUnit?_unit hunit rest)
  | pair hupper hlower hcode =>
    rw [unitEscape, List.cons_append, List.cons_append]
    refine hescape ('u' :: (_ ++ _)) ?_
    rw [List.cons_append, List.append_assoc, readEscape?]
    exact readEscapedUnit?_pair hupper hlower hcode rest

theorem readString?_flatMap_literalChar {s : Text} {fuel : Nat} (h : s.length < fuel) (rest : Text) :
    readString? fuel (s.flatMap literalChar ++ '"' :: rest) = some (s, rest) := by
  induction s generalizing fuel with
  | nil =>
    obtain ⟨fuel, rfl⟩ := Nat.exists_eq_add_one_of_ne_zero (Nat.ne_of_gt h)
    rw [List.flatMap_nil, List.nil_append, readString?, if_pos rfl]
  | cons c s ih =>
    obtain ⟨fuel, rfl⟩ := Nat.exists_eq_add_one_of_ne_zero (Nat.ne_zero_of_lt h)
    rw [List.flatMap_cons, List.append_assoc, (writes_literalChar c).readString?_append,
      ih (Nat.lt_of_succ_lt_succ h), Option.map_some]

theorem Writes.ne_nil (h : Writes c written) : written ≠ [] := by
  cases h <;> exact List.cons_ne_nil _ _

theorem length_le_length_flatMap_literalChar (s : Text) : s.length ≤ (s.flatMap literalChar).length := by
  induction s with
  | nil => exact Nat.zero_le _
  | cons c s ih =>
    have hpos := List.length_pos_iff.mpr (writes_literalChar c).ne_nil
    rw [List.flatMap_cons, List.length_append, List.length_cons]
    omega

/-- The value of a literal is its text, whatever follows the closing quote. -/
theorem readValue?_literal (s : Text) (fuel : Nat) (rest : Text) :
    readValue? (fuel + 1) (literal s ++ rest) = some (.text s, rest) := by
  have hlength : s.length < (s.flatMap literalChar ++ '"' :: rest).length + 1 := by
    have := length_le_length_flatMap_literalChar s
    rw [List.length_append]
    omega
  rw [literal, List.append_assoc, List.cons_append, List.singleton_append, readValue?,
    readString?_flatMap_literalChar hlength rest, Option.map_some]

theorem read?_literal (s : Text) : read? (literal s) = some (.text s) := by
  have hread := readValue?_literal s (2 * (literal s).length + 1) []
  rw [List.append_nil] at hread
  have hskip : skipSpace (literal s) = literal s := by
    rw [skipSpace, literal, List.cons_append, List.dropWhile_cons_of_neg (by decide)]
  rw [read?, hskip, hread]
  rfl

end Json

end ClassList
