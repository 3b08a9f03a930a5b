import Mathlib.Data.List.Lex
import Mathlib.Data.List.Pairwise
import ClassList.Proofs.Collation.Levels

/-! Collation keys of printable ASCII, for a collator that runs the collation algorithm on a table with the
rows of the standard table for ASCII. No such character decomposes, combines with others or stands in a
longer entry of the table by ASCII alone, so each has one weight of its own, and a key is the list of the
weights. The weights ascend from punctuation and symbols to digits and from there to letters. -/

namespace ClassList

/-- The printable characters of ASCII, from the space to the tilde. -/
def IsPrintableAscii (c : Char) : Prop := 0x20 ≤ c.toNat ∧ c.toNat < 0x7F

instance (c : Char) : Decidable (IsPrintableAscii c) := inferInstanceAs (Decidable (_ ∧ _))

/-- What holds of all printable characters can be checked one by one. -/
theorem IsPrintableAscii.of_forall {p : Char → Prop}
    (h : ∀ n < 0x7F, 0x20 ≤ n → p (Char.ofNat n)) {c : Char} (hc : IsPrintableAscii c) : p c := by
  have hn := h c.toNat hc.2 hc.1
  rwa [Char.ofNat_toNat] at hn

namespace Collation

/-- The primary weight that the standard table gives to a printable character of ASCII. -/
def weight (c : Char) : Nat := ((Excerpt.asciiWeights.lookup c.toNat).getD []).headD 0

theorem weight_ne_zero {c : Char} (h : IsPrintableAscii c) : weight c ≠ 0 :=
  IsPrintableAscii.of_forall (p := fun c => weight c ≠ 0) (by decide) h

namespace Table

/-- What the standard table says of ASCII: code points stand for themselves and are no combining marks, each
printable character has one element with its primary weight, and no longer entry is made of ASCII alone. -/
structure StandardAscii (table : Table) : Prop where
  decompose : ∀ n < 0x80, table.decompose n = [n]
  combiningClass : ∀ n < 0x80, table.combiningClass n = 0
  entry : ∀ c, IsPrintableAscii c → ∃ lower, table.lookup? [c.toNat] = some [weight c :: lower]
  alone : ∀ cs, 2 ≤ cs.length → (∀ n ∈ cs, n < 0x80) → table.lookup? cs = none

namespace StandardAscii

section Ascii

variable {table : Table} (h : table.StandardAscii) {cs : List Nat} (hcs : ∀ n ∈ cs, n < 0x80)
include h hcs

/-! ### One weight for each character -/

theorem orderMarks_flatMap_decompose_of_lt : table.orderMarks (cs.flatMap table.decompose) = cs := by
  induction cs with
  | nil => rfl
  | cons n cs ih =>
    obtain ⟨hn, hcs⟩ := List.forall_mem_cons.mp hcs
    have hrest := ih hcs
    rw [List.flatMap_cons, h.decompose n hn, List.singleton_append, orderMarks, List.foldr_cons,
      if_pos (h.combiningClass n hn), ← orderMarks, hrest]

theorem takeMark?_of_lt (start : List Nat) (last : Nat) : table.takeMark? start last cs = none := by
  cases cs with
  | nil => rfl
  | cons n cs =>
    rw [takeMark?]
    exact if_pos (.inl (h.combiningClass n (hcs n (List.mem_cons_self ..))))

/-- Of the sequences at the start of an ASCII text, the table holds the first character alone. -/
theorem longestPrefix?_of_lt {n : Nat} (hn : n < 0x80) {elements : List Element}
    (hentry : table.lookup? [n] = some elements) :
    table.longestPrefix? (n :: cs) = some ([n], elements) := by
  have hall : ∀ m ∈ n :: cs, m < 0x80 := List.forall_mem_cons.mpr ⟨hn, hcs⟩
  have hlonger : ∀ k ∈ (List.range' 2 cs.length).reverse,
      (table.lookup? ((n :: cs).take k)).map ((n :: cs).take k, ·) = none := by
    intro k hk
    rw [List.mem_reverse, List.mem_range'_1] at hk
    have hlength : 2 ≤ ((n :: cs).take k).length := by
      rw [List.length_take, List.length_cons]
      omega
    have hascii : ∀ m ∈ (n :: cs).take k, m < 0x80 :=
      fun m hm => hall m (List.mem_of_mem_take hm)
    rw [h.alone _ hlength hascii]
    rfl
  rw [longestPrefix?, List.length_cons, List.range'_succ, List.reverse_cons, List.findSome?_append,
    List.findSome?_eq_none_iff.mpr hlonger, Option.none_or, List.findSome?_singleton, List.take_succ_cons,
    List.take_zero, hentry]
  rfl

/-- In ASCII a step takes one code point with its own elements. -/
theorem step_of_lt {n : Nat} (hn : n < 0x80) {elements : List Element}
    (hentry : table.lookup? [n] = some elements) : table.step n cs = ⟨elements, cs⟩ := by
  have hmark := h.takeMark?_of_lt hcs [n] 0
  rw [step, h.longestPrefix?_of_lt hcs hn hentry]
  simp [hmark]

end Ascii

theorem primaryWeights_weigh {table : Table} (h : table.StandardAscii) {s : Text}
    (hs : ∀ c ∈ s, IsPrintableAscii c) :
    primaryWeights (table.weigh (table.normalize s)) = s.map weight := by
  have hascii : ∀ s : Text, (∀ c ∈ s, IsPrintableAscii c) → ∀ n ∈ s.map Char.toNat, n < 0x80 := by
    intro s hs n hn
    obtain ⟨c, hc, rfl⟩ := List.mem_map.mp hn
    have := (hs c hc).2
    omega
  rw [normalize, h.orderMarks_flatMap_decompose_of_lt (hascii s hs)]
  induction s with
  | nil =>
    rw [List.map_nil, weigh]
    rfl
  | cons c s ih =>
    obtain ⟨hc, hrest⟩ := List.forall_mem_cons.mp hs
    obtain ⟨hn, hlater⟩ := List.forall_mem_cons.mp (hascii _ hs)
    obtain ⟨lower, hentry⟩ := h.entry c hc
    have hstep := h.step_of_lt hlater hn hentry
    rw [List.map_cons, weigh, hstep, primaryWeights_append, ih hrest, List.map_cons,
      primaryWeights_cons_of_ne (e := weight c :: lower) (weight_ne_zero hc)]
    rfl

end StandardAscii

end Table

/-! ### The order of the weights -/

/-- The printable characters of ASCII without the capitals, in the order of their weights. -/
def alphabet : Text := " _-,;:!?.'\"()[]\x7b\x7d@*/\\&#%`^+<=>|~$0123456789abcdefghijklmnopqrstuvwxyz"

/-- Which of two characters comes first by their kinds: what is neither digit nor letter before digits
and letters, digits by their values, digits before letters, and letters by the alphabet. -/
def SortsBefore (c d : Char) : Prop :=
  (c.isAlphanum = false ∧ d.isAlphanum = true) ∨ (c.isDigit = true ∧ d.isAlpha = true) ∨
    ((c.isDigit = true ∧ d.isDigit = true) ∨ (c.isAlpha = true ∧ d.isAlpha = true)) ∧ c.toNat < d.toNat

instance (c d : Char) : Decidable (SortsBefore c d) := inferInstanceAs (Decidable (_ ∨ _))

theorem pairwise_weight : alphabet.Pairwise fun c d => weight c < weight d := by
  have hchain : (alphabet.map weight).IsChain (· < ·) := by decide +kernel
  exact List.pairwise_map.mp (List.isChain_iff_pairwise.mp hchain)

theorem pairwise_sortsBefore : alphabet.Pairwise fun c d => ¬SortsBefore d c := by
  decide +kernel

/-- A capital has the weight of its small letter. -/
theorem weight_toLower {c : Char} (h : IsPrintableAscii c) : weight c.toLower = weight c := by
  rcases IsPrintableAscii.of_forall (p := fun c => c.toLower = c ∨ weight c.toLower = weight c)
    (by decide +kernel) h with hsame | hcapital
  · rw [hsame]
  · exact hcapital

theorem toLower_mem_alphabet {c : Char} (h : IsPrintableAscii c) : c.toLower ∈ alphabet :=
  IsPrintableAscii.of_forall (p := fun c => c.toLower ∈ alphabet) (by decide +kernel) h

section Alphabet

variable {c d : Char} (hc : c ∈ alphabet) (hd : d ∈ alphabet)
include hc hd

theorem weight_lt_or_lt (hne : c ≠ d) :
    (weight c < weight d ∧ ¬SortsBefore d c) ∨ (weight d < weight c ∧ ¬SortsBefore c d) := by
  let Apart (c d : Char) : Prop :=
    (weight c < weight d ∧ ¬SortsBefore d c) ∨ (weight d < weight c ∧ ¬SortsBefore c d)
  have : Std.Symm Apart := ⟨fun _ _ => Or.symm⟩
  have hpairs : alphabet.Pairwise Apart :=
    (pairwise_weight.and pairwise_sortsBefore).imp fun h => .inl h
  exact hpairs.forall hc hd hne

theorem eq_of_weight_eq (h : weight c = weight d) : c = d := by
  by_contra hne
  rcases weight_lt_or_lt hc hd hne with ⟨hlt, -⟩ | ⟨hlt, -⟩ <;> omega

theorem weight_lt_of_sortsBefore (h : SortsBefore c d) : weight c < weight d := by
  have hirrefl : ∀ c ∈ alphabet, ¬SortsBefore c c :=
      List.forall_iff_forall_mem.mp (by decide)
  have hne : c ≠ d := by
    rintro rfl
    exact hirrefl c hc h
  rcases weight_lt_or_lt hc hd hne with ⟨hlt, -⟩ | ⟨-, hnot⟩
  · exact hlt
  · exact absurd h hnot

end Alphabet

/-- The weights of a text without capitals determine it. -/
theorem eq_of_map_weight_eq {s t : Text} (hs : ∀ c ∈ s, c ∈ alphabet) (ht : ∀ c ∈ t, c ∈ alphabet)
    (h : s.map weight = t.map weight) : s = t := by
  induction s generalizing t with
  | nil => exact (List.map_eq_nil_iff.mp h.symm).symm
  | cons c s ih =>
    obtain ⟨d, t, rfl, hweight, hrest⟩ := List.map_eq_cons_iff.mp h.symm
    obtain ⟨hc, hs⟩ := List.forall_mem_cons.mp hs
    obtain ⟨hd, ht⟩ := List.forall_mem_cons.mp ht
    rw [eq_of_weight_eq hd hc hweight, ih hs ht hrest.symm]

section Folded

variable {s t : Text} (hs : ∀ c ∈ s, IsPrintableAscii c) (ht : ∀ c ∈ t, IsPrintableAscii c)
include hs

theorem map_weight_toLower : (s.map Char.toLower).map weight = s.map weight := by
  rw [List.map_map]
  exact List.map_congr_left fun c hc => weight_toLower (hs c hc)

theorem mem_alphabet_of_mem_map {c : Char} (hc : c ∈ s.map Char.toLower) : c ∈ alphabet := by
  obtain ⟨d, hd, rfl⟩ := List.mem_map.mp hc
  exact toLower_mem_alphabet (hs d hd)

include ht

theorem map_weight_eq_iff : s.map weight = t.map weight ↔ s.map Char.toLower = t.map Char.toLower := by
  rw [← map_weight_toLower hs, ← map_weight_toLower ht]
  refine ⟨fun h => ?_, congrArg _⟩
  exact eq_of_map_weight_eq (fun _ => mem_alphabet_of_mem_map hs) (fun _ => mem_alphabet_of_mem_map ht) h

theorem map_weight_lt_of_sortsBefore {front back back' : Text} {c d : Char}
    (hfront : s.map Char.toLower = front ++ c :: back)
    (hfront' : t.map Char.toLower = front ++ d :: back') (h : SortsBefore c d) :
    List.lt (s.map weight) (t.map weight) := by
  have hc : c ∈ alphabet := mem_alphabet_of_mem_map hs (by simp [hfront])
  have hd : d ∈ alphabet := mem_alphabet_of_mem_map ht (by simp [hfront'])
  rw [← map_weight_toLower hs, ← map_weight_toLower ht, hfront, hfront', List.map_append,
    List.map_append, List.map_cons, List.map_cons]
  exact List.Lex.append_left _ (.rel (weight_lt_of_sortsBefore hc hd h)) _

theorem map_weight_lt_of_prefix {back : Text} {c : Char}
    (h : t.map Char.toLower = s.map Char.toLower ++ c :: back) :
    List.lt (s.map weight) (t.map weight) := by
  have hlt : List.Lex (· < ·) [] ((c :: back).map weight) := .nil
  have happend := List.Lex.append_left (· < ·) hlt ((s.map Char.toLower).map weight)
  rwa [List.append_nil, ← List.map_append, ← h, map_weight_toLower hs, map_weight_toLower ht] at happend

end Folded

end Collation

namespace Token

open Collation

section Ascii

variable {collator : Collator} {table : Table}
  (hcollator : collator.BuildsKeys table.normalize table.weigh) (htable : table.StandardAscii)
include hcollator htable

theorem collationKey_of_isPrintableAscii {t : Token} (ht : ∀ c ∈ t.original, IsPrintableAscii c) :
    t.collationKey collator = t.original.map weight := by
  rw [hcollator.collationKey_eq, htable.primaryWeights_weigh ht]

/-- Where a collator runs the collation algorithm on a table that says of ASCII what the standard table says,
keys of printable ASCII are put together from one weight for each character. They are the same for classes
that are the same but for the case of letters. Otherwise the first two characters that differ in more than
case decide which key is less, by their kinds and places, and the key of a class that ends before any
difference is less. -/
theorem collationKey_ascii {t u : Token} (ht : ∀ c ∈ t.original, IsPrintableAscii c)
    (hu : ∀ c ∈ u.original, IsPrintableAscii c) :
    (∀ v : Token, v.original = t.original ++ u.original →
      v.collationKey collator = t.collationKey collator ++ u.collationKey collator) ∧
    (∀ (v : Token) (c : Char), IsPrintableAscii c → v.original = [c] →
      ∃ w, v.collationKey collator = [w]) ∧
    (t.collationKey collator = u.collationKey collator ↔
      t.original.map Char.toLower = u.original.map Char.toLower) ∧
    (∀ front c d back back', t.original.map Char.toLower = front ++ c :: back →
      u.original.map Char.toLower = front ++ d :: back' → SortsBefore c d →
      List.lt (t.collationKey collator) (u.collationKey collator)) ∧
    ∀ c back, u.original.map Char.toLower = t.original.map Char.toLower ++ c :: back →
      List.lt (t.collationKey collator) (u.collationKey collator) := by
  have hkey := fun (v : Token) hv => collationKey_of_isPrintableAscii hcollator htable (t := v) hv
  rw [hkey t ht, hkey u hu]
  refine ⟨fun v hv => ?_, fun v c hc hv => ⟨weight c, ?_⟩, map_weight_eq_iff ht hu,
    fun _ _ _ _ _ hfront hfront' h => map_weight_lt_of_sortsBefore ht hu hfront hfront' h,
    fun _ _ h => map_weight_lt_of_prefix ht hu h⟩
  · have hboth : ∀ c ∈ v.original, IsPrintableAscii c := hv ▸ List.forall_mem_append.mpr ⟨ht, hu⟩
    rw [hkey v hboth, hv, List.map_append]
  · have hone : ∀ c ∈ v.original, IsPrintableAscii c := hv ▸ List.forall_mem_singleton.mpr hc
    rw [hkey v hone, hv, List.map_singleton]

end Ascii

end Token

namespace Collation

theorem lookup_eq_none_of_forall_ne {α β : Type} [BEq α] [LawfulBEq α] {entries : List (α × β)} {a : α}
    (h : ∀ e ∈ entries, e.1 ≠ a) : entries.lookup a = none :=
  List.lookup_eq_none_iff.mpr fun e he => bne_iff_ne.mpr (h e he).symm

/-- The second code point of every sequence in the excerpt is past ASCII. -/
theorem le_of_mem_sequenceWeights : ∀ e ∈ Excerpt.sequenceWeights, ∀ n ∈ e.1.tail, 0x80 ≤ n := by
  decide

/-- The excerpt says of ASCII what the whole table says. -/
theorem standardAscii_excerpt : excerpt.StandardAscii where
  decompose := by decide +kernel
  combiningClass := by decide +kernel
  entry c hc := by
    refine ⟨[0x20, if 0x41 ≤ c.toNat ∧ c.toNat ≤ 0x5A then 8 else 2], ?_⟩
    exact IsPrintableAscii.of_forall (p := fun c => excerpt.lookup? [c.toNat] =
      some [[weight c, 0x20, if 0x41 ≤ c.toNat ∧ c.toNat ≤ 0x5A then 8 else 2]]) (by decide +kernel) hc
  alone cs hlength hascii := by
    match cs, hlength with
    | c :: d :: cs, _ =>
      have hnone : Excerpt.sequenceWeights.lookup (c :: d :: cs) = none := by
        refine lookup_eq_none_of_forall_ne fun e he hsequence => ?_
        have hpast := le_of_mem_sequenceWeights e he d (by simp [hsequence])
        have hbefore := hascii d (by simp)
        omega
      show (Excerpt.sequenceWeights.lookup (c :: d :: cs)).map _ = none
      rw [hnone]
      rfl

end Collation

namespace Token

open Collation

/-- A bracket comes before a digit, although its code point is greater, and a capital does not count. -/
theorem collationKey_ascii_bracket :
    let collator := Collator.excerpt
    let t := Token.ofText "Mt-[3px]"
    let u := Token.ofText "mt-4"
    collator.BuildsKeys excerpt.normalize excerpt.weigh ∧ excerpt.StandardAscii ∧
      (∀ c ∈ t.original, IsPrintableAscii c) ∧ (∀ c ∈ u.original, IsPrintableAscii c) ∧
      List.lt (t.collationKey collator) (u.collationKey collator) ∧
      t.collationKey collator ≠ u.collationKey collator ∧
      (Token.ofText "Mt-[3px]mt-4").collationKey collator =
        t.collationKey collator ++ u.collationKey collator := by
  intro collator t u
  have hcollator := Collator.buildsKeys_collator excerpt
  have ht : ∀ c ∈ t.original, IsPrintableAscii c := List.forall_iff_forall_mem.mp (by decide)
  have hu : ∀ c ∈ u.original, IsPrintableAscii c := List.forall_iff_forall_mem.mp (by decide)
  obtain ⟨happend, -, heq, hlt, -⟩ := collationKey_ascii hcollator standardAscii_excerpt ht hu
  refine ⟨hcollator, standardAscii_excerpt, ht, hu, hlt "mt-" '[' '4' "3px]" [] rfl rfl (by decide), ?_,
    happend _ rfl⟩
  exact fun h => absurd (heq.mp h) (by decide)

end Token

end ClassList
