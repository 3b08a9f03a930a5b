import Mathlib.Data.List.Nodup
import ClassList.Collation.Excerpt
import ClassList.Proofs.Sorting.Arrangement

/-! Sorting by collation keys, in either direction: there is one line of the tokens in which the keys are
in order and the tokens of each key stand as they were given, and sorting finds it. This holds of every
collator, whatever sort keys it gives. -/

namespace ClassList

section FilterKey

variable {α κ : Type} [DecidableEq κ] {key : α → κ} {line other : List α}

theorem mem_iff_of_filter_key
    (h : ∀ k, (line.filter fun a => key a = k) = other.filter fun a => key a = k) (a : α) :
    a ∈ line ↔ a ∈ other := by
  simpa using congrArg (a ∈ ·) (h (key a))

/-- Two lines in order of their keys are the same if they have the same members with each key, in the
same order. -/
theorem eq_of_pairwise_of_filter_key {le : κ → κ → Prop} (antisymm : ∀ k l, le k l → le l k → k = l)
    (hline : line.Pairwise fun a b => le (key a) (key b))
    (hother : other.Pairwise fun a b => le (key a) (key b))
    (h : ∀ k, (line.filter fun a => key a = k) = other.filter fun a => key a = k) :
    line = other := by
  induction line generalizing other with
  | nil =>
    rw [eq_comm, List.eq_nil_iff_forall_not_mem]
    simpa using mem_iff_of_filter_key h
  | cons a line ih =>
    have hmem := mem_iff_of_filter_key h
    cases other with
    | nil => simpa using hmem a
    | cons b other =>
      obtain ⟨hfirst, hrest⟩ := List.pairwise_cons.mp hline
      obtain ⟨hfirst', hrest'⟩ := List.pairwise_cons.mp hother
      -- Each of the two stands first in one line and somewhere in the other.
      have hkey : key a = key b := by
        rcases List.mem_cons.mp ((hmem a).mp (List.mem_cons_self ..)) with rfl | ha
        · rfl
        rcases List.mem_cons.mp ((hmem b).mpr (List.mem_cons_self ..)) with rfl | hb
        · rfl
        exact antisymm _ _ (hfirst b hb) (hfirst' a ha)
      have hab : a = b := by
        have hk := h (key b)
        simp only [hkey, List.filter_cons, decide_true, if_true, List.cons.injEq] at hk
        exact hk.1
      subst hab
      refine congrArg (a :: ·) (ih hrest hrest' fun k => ?_)
      have hk := h k
      by_cases hak : key a = k
      · simpa [hak] using hk
      · simpa [hak] using hk

end FilterKey

namespace Token

/-- What a line of tokens has to be to count as a stable sort by the keys of a collator: it holds the
tokens, `le` relates the key of each to those after it, and the tokens of one key stand in the order in
which they were given. -/
structure StablySorted (collator : Collator) (le : List Nat → List Nat → Prop)
    (tokens line : List Token) : Prop where
  perm : line.Perm tokens
  ordered : line.Pairwise fun t u => le (t.collationKey collator) (u.collationKey collator)
  stable : ∀ key, (line.filter fun t => t.collationKey collator = key) =
    tokens.filter fun t => t.collationKey collator = key

section StablySorted

variable {collator : Collator} {le : List Nat → List Nat → Prop} {tokens line other : List Token}

theorem StablySorted.unique (h : StablySorted collator le tokens line)
    (h' : StablySorted collator le tokens other)
    (antisymm : ∀ k l, le k l → le l k → k = l) : line = other :=
  eq_of_pairwise_of_filter_key antisymm h.ordered h'.ordered fun key =>
    (h.stable key).trans (h'.stable key).symm

/-- Read from its end, a line of the tokens read from their end is sorted the other way. -/
theorem StablySorted.reverse (h : StablySorted collator le tokens.reverse line) :
    StablySorted collator (fun k l => le l k) tokens line.reverse where
  perm := line.reverse_perm.trans (h.perm.trans tokens.reverse_perm)
  ordered := List.pairwise_reverse.mpr h.ordered
  stable key := by
    rw [List.filter_reverse, h.stable key, List.filter_reverse, List.reverse_reverse]

theorem stablySorted_mergeSort (keyLe : Token → Token → Bool)
    (hle : ∀ t u, keyLe t u = true ↔ le (t.collationKey collator) (u.collationKey collator))
    (trans : ∀ a b c, keyLe a b = true → keyLe b c = true → keyLe a c = true)
    (total : ∀ a b, (keyLe a b || keyLe b a) = true) (tokens : List Token) :
    StablySorted collator le tokens (tokens.mergeSort keyLe) where
  perm := List.mergeSort_perm tokens keyLe
  ordered := (List.pairwise_mergeSort trans total tokens).imp fun h => (hle _ _).mp h
  stable key := by
    refine filter_mergeSort trans total (fun t u ht hu => ?_) tokens
    have ht : t.collationKey collator = key := by simpa using ht
    have hu : u.collationKey collator = key := by simpa using hu
    have hself : keyLe t t = true := by simpa using total t t
    rwa [hle, hu, ← ht, ← hle]

/-- Only the keys of tokens can make a difference. -/
theorem stablySorted_iff :
    StablySorted collator le tokens line ↔ line.Perm tokens ∧
      (line.Pairwise fun t u => le (t.collationKey collator) (u.collationKey collator)) ∧
      ∀ u ∈ tokens, (line.filter fun t => t.collationKey collator = u.collationKey collator) =
        tokens.filter fun t => t.collationKey collator = u.collationKey collator := by
  constructor
  · intro h
    exact ⟨h.perm, h.ordered, fun u _ => h.stable (u.collationKey collator)⟩
  · rintro ⟨hperm, hordered, hstable⟩
    refine ⟨hperm, hordered, fun key => ?_⟩
    by_cases hkey : ∃ u ∈ tokens, u.collationKey collator = key
    · obtain ⟨u, hu, rfl⟩ := hkey
      exact hstable u hu
    · have hnone : ∀ t ∈ tokens, ¬t.collationKey collator = key := fun t ht he => hkey ⟨t, ht, he⟩
      have hnone' : ∀ t ∈ line, ¬t.collationKey collator = key :=
        fun t ht => hnone t (hperm.mem_iff.mp ht)
      rw [List.filter_eq_nil_iff.mpr (by simpa using hnone'),
        List.filter_eq_nil_iff.mpr (by simpa using hnone)]

instance [DecidableRel le] : Decidable (StablySorted collator le tokens line) :=
  decidable_of_iff _ stablySorted_iff.symm

end StablySorted

theorem collationKey_eq_of_keyLe {collator : Collator} {t u : Token}
    (htu : keyLe collator t u = true) (hut : keyLe collator u t = true) :
    t.collationKey collator = u.collationKey collator :=
  List.le_antisymm (keyLe_iff.mp htu) (keyLe_iff.mp hut)

/-- A sort leaves one line of tokens only, if no two tokens are at most each other. -/
theorem mergeSort_eq_of_perm {le : Token → Token → Bool}
    (trans : ∀ a b c, le a b = true → le b c = true → le a c = true)
    (total : ∀ a b, (le a b || le b a) = true) {tokens others : List Token}
    (hperm : tokens.Perm others)
    (antisymm : ∀ t ∈ tokens, ∀ u ∈ tokens, le t u = true → le u t = true → t = u) :
    tokens.mergeSort le = others.mergeSort le := by
  have hsorted := (List.mergeSort_perm tokens le).trans
    (hperm.trans (List.mergeSort_perm others le).symm)
  refine List.Perm.eq_of_pairwise (fun t u ht hu => ?_)
    (List.pairwise_mergeSort trans total tokens) (List.pairwise_mergeSort trans total others) hsorted
  have hu := hperm.mem_iff.mpr (List.mem_mergeSort.mp hu)
  exact antisymm t (List.mem_mergeSort.mp ht) u hu

end Token

namespace Order

/-- Order by collation keys, in one of the two directions. -/
def IsAlphabetical (order : Order) : Prop := order = .ascending ∨ order = .descending

theorem IsAlphabetical.arrange_eq {order : Order} (horder : order.IsAlphabetical)
    {collator : Collator} {tokens others : List Token} (hperm : tokens.Perm others)
    (hkeys : ∀ t ∈ tokens, ∀ u ∈ tokens, t.collationKey collator = u.collationKey collator → t = u)
    (names names' : Option (List Text)) :
    order.arrange collator names tokens = order.arrange collator names' others := by
  have antisymm : ∀ t ∈ tokens, ∀ u ∈ tokens,
      Token.keyLe collator t u = true → Token.keyLe collator u t = true → t = u :=
    fun t ht u hu htu hut => hkeys t ht u hu (Token.collationKey_eq_of_keyLe htu hut)
  rcases horder with rfl | rfl
  · exact Token.mergeSort_eq_of_perm Token.keyLe_trans Token.keyLe_total hperm antisymm
  · exact Token.mergeSort_eq_of_perm (fun a b c hab hbc => Token.keyLe_trans c b a hbc hab)
      (fun a b => Token.keyLe_total b a) hperm fun t ht u hu htu hut => antisymm t ht u hu hut htu

/-- How the keys of tokens compare in alphabetical order, an earlier one with a later one. Keys compare
as lists, from their first weights on. -/
def keysInOrder : Order → List Nat → List Nat → Prop
  | .descending, key, later => List.le later key
  | _, key, later => List.le key later

instance (order : Order) : DecidableRel order.keysInOrder := fun key later => by
  cases order <;> exact inferInstanceAs (Decidable (List.le _ _))

theorem keysInOrder_antisymm (order : Order) (key other : List Nat)
    (h : order.keysInOrder key other) (h' : order.keysInOrder other key) : key = other := by
  cases order with
  | descending => exact List.le_antisymm h' h
  | _ => exact List.le_antisymm h h'

theorem IsAlphabetical.stablySorted {order : Order} (horder : order.IsAlphabetical)
    (collator : Collator) (names : Option (List Text)) (tokens : List Token) :
    Token.StablySorted collator order.keysInOrder tokens (order.arrange collator names tokens) := by
  rcases horder with rfl | rfl
  · exact Token.stablySorted_mergeSort (Token.keyLe collator) (fun _ _ => Token.keyLe_iff)
      Token.keyLe_trans Token.keyLe_total tokens
  · exact Token.stablySorted_mergeSort (fun a b => Token.keyLe collator b a)
      (fun _ _ => Token.keyLe_iff)
      (fun a b c hab hbc => Token.keyLe_trans c b a hbc hab) (fun a b => Token.keyLe_total b a) tokens

/-- The line that alphabetical order makes of tokens is the only one that is stably sorted. -/
theorem IsAlphabetical.stablySorted_iff {order : Order} (horder : order.IsAlphabetical)
    (collator : Collator) (names : Option (List Text)) {tokens line : List Token} :
    Token.StablySorted collator order.keysInOrder tokens line ↔
      line = order.arrange collator names tokens := by
  constructor
  · exact fun h => h.unique (horder.stablySorted collator names tokens) order.keysInOrder_antisymm
  · rintro rfl
    exact horder.stablySorted collator names tokens

/-- Descending order is ascending order of the tokens read from their end, read from its end. -/
theorem arrange_descending (collator : Collator) (names : Option (List Text)) (tokens : List Token) :
    descending.arrange collator names tokens =
      (ascending.arrange collator names tokens.reverse).reverse :=
  ((IsAlphabetical.stablySorted_iff (.inr rfl) collator names).mp
    (IsAlphabetical.stablySorted (.inl rfl) collator names tokens.reverse).reverse).symm

/-- Sorting in ascending order, under whatever name and with whatever collator and oracle, finds the one line of the
tokens in which the keys ascend and tokens of one key stand as they were given. In descending order the
keys descend and the tokens of one key stand the same way, so it is ascending order seen from the end
of the tokens. To sort a result again changes nothing, and if no two tokens have the same key, one
direction is the other read backwards. -/
theorem sortNamed_stablySorted {v w : Value} (hv : read v = .ok .ascending)
    (hw : read w = .ok .descending) (collator : Collator) (tokens : List Token) :
    ∃ up down reversed,
      (∀ oracle trace, (sortNamed v collator oracle tokens).result trace = .ok up ∧
        (sortNamed w collator oracle tokens).result trace = .ok down ∧
        (sortNamed v collator oracle tokens.reverse).result trace = .ok reversed ∧
        (sortNamed v collator oracle up).result trace = .ok up ∧
        (sortNamed w collator oracle down).result trace = .ok down) ∧
      (∀ line, Token.StablySorted collator (fun key later => List.le key later) tokens line ↔
        line = up) ∧
      (∀ line, Token.StablySorted collator (fun key later => List.le later key) tokens line ↔
        line = down) ∧
      down = reversed.reverse ∧
      ((tokens.map fun t => t.collationKey collator).Nodup → down = up.reverse) := by
  refine ⟨ascending.arrange collator none tokens, descending.arrange collator none tokens,
    ascending.arrange collator none tokens.reverse, fun oracle trace => ⟨?_, ?_, ?_, ?_, ?_⟩,
    fun line => IsAlphabetical.stablySorted_iff (.inl rfl) collator none,
    fun line => IsAlphabetical.stablySorted_iff (.inr rfl) collator none,
    arrange_descending collator none tokens, fun hkeys => ?_⟩
  · exact sortNamed_result hv collator oracle tokens trace
  · exact sortNamed_result hw collator oracle tokens trace
  · exact sortNamed_result hv collator oracle tokens.reverse trace
  · have hsame := arrange_arrange ascending collator none tokens
    rw [sortNamed_result hv]
    exact congrArg Except.ok hsame
  · have hsame := arrange_arrange descending collator none tokens
    rw [sortNamed_result hw]
    exact congrArg Except.ok hsame
  · have hreversed : ascending.arrange collator none tokens.reverse =
        ascending.arrange collator none tokens :=
      IsAlphabetical.arrange_eq (.inl rfl) tokens.reverse_perm
        (fun t ht u hu => List.inj_on_of_nodup_map hkeys (List.mem_reverse.mp ht)
          (List.mem_reverse.mp hu)) none none
    rw [arrange_descending, hreversed]

/-- Two classes that differ in case only stay as they were given, and the key of both begins the key of
a third. -/
theorem sortNamed_stablySorted_ties :
    let tokens := ["b-1", "B", "a", "b"].map fun s => Token.ofText (String.toList s)
    let up := ["a", "B", "b", "b-1"].map fun s => Token.ofText (String.toList s)
    let down := ["b-1", "B", "b", "a"].map fun s => Token.ofText (String.toList s)
    read (.text " ASC\n") = .ok .ascending ∧ read (.text "Descending") = .ok .descending ∧
      (sortNamed (.text " ASC\n") .excerpt none tokens).result {} = .ok up ∧
      (sortNamed (.text "Descending") .excerpt none tokens).result {} = .ok down ∧
      Token.StablySorted .excerpt (fun key later => List.le key later) tokens up ∧
      Token.StablySorted .excerpt (fun key later => List.le later key) tokens down := by
  intro tokens up down
  obtain ⟨up', down', reversed, hresults, hup, hdown, -⟩ :=
    sortNamed_stablySorted (v := .text " ASC\n") (w := .text "Descending") rfl rfl .excerpt
      tokens
  have hsorted : Token.StablySorted .excerpt (fun key later => List.le key later) tokens up := by
    decide +kernel
  have hsorted' : Token.StablySorted .excerpt (fun key later => List.le later key) tokens down := by
    decide +kernel
  obtain rfl : up = up' := (hup up).mp hsorted
  obtain rfl : down = down' := (hdown down).mp hsorted'
  obtain ⟨hresult, hresult', -⟩ := hresults none {}
  exact ⟨rfl, rfl, hresult, hresult', hsorted, hsorted'⟩

end Order

end ClassList
