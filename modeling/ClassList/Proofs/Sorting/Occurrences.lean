import ClassList.Collation.Excerpt
import ClassList.Proofs.Sorting.Arrangement

/-! Canonical order, counted by occurrences: which of the names in an oracle's answer take a token, which
tokens are left behind, and what is reported about both. -/

namespace ClassList

namespace Text

/-- The members of a list, each with the number of times that it has occurred by then. -/
def numbered (items : List Text) : List (Text × Nat) :=
  items.zipIdx.map fun (item, place) => (item, (items.take (place + 1)).count item)

/-- The occurrences in a list that a condition on the text and the number of the occurrence selects. -/
def occurrences (p : Text → Nat → Bool) (items : List Text) : List Text :=
  ((numbered items).filter fun (item, number) => p item number).map Prod.fst

theorem numbered_append (front back : List Text) :
    numbered (front ++ back) =
      numbered front ++ (numbered back).map fun (item, number) => (item, front.count item + number) := by
  have hfront : front.zipIdx.map (fun (item, place) =>
      (item, ((front ++ back).take (place + 1)).count item)) = numbered front := by
    refine List.map_congr_left ?_
    rintro ⟨item, place⟩ hitem
    have hplace : place + 1 ≤ front.length := (List.mem_zipIdx' hitem).1
    simp only [List.take_append_of_le_length hplace]
  have hback : (back.zipIdx front.length).map (fun (item, place) =>
      (item, ((front ++ back).take (place + 1)).count item)) =
        (numbered back).map fun (item, number) => (item, front.count item + number) := by
    rw [List.zipIdx_eq_map_add, numbered, List.map_map, List.map_map]
    refine List.map_congr_left ?_
    rintro ⟨item, place⟩ -
    simp [Nat.add_assoc, List.take_length_add_append]
  rw [numbered, List.zipIdx_append, List.map_append, hfront, Nat.zero_add, hback]

theorem of_mem_numbered {items : List Text} {item : Text} {number : Nat}
    (h : (item, number) ∈ numbered items) :
    item ∈ items ∧ 0 < number ∧ number ≤ items.count item := by
  obtain ⟨⟨_, place⟩, hplace, he⟩ := List.mem_map.mp h
  obtain ⟨rfl, rfl⟩ := Prod.mk.inj he
  obtain ⟨hlt, hget⟩ := List.mem_zipIdx' hplace
  refine ⟨List.fst_mem_of_mem_zipIdx hplace, ?_, (List.take_sublist ..).count_le _⟩
  rw [List.take_succ_eq_append_getElem hlt, List.count_append, ← hget]
  simp

section Occurrences

variable {p q : Text → Nat → Bool}

@[simp] theorem occurrences_nil : occurrences p [] = [] := rfl

theorem occurrences_append (front back : List Text) :
    occurrences p (front ++ back) =
      occurrences p front ++ occurrences (fun item number => p item (front.count item + number)) back := by
  simp [occurrences, numbered_append, List.filter_map, Function.comp_def]

theorem occurrences_cons (item : Text) (items : List Text) :
    occurrences p (item :: items) = (if p item 1 then [item] else []) ++
      occurrences (fun other number => p other ([item].count other + number)) items := by
  have hfirst : occurrences p [item] = if p item 1 then [item] else [] := by
    cases h : p item 1 <;> simp [occurrences, numbered, h]
  rw [← hfirst, ← occurrences_append, List.singleton_append]

theorem occurrences_congr {items : List Text}
    (h : ∀ item ∈ items, ∀ number, 0 < number → number ≤ items.count item →
      p item number = q item number) : occurrences p items = occurrences q items := by
  refine congrArg (List.map Prod.fst) (List.filter_congr ?_)
  rintro ⟨item, number⟩ hmem
  obtain ⟨hitem, hpos, hle⟩ := of_mem_numbered hmem
  exact h item hitem number hpos hle

theorem occurrences_of_all {items : List Text}
    (h : ∀ item ∈ items, ∀ number, 0 < number → number ≤ items.count item → p item number = true) :
    occurrences p items = items := by
  rw [occurrences, List.filter_eq_self.mpr, numbered, List.map_map]
  · exact List.zipIdx_map_fst 0 items
  · rintro ⟨item, number⟩ hmem
    obtain ⟨hitem, hpos, hle⟩ := of_mem_numbered hmem
    exact h item hitem number hpos hle

theorem occurrences_of_none {items : List Text}
    (h : ∀ item ∈ items, ∀ number, 0 < number → number ≤ items.count item → p item number = false) :
    occurrences p items = [] := by
  rw [occurrences, List.filter_eq_nil_iff.mpr, List.map_nil]
  rintro ⟨item, number⟩ hmem
  obtain ⟨hitem, hpos, hle⟩ := of_mem_numbered hmem
  simp [h item hitem number hpos hle]

end Occurrences

/-- The occurrences of each text, up to the number of times that others hold it. -/
def within (others items : List Text) : List Text :=
  occurrences (fun item number => number ≤ others.count item) items

/-- The occurrences of each text after the number of times that others hold it. -/
def beyond (others items : List Text) : List Text :=
  occurrences (fun item number => others.count item < number) items

section Counts

variable {others items : List Text}

theorem within_of_perm (h : items.Perm others) : within others items = items :=
  occurrences_of_all fun item _ number _ hle => by simpa [← h.count_eq item] using hle

theorem beyond_of_perm (h : items.Perm others) : beyond others items = [] :=
  occurrences_of_none fun item _ number _ hle => by simpa [← h.count_eq item] using hle

theorem beyond_nil_left (items : List Text) : beyond [] items = items :=
  occurrences_of_all fun item _ number hpos _ => decide_eq_true (by simpa using hpos)

/-- An item counts up to the number of others if one of them is there for it. It uses that one up. -/
theorem within_cons (item : Text) :
    within others (item :: items) =
      (if item ∈ others then [item] else []) ++ within (others.erase item) items := by
  rw [within, occurrences_cons]
  congr 1
  · simp [Nat.succ_le_iff, List.count_pos_iff]
  · refine occurrences_congr fun other _ number hpos _ => ?_
    rw [List.count_erase, List.count_singleton, decide_eq_decide]
    omega

theorem beyond_cons (item : Text) :
    beyond others (item :: items) =
      (if item ∈ others then [] else [item]) ++ beyond (others.erase item) items := by
  rw [beyond, occurrences_cons]
  congr 1
  · simp [List.count_eq_zero]
  · refine occurrences_congr fun other _ number hpos _ => ?_
    rw [List.count_erase, List.count_singleton, decide_eq_decide]
    omega

theorem beyond_cons_left_of_not_mem {item : Text} (h : item ∉ items) :
    beyond (item :: others) items = beyond others items := by
  refine occurrences_congr fun other hother number _ _ => ?_
  have hne : item ≠ other := fun he => h (he ▸ hother)
  simp [hne]

/-- One more of the others is there for the first of the items that is the same. -/
theorem beyond_cons_left (item : Text) :
    beyond (item :: others) items = beyond others (items.erase item) := by
  by_cases hmem : item ∈ items
  · obtain ⟨front, back, hfront, rfl, herase⟩ := List.exists_erase_eq hmem
    have hzero : front.count item = 0 := List.count_eq_zero.mpr hfront
    have hbefore : beyond (item :: others) front = beyond others front :=
      beyond_cons_left_of_not_mem hfront
    rw [herase, beyond, beyond, occurrences_append, occurrences_append, occurrences_cons]
    simp only [beyond] at hbefore
    rw [hbefore]
    congr 1
    simp only [hzero, List.count_cons_self, show ¬others.count item + 1 < 0 + 1 by omega,
      decide_false, Bool.false_eq_true, if_false, List.nil_append]
    refine occurrences_congr fun other _ number _ _ => ?_
    rw [List.count_cons, List.count_singleton, decide_eq_decide]
    omega
  · rw [List.erase_of_not_mem hmem, beyond_cons_left_of_not_mem hmem]

end Counts

end Text

namespace Token

theorem named_eq_nil_iff {name : Text} {tokens : List Token} :
    named name tokens = [] ↔ name ∉ tokens.map original := by
  simp [named, List.filter_eq_nil_iff]

theorem not_mem_of_takeFirst? {name : Text} {stock : List Token} (h : takeFirst? name stock = none) :
    name ∉ stock.map original :=
  named_eq_nil_iff.mp (takeFirst?_eq_none_iff.mp h)

/-- What is taken out of stock is the first token of the name. -/
theorem map_original_takeFirst? {name : Text} {stock rest : List Token} {t : Token}
    (h : takeFirst? name stock = some (t, rest)) :
    name ∈ stock.map original ∧ rest.map original = (stock.map original).erase name := by
  obtain ⟨rfl, front, back, rfl, rfl, hfront⟩ := takeFirst?_eq_some h
  have hfront := named_eq_nil_iff.mp hfront
  rw [List.map_append, List.map_append, List.map_cons, List.erase_append_right _ hfront,
    List.erase_cons_head]
  exact ⟨by simp, rfl⟩

end Token

namespace Selection

open Token

section Serve

variable (stock : List Token) (names : List Text)

/-- A name finds a token as long as it has not been asked for more often than there are tokens. -/
theorem map_original_found_serve :
    (serve stock names).found.map original = Text.within (stock.map original) names := by
  induction names generalizing stock with
  | nil => rfl
  | cons name names ih =>
    rw [Text.within_cons]
    cases h : takeFirst? name stock with
    | none =>
      have hnot := not_mem_of_takeFirst? h
      rw [serve_of_none h, if_neg hnot, List.erase_of_not_mem hnot]
      exact ih stock
    | some taken =>
      obtain ⟨t, rest⟩ := taken
      obtain ⟨hmem, hrest⟩ := map_original_takeFirst? h
      rw [serve_of_some h, if_pos hmem, ← hrest, ← ih rest, List.map_cons, (takeFirst?_eq_some h).1]
      rfl

theorem ignored_serve : (serve stock names).ignored = Text.beyond (stock.map original) names := by
  induction names generalizing stock with
  | nil => rfl
  | cons name names ih =>
    rw [Text.beyond_cons]
    cases h : takeFirst? name stock with
    | none =>
      have hnot := not_mem_of_takeFirst? h
      rw [serve_of_none h, if_neg hnot, List.erase_of_not_mem hnot]
      exact congrArg (name :: ·) (ih stock)
    | some taken =>
      obtain ⟨t, rest⟩ := taken
      obtain ⟨hmem, hrest⟩ := map_original_takeFirst? h
      rw [serve_of_some h, if_pos hmem, ← hrest, ← ih rest]
      rfl

/-- Every name that finds a token finds the first of its tokens that are left. -/
theorem map_original_left_serve :
    (serve stock names).left.map original = Text.beyond names (stock.map original) := by
  induction names generalizing stock with
  | nil => exact (Text.beyond_nil_left _).symm
  | cons name names ih =>
    rw [Text.beyond_cons_left]
    cases h : takeFirst? name stock with
    | none =>
      rw [serve_of_none h, List.erase_of_not_mem (not_mem_of_takeFirst? h)]
      exact ih stock
    | some taken =>
      obtain ⟨t, rest⟩ := taken
      rw [serve_of_some h, ← (map_original_takeFirst? h).2]
      exact ih rest

end Serve

theorem length_result_serve (stock : List Token) (names : List Text) :
    (serve stock names).result.length = stock.length :=
  (perm_of_named (named_result_serve stock names)).length_eq

theorem events_serve (stock : List Token) (names : List Text) :
    let kept := Text.within (stock.map original) names
    let rest := Text.beyond names (stock.map original)
    (serve stock names).events = (Text.beyond (stock.map original) names).map Event.nameIgnored ++
      if rest = [] then [] else [.classesMissing kept.length stock.length rest.length] := by
  intro kept rest
  have hleft : (serve stock names).left = [] ↔ rest = [] := by
    rw [← List.map_eq_nil_iff, map_original_left_serve]
  simp only [events, List.isEmpty_iff, hleft, ignored_serve, length_result_serve, kept, rest,
    ← map_original_found_serve, ← map_original_left_serve, List.length_map]

end Selection

namespace Order

/-- What canonical order does after a text for an answer. -/
theorem sortCanonical_of_text {oracle : Oracle} {tokens : List Token} {trace : Trace} {answer : Text}
    (h : oracle.answer trace.questions (joinOriginals tokens) = .value (.text answer)) :
    let selection := Selection.serve tokens (Text.words answer)
    (sortCanonical (some oracle) tokens trace).1 = selection.result ∧
      (sortCanonical (some oracle) tokens trace).2.events =
        trace.events ++ oracle.events (joinOriginals tokens) ++ selection.events := by
  simp only [sortCanonical, Oracle.ask, h, bind, StateT.bind]
  exact ⟨rfl, rfl⟩

/-- When an oracle answers with a text, canonical order shows first the names in the answer that find a
token, each as often as it is a class, and then the classes that the answer leaves out, the first of
each class counting as named. Every name that finds no token is reported, and so are the numbers of
classes, if any is left out. An answer that only rearranges the classes is the result. -/
theorem sortNamed_canonical {v : Value} (hv : read v = .ok .canonical) (collator : Collator)
    {oracle : Oracle} {tokens : List Token} (hne : tokens ≠ []) {trace : Trace} {answer : Text}
    (h : oracle.answer trace.questions (joinOriginals tokens) = .value (.text answer)) :
    let names := Text.words answer
    let originals := tokens.map Token.original
    let kept := Text.within originals names
    let rest := Text.beyond names originals
    let ignored := (Text.beyond originals names).map Event.nameIgnored
    let warnings :=
      if rest = [] then [] else [Event.classesMissing kept.length tokens.length rest.length]
    ∃ sorted, (sortNamed v collator (some oracle) tokens).result trace = .ok sorted ∧
      sorted.map Token.original = kept ++ rest ∧
      (names.Perm originals → sorted.map Token.original = names) ∧
      ((sortNamed v collator (some oracle) tokens).after trace).events =
        trace.events ++ oracle.events (joinOriginals tokens) ++ (ignored ++ warnings) ∧
      (∀ event ∈ ignored, event.level = .debug) ∧ (∀ event ∈ warnings, event.level = .warning) ∧
      kept.length + rest.length = tokens.length := by
  intro names originals kept rest ignored warnings
  obtain ⟨hresult, hevents⟩ := sortCanonical_of_text h
  have hfound := Selection.map_original_found_serve tokens names
  have hleft := Selection.map_original_left_serve tokens names
  have hsorted : (Selection.serve tokens names).result.map Token.original = kept ++ rest := by
    rw [Selection.result, List.map_append, hfound, hleft]
  refine ⟨(Selection.serve tokens names).result, ?_, hsorted, fun hperm => ?_, ?_, ?_, ?_, ?_⟩
  · rw [sortNamed_of_ne_nil hv collator _ tokens hne, Job.result_lift]
    exact congrArg Except.ok hresult
  · rw [hsorted, show kept = names from Text.within_of_perm hperm,
      show rest = [] from Text.beyond_of_perm hperm.symm, List.append_nil]
  · rw [sortNamed_of_ne_nil hv collator _ tokens hne, Job.after_lift]
    exact hevents.trans (congrArg (trace.events ++ oracle.events (joinOriginals tokens) ++ ·)
      (Selection.events_serve tokens names))
  · intro event hevent
    obtain ⟨name, -, rfl⟩ := List.mem_map.mp hevent
    rfl
  · intro event hevent
    have hevent : rest ≠ [] ∧
        event = .classesMissing kept.length tokens.length rest.length := by
      simpa [warnings] using hevent
    rw [hevent.2]
    rfl
  · have hlength := congrArg List.length hsorted
    rw [List.length_map, Selection.length_result_serve, List.length_append] at hlength
    exact hlength.symm

/-- An answer that repeats one class more often than it was given, makes one up and leaves one out. -/
theorem sortNamed_canonical_surplus :
    let tokens := ["a", "b", "a", "c"].map fun s => Token.ofText (String.toList s)
    let oracle := Oracle.ofFunction fun _ => .value (.text "c new a\n a a")
    let sorted := ["c", "a", "a", "b"].map fun s => Token.ofText (String.toList s)
    read (.text "Official") = .ok .canonical ∧ tokens ≠ [] ∧
      oracle.answer ({} : Trace).questions (joinOriginals tokens) = .value (.text "c new a\n a a") ∧
      (sortNamed (.text "Official") .excerpt (some oracle) tokens).result {} = .ok sorted ∧
      sorted.map Token.original = ["c".toList, "a".toList, "a".toList] ++ ["b".toList] ∧
      ((sortNamed (.text "Official") .excerpt (some oracle) tokens).after {}).events =
        [.nameIgnored "new", .nameIgnored "a", .classesMissing 3 4 1] := by
  intro tokens oracle sorted
  have hne : tokens ≠ [] := by simp [tokens]
  have hanswer : oracle.answer ({} : Trace).questions (joinOriginals tokens) =
      .value (.text "c new a\n a a") := rfl
  obtain ⟨sorted', hresult, horiginals, -, hevents, -⟩ :=
    sortNamed_canonical (v := .text "Official") rfl .excerpt hne hanswer
  have hsorted : (sortNamed (.text "Official") .excerpt (some oracle) tokens).result {} = .ok sorted := rfl
  obtain rfl : sorted = sorted' := Except.ok.inj (hsorted.symm.trans hresult)
  exact ⟨rfl, hne, hanswer, hsorted, horiginals, hevents⟩

end Order

end ClassList
