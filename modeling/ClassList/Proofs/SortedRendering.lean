import Mathlib.Data.List.Forall2
import ClassList.Collation.Excerpt
import ClassList.Proofs.Rendering
import ClassList.Proofs.Results
import ClassList.Proofs.Sorting.Occurrences

/-! To render with a sorter is to sort the groups and render them as they are then, and groupings that are
the same are rendered the same. Sorters, comments and literals look at the originals of the classes, at
their number and at the names of the groups, and at nothing else. -/

namespace ClassList

theorem isEmpty_eq_of_length_eq {α β : Type} {items : List α} {others : List β}
    (h : items.length = others.length) : items.isEmpty = others.isEmpty := by
  rw [Bool.eq_iff_iff, List.isEmpty_iff_length_eq_zero, List.isEmpty_iff_length_eq_zero, h]

/-- An oracle whose answers depend on the question alone. -/
def Oracle.IsFunction (oracle : Oracle) : Prop :=
  ∀ earlier later question, oracle.answer earlier question = oracle.answer later question

namespace Order

section Originals

variable {tokens others : List Token} (h : tokens.map Token.original = others.map Token.original)
include h

theorem names?_congr {oracle : Option Oracle} (horacle : ∀ o, oracle = some o → o.IsFunction)
    (earlier later : List Text) : names? oracle earlier tokens = names? oracle later others := by
  cases oracle with
  | none => rfl
  | some oracle => simp only [names?, Option.bind_some, joinOriginals, h, horacle oracle rfl earlier later]

/-- Tokens with the same originals are put in the same order. -/
theorem map_original_arrange (order : Order) (collator : Collator)
    (names? : Option (List Text)) :
    (order.arrange collator names? tokens).map Token.original =
      (order.arrange collator names? others).map Token.original := by
  let key (s : Text) : List Nat := Collation.firstLevel (collator.sortKey s)
  have hsorted : ∀ {le : Token → Token → Bool} (s : Text → Text → Bool),
      (∀ a b, le a b = s a.original b.original) →
        (tokens.mergeSort le).map Token.original = (others.mergeSort le).map Token.original := by
    intro le s hle
    rw [List.map_mergeSort (s := s) fun a _ b _ => hle a b, h,
      List.map_mergeSort (s := s) fun a _ b _ => hle a b]
  cases order with
  | unsorted => exact h
  | ascending =>
    exact hsorted (fun a b => !List.lex (key b) (key a) Nat.blt) fun _ _ => rfl
  | descending =>
    exact hsorted (fun a b => !List.lex (key a) (key b) Nat.blt) fun _ _ => rfl
  | canonical =>
    cases names? with
    | none => exact h
    | some names =>
      simp only [arrange, Selection.result, List.map_append, Selection.map_original_found_serve,
        Selection.map_original_left_serve, h]

end Originals

end Order

/-- A function whose values have the same originals for tokens with the same originals. -/
def SeesOriginals (f : List Token → List Token) : Prop :=
  ∀ tokens others, tokens.map Token.original = others.map Token.original →
    (f tokens).map Token.original = (f others).map Token.original

/-- What a sorter makes of tokens, where that is the same at any time: a rearrangement that the originals
of the tokens decide. -/
structure Performs (sort : Sorter) (f : List Token → List Token) : Prop where
  result : ∀ tokens trace, (sort tokens).result trace = .ok (f tokens)
  perm : ∀ tokens, (f tokens).Perm tokens
  congr : SeesOriginals f

theorem performs_sortNamed {v : Value} {order : Order} (hv : Order.read v = .ok order)
    (collator : Collator) {oracle : Option Oracle}
    (horacle : ∀ o, oracle = some o → o.IsFunction) :
    Performs (Order.sortNamed v collator oracle) fun tokens =>
      order.arrange collator (Order.names? oracle [] tokens) tokens where
  result tokens trace := by
    rw [Order.sortNamed_result hv, Order.names?_congr rfl horacle trace.questions []]
  perm tokens := Order.arrange_perm ..
  congr tokens others h := by
    show (order.arrange collator (Order.names? oracle [] tokens) tokens).map Token.original = _
    rw [Order.names?_congr h horacle [] []]
    exact Order.map_original_arrange h ..

/-- Groups that a call shows alike when it shows what functions make of their classes. -/
structure Group.Alike (f f' : List Token → List Token) (group other : Group) : Prop where
  name : group.name = other.name
  size : group.size = other.size
  classString : joinOriginals (f group.classes) = joinOriginals (f' other.classes)

section Alike

variable {f f' : List Token → List Token} {group other : Group} (h : group.Alike f f' other)
include h

theorem Group.Alike.isEmpty_eq : group.isEmpty = other.isEmpty :=
  isEmpty_eq_of_length_eq h.size

theorem Group.Alike.shows_eq :
    Style.shows (group, joinOriginals (f group.classes)) =
      Style.shows (other, joinOriginals (f' other.classes)) := by
  rw [Style.shows, Style.shows, h.name, h.size, h.classString]

end Alike

namespace Grouping

/-- The grouping with the classes of every group sorted, one group after the other. -/
def sortEach (sort : Sorter) (g : Grouping) : Job Grouping := do
  let groups ← g.groups.mapM fun group => do return { group with classes := ← sort group.classes }
  return ⟨groups⟩

/-- What rendering gives when the class string of each group shows what a function makes of its classes. -/
def rendered (g : Grouping) (style : Style) (f : List Token → List Token) : Except Failure Text :=
  if g.nonEmpty.isEmpty then .ok emptyExpression
  else style.checkWidth.map fun _ =>
    style.call (g.nonEmpty.map fun group => (group, joinOriginals (f group.classes)))

theorem rendered_of_fits {style : Style} (h : style.Fits) (g : Grouping)
    (f : List Token → List Token) : ∃ text, g.rendered style f = .ok text := by
  rw [rendered, Style.checkWidth_of_fits h]
  split <;> exact ⟨_, rfl⟩

theorem render_of_sortedString {sorter : Option Sorter} {f : List Token → List Token}
    (h : ∀ group trace, (sortedString sorter group).result trace = .ok (joinOriginals (f group.classes)))
    (g : Grouping) (style : Style) (trace : Trace) :
    (g.render style sorter).result trace = g.rendered style f := by
  by_cases hne : g.nonEmpty = []
  · simp only [render, rendered, hne]
    rfl
  · have hstrings := Job.mapM_result (fun group (_ : group ∈ g.nonEmpty) => h group) trace
    rw [render_of_nonEmpty hne, Job.result_bind, Job.result_ofExcept, Job.after_ofExcept, rendered,
      if_neg (by simpa using hne), List.map_prod_left_eq_zip]
    cases style.checkWidth with
    | error e => rfl
    | ok _ => exact Job.result_bind_of_ok hstrings _

/-- Groupings whose groups are alike are rendered the same. -/
theorem rendered_congr {g h : Grouping} {f f' : List Token → List Token}
    (halike : List.Forall₂ (Group.Alike f f') g.groups h.groups) (style : Style) :
    g.rendered style f = h.rendered style f' := by
  have hshown : List.Forall₂ (Group.Alike f f') g.nonEmpty h.nonEmpty := by
    refine List.rel_filter (fun group other hgroup => ?_) halike
    show (!group.isEmpty) = true ↔ (!other.isEmpty) = true
    rw [hgroup.isEmpty_eq]
  have hempty : g.nonEmpty.isEmpty = h.nonEmpty.isEmpty := isEmpty_eq_of_length_eq hshown.length_eq
  have hcall : (g.nonEmpty.map fun group => (group, joinOriginals (f group.classes))).map Style.shows =
      (h.nonEmpty.map fun group => (group, joinOriginals (f' group.classes))).map Style.shows := by
    rw [List.map_map, List.map_map, ← List.forall₂_eq_eq_eq, List.forall₂_map_left_iff,
      List.forall₂_map_right_iff]
    exact hshown.imp fun _ _ hgroup => hgroup.shows_eq
  rw [rendered, rendered, hempty, Style.call_congr style hcall]

theorem forall₂_of_same {g h : Grouping} (hsame : g.same h = true) :
    List.Forall₂ (fun group other => group.name = other.name ∧
      group.classes.map Token.original = other.classes.map Token.original) g.groups h.groups := by
  rw [same, Bool.and_eq_true, decide_eq_true_iff, decide_eq_true_iff] at hsame
  obtain ⟨hnames, horiginals⟩ := hsame
  rw [names, names, ← List.forall₂_eq_eq_eq, List.forall₂_map_left_iff,
    List.forall₂_map_right_iff, List.forall₂_iff_get] at hnames
  rw [← List.forall₂_eq_eq_eq, List.forall₂_map_left_iff, List.forall₂_map_right_iff,
    List.forall₂_iff_get] at horiginals
  exact List.forall₂_iff_get.mpr
    ⟨hnames.1, fun i hi hi' => ⟨hnames.2 i hi hi', horiginals.2 i hi hi'⟩⟩

theorem rendered_of_same {g h : Grouping} (hsame : g.same h = true) {f : List Token → List Token}
    (hf : SeesOriginals f) (style : Style) : g.rendered style f = h.rendered style f := by
  refine rendered_congr ((forall₂_of_same hsame).imp fun group other hgroup => ?_) style
  obtain ⟨hname, horiginals⟩ := hgroup
  have hsize : group.size = other.size := by
    simpa [Group.size] using congrArg List.length horiginals
  exact ⟨hname, hsize, by rw [joinOriginals, joinOriginals, hf _ _ horiginals]⟩

section Performs

variable {sort : Sorter} {f : List Token → List Token} (h : Performs sort f)
include h

theorem render_of_performs (g : Grouping) (style : Style) (trace : Trace) :
    (g.render style (some sort)).result trace = g.rendered style f := by
  refine render_of_sortedString (fun group trace => ?_) g style trace
  rw [sortedString, Job.result_bind_of_ok (h.result ..)]
  rfl

theorem sortEach_result (g : Grouping) (trace : Trace) :
    (g.sortEach sort).result trace =
      .ok ⟨g.groups.map fun group => { group with classes := f group.classes }⟩ := by
  have hgroup : ∀ group ∈ g.groups, ∀ trace,
      (do return { group with classes := ← sort group.classes } : Job Group).result trace =
        .ok { group with classes := f group.classes } :=
    fun group _ trace => Job.result_bind_of_ok (h.result group.classes trace) _
  have hgroups := Job.mapM_result hgroup trace
  rw [sortEach, Job.result_bind_of_ok hgroups, Job.result_pure]

/-- Sorting keeps the number of classes, so sorted groups are alike as they are. -/
theorem rendered_sorted (g : Grouping) (style : Style) :
    g.rendered style f =
      (⟨g.groups.map fun group => { group with classes := f group.classes }⟩ : Grouping).rendered
        style id := by
  refine rendered_congr ?_ style
  rw [List.forall₂_map_right_iff, List.forall₂_same]
  exact fun group _ => ⟨rfl, (h.perm _).length_eq.symm, rfl⟩

end Performs

/-- Where the answers of the oracle, if there is one, depend on the question alone, rendering with a sorter
gives what rendering the grouping with sorted groups gives without a sorter, and groupings that are the same
are rendered the same, with that sorter as without one. A style that fits gives texts. -/
theorem render_sortEach {v : Value} {order : Order} (hv : Order.read v = .ok order)
    (collator : Collator) {oracle : Option Oracle}
    (horacle : ∀ o, oracle = some o → o.IsFunction) (style : Style) :
    let sort : Sorter := Order.sortNamed v collator oracle
    (∀ g trace, ∃ sorted rendering, (sortEach sort g).result trace = .ok sorted ∧
      (style.Fits → ∃ text, rendering = .ok text) ∧
      ∀ later, (g.render style (some sort)).result later = rendering ∧
        (sorted.render style none).result later = rendering) ∧
    (∀ g h, same g h = true → ∀ sorter, sorter = none ∨ sorter = some sort →
      ∃ rendering, (style.Fits → ∃ text, rendering = .ok text) ∧
        ∀ trace, (g.render style sorter).result trace = rendering ∧
          (h.render style sorter).result trace = rendering) := by
  intro sort
  have hsort := performs_sortNamed hv collator horacle
  have hunsorted : ∀ (g : Grouping) trace, (g.render style none).result trace = g.rendered style id :=
    fun g trace => render_of_sortedString (fun _ _ => rfl) g style trace
  have hid : SeesOriginals id := fun _ _ horiginals => horiginals
  constructor
  · refine fun g trace => ⟨_, _, sortEach_result hsort g trace, fun hfits => rendered_of_fits hfits ..,
      fun later => ⟨?_, hunsorted _ later⟩⟩
    rw [render_of_performs hsort, rendered_sorted hsort]
  · rintro g h hsame sorter (rfl | rfl)
    · refine ⟨_, fun hfits => rendered_of_fits hfits .., fun trace => ⟨hunsorted g trace, ?_⟩⟩
      rw [hunsorted, rendered_of_same hsame hid]
    · refine ⟨_, fun hfits => rendered_of_fits hfits ..,
        fun trace => ⟨render_of_performs hsort g style trace, ?_⟩⟩
      rw [render_of_performs hsort, rendered_of_same hsame hsort.congr]

/-- An oracle drops a class and makes one up, and it fails for other questions. The classes of the second
grouping are cut into other parts than those of the first. -/
theorem render_sortEach_dropped :
    let oracle := Oracle.ofFunction fun question =>
      if question = "a m:b m:b" then .value (.text "m:b c m:b") else .failure "busy"
    let sort : Sorter := Order.sortNamed (.text "official") .excerpt (some oracle)
    let style : Style := { commentTemplate := "\x7bindex\x7d \x7bgroupName\x7d \x7bcount\x7d" }
    let a := Token.ofText "a"
    let b := Token.ofText "m:b"
    let g : Grouping := ⟨[⟨"A", [a, b, b]⟩, ⟨"B", []⟩, ⟨"C", [b, a]⟩]⟩
    let h : Grouping := ⟨[⟨"A", [⟨"a", "z", []⟩, b, ⟨"m:b", "m:b", ["n"]⟩]⟩, ⟨"B", []⟩, ⟨"C", [b, a]⟩]⟩
    let sorted : Grouping := ⟨[⟨"A", [b, b, a]⟩, ⟨"B", []⟩, ⟨"C", [b, a]⟩]⟩
    let text : Text := "clsx(\n  1 A 3\n  \"m:b m:b a\",\n  2 C 2\n  \"m:b a\"\n)"
    Order.read (.text "official") = .ok .canonical ∧ oracle.IsFunction ∧ same g h = true ∧ g ≠ h ∧
      (sortEach sort g).result {} = .ok sorted ∧ (g.render style (some sort)).result {} = .ok text ∧
      (sorted.render style none).result {} = .ok text ∧
      (h.render style (some sort)).result {} = .ok text := by
  intro oracle sort style a b g h sorted text
  have hv : Order.read (.text "official") = .ok .canonical := rfl
  have horacle : oracle.IsFunction := fun _ _ _ => rfl
  have hsame : same g h = true := by decide
  have hsorted : (sortEach sort g).result {} = .ok sorted :=
    toOption_eq_some_iff.mp (by decide +kernel)
  have hrendered : (g.render style (some sort)).result {} = .ok text :=
    toOption_eq_some_iff.mp (by decide +kernel)
  obtain ⟨heach, hcongr⟩ :=
    render_sortEach hv .excerpt (fun o ho => Option.some.inj ho ▸ horacle) style
  obtain ⟨sorted', shown, hsorted', -, hshown⟩ := heach g {}
  obtain rfl : sorted' = sorted := Except.ok.inj (hsorted'.symm.trans hsorted)
  obtain rfl : shown = .ok text := (hshown {}).1.symm.trans hrendered
  obtain ⟨other, -, hother⟩ := hcongr g h hsame _ (.inr rfl)
  obtain rfl : other = .ok text := (hother {}).1.symm.trans hrendered
  exact ⟨hv, horacle, hsame, by decide, hsorted, hrendered, (hshown {}).2, (hother {}).2⟩

end Grouping

end ClassList
