import ClassList.Proofs.Sorting.Arrangement
import ClassList.Transform

/-! Rendering with the sorter of a pipeline: the call that comes out, as a function of the grouping and
of the questions that the oracle was asked before. No call comes out under a width that is no index. -/

namespace ClassList.Style

/-- Whether calls can be laid out: the width of the indentation is an index. -/
def Fits (style : Style) : Prop := Text.isIndex style.indentWidth = true

instance (style : Style) : Decidable style.Fits := inferInstanceAs (Decidable (_ = true))

section Fits

variable {style : Style}

theorem checkWidth_of_fits (h : style.Fits) : style.checkWidth = .ok () := if_pos h

theorem checkWidth_of_not_fits (h : ¬style.Fits) :
    style.checkWidth = .error (.notIndex style.indentWidth) := if_neg h

theorem fits_of_checkWidth {u : Unit} (h : style.checkWidth = .ok u) : style.Fits := by
  by_cases hfits : style.Fits
  · exact hfits
  · rw [checkWidth_of_not_fits hfits] at h
    cases h

end Fits

section Shows

/-- What the lines of a call show of a group: its name, the number of its classes and its class string. -/
def shows (s : Group × Text) : Text × Nat × Text := (s.1.name, s.1.size, s.2)

variable (style : Style) {shown others : List (Group × Text)} (h : shown.map shows = others.map shows)
include h

theorem lines_congr (index : Nat) : style.lines index shown = style.lines index others := by
  induction shown generalizing others index with
  | nil =>
    obtain rfl : others = [] := List.map_eq_nil_iff.mp h.symm
    rfl
  | cons s rest ih =>
    obtain ⟨s', rest', rfl, hs, hrest⟩ := List.map_eq_cons_iff.mp h.symm
    obtain ⟨hname, hsize, hstring⟩ : s'.1.name = s.1.name ∧ s'.1.size = s.1.size ∧ s'.2 = s.2 := by
      simpa [shows] using hs
    have hlast : rest.isEmpty = rest'.isEmpty := by
      rw [← List.isEmpty_map (f := shows), ← hrest, List.isEmpty_map]
    have hcomment : style.commentLine index s.1 = style.commentLine index s'.1 := by
      rw [commentLine, commentLine, hname, hsize]
    rw [lines, lines, hlast, hcomment, hstring, ih hrest.symm]

theorem call_congr : style.call shown = style.call others := by
  rw [call, call, lines_congr style h]

end Shows

end ClassList.Style

namespace ClassList.Pipeline

def sortGroups (p : Pipeline) (groups : List Group) : Job (List (List Token)) :=
  groups.mapM fun g => p.sortGroup g.classes

/-- The classes of a group as they are sorted after earlier questions. -/
def sorted (p : Pipeline) (g : Group) (earlier : List Text) : List Token :=
  p.options.order.arrange p.collator (Order.names? p.oracle earlier g.classes) g.classes

def questions (p : Pipeline) (g : Group) : List Text :=
  p.options.order.questions p.oracle g.classes

/-- The classes of groups as they are sorted one group after the other, after earlier questions. -/
def arranged (p : Pipeline) (earlier : List Text) (groups : List Group) : List (List Token) :=
  threaded p.sorted p.questions earlier groups

/-- The call that shows a grouping, after earlier questions. -/
def callOf (p : Pipeline) (earlier : List Text) (g : Grouping) : Text :=
  p.options.style.call (g.nonEmpty.zip ((p.arranged earlier g.nonEmpty).map joinOriginals))

section

variable (p : Pipeline)

theorem sortGroup_result (g : Group) (trace : Trace) :
    (p.sortGroup g.classes).result trace = .ok (p.sorted g trace.questions) :=
  Order.sortNamed_result (Order.read_name _) p.collator p.oracle g.classes trace

theorem sortGroup_asked {g : Group} (hne : g.classes ≠ []) (trace : Trace) :
    Trace.Asked p.oracle (p.questions g) trace ((p.sortGroup g.classes).after trace) :=
  Order.sortNamed_asked (Order.read_name _) p.collator p.oracle g.classes trace hne

theorem sortGroups_result {groups : List Group} (hne : ∀ g ∈ groups, g.classes ≠ [])
    (trace : Trace) :
    (p.sortGroups groups).result trace = .ok (p.arranged trace.questions groups) :=
  (Job.mapM_threaded p.sorted p.questions groups (fun g _ => p.sortGroup_result g)
    (fun g hg => p.sortGroup_asked (hne g hg)) trace).1

theorem length_arranged (earlier : List Text) (groups : List Group) :
    (p.arranged earlier groups).length = groups.length :=
  length_threaded earlier groups

/-- Group by group, sorting keeps what the groups hold. -/
theorem arranged_flatten_perm (earlier : List Text) (groups : List Group) :
    (p.arranged earlier groups).flatten.Perm (groups.flatMap Group.classes) := by
  induction groups generalizing earlier with
  | nil => exact List.Perm.refl _
  | cons g rest ih =>
    rw [arranged, threaded, List.flatten_cons, List.flatMap_cons]
    exact (Order.arrange_perm ..).append (ih _)

theorem sortedString_result (g : Group) (trace : Trace) :
    (Grouping.sortedString p.sorter g).result trace =
      .ok (joinOriginals (p.sorted g trace.questions)) := by
  unfold sorter
  split
  · rename_i hunsorted
    rw [sorted, hunsorted]
    rfl
  · rw [Grouping.sortedString, Job.result_bind_of_ok (p.sortGroup_result ..)]
    rfl

theorem sortedString_asked {g : Group} (hne : g.classes ≠ []) (trace : Trace) :
    Trace.Asked p.oracle (p.questions g) trace ((Grouping.sortedString p.sorter g).after trace) := by
  unfold sorter
  split
  · rename_i hunsorted
    rw [questions, hunsorted]
    exact Trace.Asked.refl ..
  · rw [Grouping.sortedString, Job.after_bind_of_ok (p.sortGroup_result ..), Job.after_pure]
    exact p.sortGroup_asked hne trace

end

end ClassList.Pipeline

namespace ClassList.Grouping

theorem classes_ne_nil_of_mem_nonEmpty {g : Grouping} {group : Group} (h : group ∈ g.nonEmpty) :
    group.classes ≠ [] := by
  have hkept := (List.mem_filter.mp h).2
  simpa [Group.isEmpty] using hkept

theorem nonEmpty_map {f : Group → Group} (h : ∀ group, (f group).isEmpty = group.isEmpty)
    (g : Grouping) : (⟨g.groups.map f⟩ : Grouping).nonEmpty = g.nonEmpty.map f := by
  rw [nonEmpty, nonEmpty, List.filter_map]
  refine congrArg (List.map f) (List.filter_congr fun group _ => ?_)
  rw [Function.comp_apply, h]

/-- Groups that come to nothing when they are empty can be left out when they are empty. -/
theorem flatMap_nonEmpty {α : Type} {f : Group → List α}
    (h : ∀ group : Group, group.classes = [] → f group = []) (g : Grouping) :
    g.nonEmpty.flatMap f = g.groups.flatMap f := by
  rw [nonEmpty]
  induction g.groups with
  | nil => rfl
  | cons group rest ih =>
    by_cases hempty : group.classes = []
    · rw [List.filter_cons_of_neg (by simp [Group.isEmpty, hempty]), ih, List.flatMap_cons,
        h group hempty, List.nil_append]
    · rw [List.filter_cons_of_pos (by simp [Group.isEmpty, hempty]), List.flatMap_cons,
        List.flatMap_cons, ih]

/-- The class strings of the groups that are shown, and the questions on the way to them. -/
theorem mapM_sortedString (p : Pipeline) (g : Grouping) (trace : Trace) :
    (g.nonEmpty.mapM (sortedString p.sorter)).result trace =
        .ok ((p.arranged trace.questions g.nonEmpty).map joinOriginals) ∧
      Trace.Asked p.oracle (g.nonEmpty.flatMap p.questions) trace
        ((g.nonEmpty.mapM (sortedString p.sorter)).after trace) := by
  rw [Pipeline.arranged, map_threaded]
  exact Job.mapM_threaded (fun g earlier => joinOriginals (p.sorted g earlier)) p.questions
    g.nonEmpty (fun g _ => p.sortedString_result g)
    (fun g hg => p.sortedString_asked (classes_ne_nil_of_mem_nonEmpty hg)) trace

theorem render_of_nonEmpty {g : Grouping} (hne : g.nonEmpty ≠ []) (style : Style)
    (sorter : Option Sorter) :
    g.render style sorter = (do
      Job.ofExcept style.checkWidth
      let strings ← g.nonEmpty.mapM (sortedString sorter)
      report [.groupsRendered g.nonEmpty.length g.size]
      return style.call (g.nonEmpty.zip strings)) := by
  have hshown : g.nonEmpty.isEmpty = false := by simpa using hne
  simp only [render, hshown]
  rfl

section

variable (p : Pipeline) {g : Grouping} (hne : g.nonEmpty ≠ []) (trace : Trace)
include hne

/-- A grouping with classes is rendered as a call, never as the empty expression, if the width of the
indentation passes its check. -/
theorem render_result :
    (g.render p.options.style p.sorter).result trace =
      p.options.style.checkWidth.map fun _ => p.callOf trace.questions g := by
  have hstrings := (mapM_sortedString p g trace).1
  rw [render_of_nonEmpty hne, Job.result_bind, Job.result_ofExcept, Job.after_ofExcept]
  cases p.options.style.checkWidth with
  | error e => rfl
  | ok _ => exact Job.result_bind_of_ok hstrings _

end

end ClassList.Grouping
