import Mathlib.Data.List.Forall2
import ClassList.Proofs.FirstMatch

/-! What classification depends on: the groups that compete for classes, in the order in which they are
declared, and the set of patterns that each of them has. The patterns of the fallback, entries for groups
that are not shown, and the order and repetition of the patterns of a group make no difference. -/

namespace ClassList

namespace Rules

/-- Two entries for one group with the same patterns, in whatever order and however often. -/
def SamePatterns (entry other : Text × List Text) : Prop :=
  entry.1 = other.1 ∧ ∀ pattern, pattern ∈ entry.2 ↔ pattern ∈ other.2

theorem samePatterns_iff_all (entry other : Text × List Text) :
    (entry.1 = other.1 ∧ entry.2.all other.2.contains ∧ other.2.all entry.2.contains) ↔
      SamePatterns entry other := by
  simp only [SamePatterns, List.all_eq_true, List.contains_iff_mem, iff_def, forall_and]

instance (entry other : Text × List Text) : Decidable (SamePatterns entry other) :=
  decidable_of_iff _ (samePatterns_iff_all entry other)

/-- Rules with one fallback and the same groups, in whatever order they are shown, of which the same
compete for classes: in the same order and with the same patterns. -/
structure SameCompetition (rules other : Rules) : Prop where
  fallback : rules.fallback = other.fallback
  groupOrder : rules.groupOrder.Perm other.groupOrder
  competing : List.Forall₂ SamePatterns
    (rules.mapping.filter rules.competes) (other.mapping.filter other.competes)

end Rules

theorem firstMatch?_isSome_eq {patterns others : List Text}
    (h : ∀ pattern, pattern ∈ patterns ↔ pattern ∈ others) (t : Token) :
    (firstMatch? patterns t).isSome = (firstMatch? others t).isSome := by
  rw [Bool.eq_iff_iff, firstMatch?, firstMatch?, List.find?_isSome, List.find?_isSome]
  simp only [h]

namespace Classifier

/-- The scan stops at the same group, though maybe at another of its patterns. -/
theorem match?_map_fst_eq {c d : Classifier}
    (h : List.Forall₂ Rules.SamePatterns c.eligible d.eligible) (t : Token) :
    (c.match? t).map Prod.fst = (d.match? t).map Prod.fst := by
  unfold match?
  generalize c.eligible = entries at h ⊢
  generalize d.eligible = others at h ⊢
  induction h with
  | nil => rfl
  | @cons entry other _ _ hentry _ ih =>
    obtain ⟨hname, hpatterns⟩ := hentry
    have hsome := firstMatch?_isSome_eq hpatterns t
    rw [List.findSome?_cons, List.findSome?_cons]
    cases hfirst : firstMatch? entry.2 t with
    | none =>
      have hother : firstMatch? other.2 t = none := by simpa [hfirst] using hsome.symm
      rw [hother]
      exact ih
    | some pattern =>
      obtain ⟨pattern', hother⟩ : ∃ pattern', firstMatch? other.2 t = some pattern' := by
        rw [← Option.isSome_iff_exists, ← hsome, hfirst]
        rfl
      rw [hother]
      exact congrArg some hname

section SameCompetition

variable {rules other : Rules} (h : rules.SameCompetition other)
include h

theorem groupOf_eq (t : Token) : (ofRules rules).groupOf t = (ofRules other).groupOf t := by
  have hmatch := match?_map_fst_eq (c := ofRules rules) (d := ofRules other) h.competing t
  have hfallback : (ofRules rules).fallback = (ofRules other).fallback := h.fallback
  rw [groupOf_eq_getD, groupOf_eq_getD, hmatch, hfallback]

theorem partition_perm (tokens : List Token) :
    ((ofRules rules).partition tokens).groups.Perm ((ofRules other).partition tokens).groups := by
  unfold partition
  simp only [groupOf_eq h]
  exact h.groupOrder.map _

end SameCompetition

/-- Checked rules with the same competition classify alike: every class goes to the same group, and any
list of classes makes the same groups, each with the same classes in the same order, arranged as each of
the two group orders says. -/
theorem classify_sameCompetition {groupOrder mapping fallback groupOrder' mapping' fallback' : Value}
    {rules other : Rules} (hrules : Rules.read groupOrder mapping fallback = .ok rules)
    (hother : Rules.read groupOrder' mapping' fallback' = .ok other)
    (h : rules.SameCompetition other) :
    (∀ t trace trace', ((ofRules rules).find t trace).1 = ((ofRules other).find t trace').1) ∧
      ∀ tokens trace trace', ∃ g g',
        ((ofRules rules).run tokens).result trace = .ok g ∧
        ((ofRules other).run tokens).result trace' = .ok g' ∧
        g.names = rules.groupOrder ∧ g'.names = other.groupOrder ∧ g.groups.Perm g'.groups := by
  have hwell := wellFormed_ofRules (Rules.read_valid hrules)
  have hwell' := wellFormed_ofRules (Rules.read_valid hother)
  exact ⟨fun t _ _ => groupOf_eq h t, fun tokens _ _ =>
    ⟨_, _, hwell.classify_eq tokens, hwell'.classify_eq tokens, Grouping.names_map ..,
      Grouping.names_map .., partition_perm h tokens⟩⟩

/-- Two groups take one of the classes. The other rules show the groups in another order, have patterns
for the fallback and entries for groups that are not shown, and repeat a pattern. -/
theorem classify_sameCompetition_noisy :
    let groupOrder : Value := .list [.text "B", .text "A", .text "Rest"]
    let mapping : Value := .object [(.text "Rest", .list []),
      (.text "A", .list [.text "x-*", .text "z"]), (.text "B", .list [.text "x-1", .text "y-*"])]
    let groupOrder' : Value := .tuple [.text "Rest", .text "A", .text "B"]
    let mapping' : Value := .object [(.text "Hidden", .list [.text "x-*"]),
      (.text "A", .list [.text "z", .text "x-*", .text "z"]), (.text "Gone", .list [.text "y-*"]),
      (.text "B", .tuple [.text "y-*", .text "x-1"]), (.text "Rest", .list [.text "x-*"])]
    let tokens := ["x-1", "y-[2]", "w"].map fun s => Token.ofText (String.toList s)
    let shown : List Group := [⟨"B", [Token.ofText "y-[2]"]⟩, ⟨"A", [Token.ofText "x-1"]⟩,
      ⟨"Rest", [Token.ofText "w"]⟩]
    ∃ rules other, Rules.read groupOrder mapping (.text "Rest") = .ok rules ∧
      Rules.read groupOrder' mapping' (.text "Rest") = .ok other ∧ rules.SameCompetition other ∧
      ((ofRules rules).run tokens).result {} = .ok ⟨shown⟩ ∧
      ∃ g', ((ofRules other).run tokens).result {} = .ok g' ∧ shown.Perm g'.groups ∧
        g'.names = ["Rest".toList, "A".toList, "B".toList] := by
  intro groupOrder mapping groupOrder' mapping' tokens shown
  have hread : ∃ rules other, Rules.read groupOrder mapping (.text "Rest") = .ok rules ∧
      Rules.read groupOrder' mapping' (.text "Rest") = .ok other ∧ rules.SameCompetition other ∧
      ((ofRules rules).run tokens).result {} = .ok ⟨shown⟩ ∧
      other.groupOrder = ["Rest".toList, "A".toList, "B".toList] :=
    ⟨_, _, rfl, rfl, ⟨rfl, by decide +kernel, by decide +kernel⟩, rfl, rfl⟩
  obtain ⟨rules, other, hrules, hother, hsame, hrun, horder⟩ := hread
  obtain ⟨-, hclassify⟩ := classify_sameCompetition hrules hother hsame
  obtain ⟨g, g', hresult, hresult', -, hnames, hperm⟩ := hclassify tokens {} {}
  obtain rfl : g = ⟨shown⟩ := Except.ok.inj (hresult.symm.trans hrun)
  exact ⟨rules, other, hrules, hother, hsame, hresult, g', hresult', hperm, hnames.trans horder⟩

end Classifier

end ClassList
