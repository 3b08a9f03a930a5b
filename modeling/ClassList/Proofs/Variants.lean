import Mathlib.Data.List.Find
import ClassList.Classifier
import ClassList.Proofs.Patterns
import ClassList.Proofs.Tokens

/-! The group of a class is decided by its utility. Patterns see the base of a class and not its variants,
and of the value in brackets they see nothing, unless a pattern writes that very base. -/

namespace ClassList

namespace Pattern

variable {p : Pattern} {t u : Token}

/-- An exact pattern of another base can take a token by the normalized base only. -/
theorem accepts_exact_of_ne {base : Text} (h : t.base ≠ base) :
    (exact base).accepts t = decide (t.normalized = base) := by
  rw [accepts, decide_eq_false h, Bool.false_or]

/-- Tokens that differ behind the normalized base are told apart by their own bases only. -/
theorem accepts_congr (hnormalized : t.normalized = u.normalized) (ht : p ≠ exact t.base)
    (hu : p ≠ exact u.base) : p.accepts t = p.accepts u := by
  cases p with
  | exact base =>
    have ht : t.base ≠ base := fun h => ht (h ▸ rfl)
    have hu : u.base ≠ base := fun h => hu (h ▸ rfl)
    rw [accepts_exact_of_ne ht, accepts_exact_of_ne hu, hnormalized]
  | wildcard stem => rw [accepts, accepts, hnormalized]

theorem accepts_congr_base (hbase : t.base = u.base) : p.accepts t = p.accepts u := by
  have hnormalized : t.normalized = u.normalized := by
    rw [Token.normalized, Token.normalized, Token.arbitrary?, Token.arbitrary?, hbase]
  cases p with
  | exact base => rw [accepts, accepts, hbase, hnormalized]
  | wildcard stem => rw [accepts, accepts, hnormalized]

theorem ofText_ne_exact {s base : Text} (h : s ≠ base) : ofText s ≠ exact base := by
  intro hexact
  have htext := toText_ofText s
  rw [hexact] at htext
  exact h htext.symm

end Pattern

namespace Classifier

variable {c : Classifier} {t u : Token}

/-- Two tokens that the same scanned patterns take are in one group. -/
theorem groupOf_congr
    (h : ∀ entry ∈ c.eligible, ∀ pattern ∈ entry.2,
      matchesPattern pattern t = matchesPattern pattern u) :
    c.groupOf t = c.groupOf u := by
  have hmatch : c.match? t = c.match? u := by
    unfold match?
    generalize c.eligible = entries at h
    induction entries with
    | nil => rfl
    | cons entry rest ih =>
      obtain ⟨hentry, hrest⟩ := List.forall_mem_cons.mp h
      have hfirst : firstMatch? entry.2 t = firstMatch? entry.2 u := List.find?_congr hentry
      rw [List.findSome?_cons, List.findSome?_cons, hfirst, ih hrest]
  rw [groupOf, groupOf, hmatch]

theorem groupOf_congr_base (hbase : t.base = u.base) : c.groupOf t = c.groupOf u :=
  groupOf_congr fun _ _ _ _ => Pattern.accepts_congr_base hbase

theorem groupOf_congr_normalized (hnormalized : t.normalized = u.normalized)
    (hpatterns : ∀ entry ∈ c.eligible, t.base ∉ entry.2 ∧ u.base ∉ entry.2) :
    c.groupOf t = c.groupOf u := by
  refine groupOf_congr fun entry hentry pattern hpattern => ?_
  obtain ⟨ht, hu⟩ := hpatterns entry hentry
  exact Pattern.accepts_congr hnormalized
    (Pattern.ofText_ne_exact fun h => ht (h ▸ hpattern))
    (Pattern.ofText_ne_exact fun h => hu (h ▸ hpattern))

/-- Whatever the groups of a classifier and their patterns, a class is found in one group behind all
variants. With a value in brackets it is found in one group for all values, as long as no scanned
pattern is the base of one of the two classes. -/
theorem find_of_utility (c : Classifier) {front front' : Text} (hfront : Token.IsVariantPart front)
    (hfront' : Token.IsVariantPart front') :
    (∀ base, Token.delimiter ∉ base → ∀ trace trace',
      (c.find (Token.ofText (front ++ base)) trace).1 =
        (c.find (Token.ofText (front' ++ base)) trace').1) ∧
    ∀ a b : Arbitrary, a.WellFormed → b.WellFormed → a.utility = b.utility →
      Token.delimiter ∉ a.value → Token.delimiter ∉ b.value →
      (∀ entry ∈ c.eligible, a.toBase ∉ entry.2 ∧ b.toBase ∉ entry.2) →
      ∀ trace trace', (c.find (Token.ofText (front ++ a.toBase)) trace).1 =
        (c.find (Token.ofText (front' ++ b.toBase)) trace').1 := by
  refine ⟨fun base hbase _ _ => groupOf_congr_base ?_, ?_⟩
  · rw [Token.base_ofText_append hfront hbase, Token.base_ofText_append hfront' hbase]
  · intro a b ha hb hutility hvalue hvalue' hpatterns _ _
    have hbase := Token.base_ofText_append hfront (ha.delimiter_not_mem_toBase hvalue)
    have hbase' := Token.base_ofText_append hfront' (hb.delimiter_not_mem_toBase hvalue')
    refine groupOf_congr_normalized ?_ ?_
    · rw [ha.normalized_eq hbase, hb.normalized_eq hbase', hutility]
    · rwa [hbase, hbase']

/-- A value that looks like a pattern and holds brackets of its own, next to a pattern that is the base
of a third class. -/
theorem find_of_utility_brackets :
    let groupOrder : Value := .list [.text "Rest", .text "Fixed", .text "Size"]
    let mapping : Value := .object [(.text "Fixed", .list [.text "max-h-[1px]"]),
      (.text "Size", .list [.text "w-*", .text "max-h-*"]), (.text "Rest", .list [])]
    ∃ rules, Rules.read groupOrder mapping (.text "Rest") = .ok rules ∧
      ((ofRules rules).find (Token.ofText "md:[&>p]:max-h-[1px]") {}).1 = "Fixed".toList ∧
      ((ofRules rules).find (Token.ofText "max-h-[1px]") {}).1 = "Fixed".toList ∧
      ((ofRules rules).find (Token.ofText "md:[&>p]:max-h-[w-*]-[*]") {}).1 = "Size".toList ∧
      ((ofRules rules).find (Token.ofText "max-h-[2px]") {}).1 = "Size".toList := by
  intro groupOrder mapping
  have hread : ∃ rules, Rules.read groupOrder mapping (.text "Rest") = .ok rules ∧
      ((ofRules rules).find (Token.ofText "max-h-[1px]") {}).1 = "Fixed".toList ∧
      ((ofRules rules).find (Token.ofText "max-h-[2px]") {}).1 = "Size".toList ∧
      ∀ entry ∈ (ofRules rules).eligible,
        "max-h-[w-*]-[*]".toList ∉ entry.2 ∧ "max-h-[2px]".toList ∉ entry.2 :=
    ⟨_, rfl, rfl, rfl, by decide⟩
  obtain ⟨rules, hrules, hfixed, hsize, hpatterns⟩ := hread
  have hfront : Token.IsVariantPart "md:[&>p]:".toList := .inr rfl
  have hfront' : Token.IsVariantPart [] := .inl rfl
  obtain ⟨hbase, hvalue⟩ := find_of_utility (ofRules rules) hfront hfront'
  have hchars : ∀ c ∈ "max-h".toList, isUtilityChar c = true := List.all_eq_true.mp rfl
  have hbrackets : Arbitrary.WellFormed ⟨"max-h", "w-*]-[*"⟩ := ⟨by decide, hchars, by decide, by decide⟩
  have hlength : Arbitrary.WellFormed ⟨"max-h", "2px"⟩ := ⟨by decide, hchars, by decide, by decide⟩
  refine ⟨rules, hrules, ?_, hfixed, ?_, hsize⟩
  · exact (hbase "max-h-[1px]" (by decide) {} {}).trans hfixed
  · have hsame := hvalue _ _ hbrackets hlength rfl (by decide) (by decide) hpatterns {} {}
    exact hsame.trans hsize

end Classifier

end ClassList
