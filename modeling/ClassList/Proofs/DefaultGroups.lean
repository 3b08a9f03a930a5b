import Mathlib.Data.List.Pairwise
import ClassList.Options.Defaults
import ClassList.Proofs.EligibleGroups
import ClassList.Proofs.Patterns
import ClassList.Proofs.SameOptions

/-! The default groups take different classes, except that `Layout` and `Text` both take those for
`content`. So the default mapping can declare its groups in any order that leaves `Layout` in front of
`Text`, and the groups can be shown in any order at all: every class stays in its group. -/

namespace ClassList

namespace Mapping

/-- The groups with a pattern for a class, in the order of the mapping. -/
def groupsFor (mapping : Mapping) (t : Token) : List Text :=
  (mapping.filter fun entry => (firstMatch? entry.2 t).isSome).map Prod.fst

end Mapping

/-- Whether a class reads, with its arbitrary value put aside, as `content` alone or up to a hyphen. -/
def Token.IsContent (t : Token) : Prop :=
  t.normalized = "content".toList ∨ "content-".toList <+: t.normalized

theorem matchesPattern_content_iff {t : Token} :
    matchesPattern "content-*".toList t = true ↔ t.IsContent := by
  have hpattern : Pattern.ofText "content-*".toList = .wildcard "content".toList := by decide
  rw [matchesPattern, hpattern, Pattern.accepts, Bool.or_eq_true, decide_eq_true_iff,
    List.isPrefixOf_iff_prefix]
  rfl

namespace Defaults

def rules : Rules := ⟨groupOrder, mapping, "Others"⟩

theorem valid_rules : rules.Valid where
  named := by decide
  mapped := by decide
  nodup := by decide
  fallback_mem := by decide

theorem ofGroups_eq :
    Classifier.ofGroups groupOrder mapping "Others" = .ok (Classifier.ofRules rules) :=
  congrArg (Except.map Classifier.ofRules) valid_rules.read_eq

theorem mapping_nodup : (mapping.map Prod.fst).Nodup := by decide

/-! ### Patterns of two groups -/

/-- Patterns of two groups start with different words, except for those that start with `content`. -/
theorem pairwise_code : mapping.Pairwise fun entry other => ∀ p ∈ entry.2, ∀ q ∈ other.2,
    Text.code (Text.firstWord p) = Text.code (Text.firstWord q) →
      entry.1 = "Layout".toList ∧ other.1 = "Text".toList ∧ p = "content-*".toList := by
  decide +kernel

/-- Whether two entries take a class at most as `Layout` and `Text` take one for `content`. -/
def Apart (t : Token) (entry other : Text × List Text) : Prop :=
  (firstMatch? entry.2 t).isSome = true → (firstMatch? other.2 t).isSome = true →
    t.IsContent ∧ (entry.1 = "Layout".toList ∧ other.1 = "Text".toList ∨
      entry.1 = "Text".toList ∧ other.1 = "Layout".toList)

instance (t : Token) : Std.Symm (Apart t) where
  symm _ _ h := fun hmatch hmatch' =>
    (h hmatch' hmatch).imp_right fun hnames => hnames.symm.imp And.symm And.symm

theorem pairwise_apart (t : Token) : mapping.Pairwise (Apart t) := by
  refine pairwise_code.imp fun hcode hmatch hmatch' => ?_
  obtain ⟨p, hp, hpt⟩ := List.find?_isSome.mp hmatch
  obtain ⟨q, hq, hqt⟩ := List.find?_isSome.mp hmatch'
  have hword : Text.firstWord p = Text.firstWord q :=
    (firstWord_of_matchesPattern hpt).trans (firstWord_of_matchesPattern hqt).symm
  obtain ⟨hlayout, htext, rfl⟩ := hcode p hp q hq (congrArg Text.code hword)
  exact ⟨matchesPattern_content_iff.mp hpt, .inl ⟨hlayout, htext⟩⟩

/-! ### Groups for a class -/

theorem layout_mem : ("Layout".toList, layoutPatterns) ∈ mapping := List.mem_of_getElem? (i := 1) rfl

theorem text_mem : ("Text".toList, textPatterns) ∈ mapping := List.mem_of_getElem? (i := 5) rfl

theorem firstMatch?_of_isContent {t : Token} (h : t.IsContent) {entry : Text × List Text}
    (hentry : entry ∈ mapping) (hname : entry.1 = "Layout".toList ∨ entry.1 = "Text".toList) :
    (firstMatch? entry.2 t).isSome = true := by
  have hmatch := matchesPattern_content_iff.mpr h
  rw [firstMatch?, List.find?_isSome]
  rcases hname with hname | hname
  · obtain rfl := List.inj_on_of_nodup_map mapping_nodup hentry layout_mem hname
    exact ⟨_, List.mem_map_of_mem (by simp), hmatch⟩
  · obtain rfl := List.inj_on_of_nodup_map mapping_nodup hentry text_mem hname
    exact ⟨_, List.mem_map_of_mem (by simp), hmatch⟩

theorem firstMatch?_isSome_iff {t : Token} (h : t.IsContent) {entry : Text × List Text}
    (hentry : entry ∈ mapping) : (firstMatch? entry.2 t).isSome = true ↔
      entry.1 = "Layout".toList ∨ entry.1 = "Text".toList := by
  refine ⟨fun hmatch => ?_, firstMatch?_of_isContent h hentry⟩
  by_cases heq : entry = ("Layout".toList, layoutPatterns)
  · exact .inl (congrArg Prod.fst heq)
  -- `Layout` takes the class as well, so this entry is the other one of the two.
  · have hapart := (pairwise_apart t).forall hentry layout_mem heq
    exact (hapart hmatch (firstMatch?_of_isContent h layout_mem (.inl rfl))).2.imp And.left And.left

theorem groupsFor_of_isContent {t : Token} (h : t.IsContent) :
    mapping.groupsFor t = ["Layout".toList, "Text".toList] := by
  have hfilter : mapping.filter (fun entry => (firstMatch? entry.2 t).isSome) =
      mapping.filter fun entry => entry.1 = "Layout".toList ∨ entry.1 = "Text".toList := by
    refine List.filter_congr fun entry hentry => ?_
    rw [Bool.eq_iff_iff, decide_eq_true_iff]
    exact firstMatch?_isSome_iff h hentry
  rw [Mapping.groupsFor, hfilter]
  rfl

theorem length_groupsFor_le_one {t : Token} (h : ¬t.IsContent) :
    (mapping.groupsFor t).length ≤ 1 := by
  have hpair : (mapping.filter fun entry => (firstMatch? entry.2 t).isSome).Pairwise
      fun _ _ => False :=
    List.pairwise_filter.mpr ((pairwise_apart t).imp fun hapart hmatch hmatch' =>
      h (hapart hmatch hmatch').1)
  rw [Mapping.groupsFor, List.length_map]
  generalize mapping.filter (fun entry => (firstMatch? entry.2 t).isSome) = entries at hpair ⊢
  match entries, hpair with
  | [], _ => exact Nat.zero_le 1
  | [_], _ => exact Nat.le_refl 1
  | _ :: _ :: _, .cons hfirst _ => exact (hfirst _ (List.mem_cons_self ..)).elim

/-! ### Rearranged rules -/

/-- Rules with the default groups, shown in any order and declared in any order that has `Layout` before
`Text`. -/
structure Rearranged (rules : Rules) : Prop where
  groupOrder : rules.groupOrder.Perm Defaults.groupOrder
  mapping : rules.mapping.Perm Defaults.mapping
  before : rules.mapping.Before "Layout" "Text"
  fallback : rules.fallback = "Others".toList

theorem agree {other : Mapping} (h : other.Before "Layout" "Text") (t : Token) :
    rules.Agree other t := by
  intro entry hentry entry' hentry' htakes htakes' hbefore
  by_cases heq : entry = entry'
  · subst heq
    exact absurd hbefore (not_sublist_swap mapping_nodup hbefore)
  · have hapart := (pairwise_apart t).forall hentry hentry' heq
    obtain ⟨-, ⟨hname, hname'⟩ | ⟨hname, hname'⟩⟩ :=
      hapart (Rules.takes_iff.mp htakes).2 (Rules.takes_iff.mp htakes').2
    · rw [hname, hname']
      exact h
    · have hdefault : mapping.Before "Layout" "Text" := by decide
      rw [hname, hname'] at hbefore
      exact absurd hbefore (not_sublist_swap mapping_nodup hdefault)

section Rearranged

variable {other : Rules} (h : Rearranged other)
include h

theorem Rearranged.valid : other.Valid where
  named := fun entry hentry => valid_rules.named entry (h.mapping.mem_iff.mp hentry)
  mapped := fun name hname =>
    (h.mapping.map Prod.fst).mem_iff.mpr (valid_rules.mapped name (h.groupOrder.mem_iff.mp hname))
  nodup := h.groupOrder.nodup_iff.mpr valid_rules.nodup
  fallback_mem := h.fallback ▸ h.groupOrder.mem_iff.mpr valid_rules.fallback_mem

/-- The order in which the groups are shown does not bear on the competition. -/
theorem Rearranged.sameCompetition : other.SameCompetition { rules with mapping := other.mapping } := by
  refine ⟨h.fallback, h.groupOrder, ?_⟩
  have hcompetes : other.competes = Rules.competes { rules with mapping := other.mapping } := by
    funext entry
    rw [Rules.competes, Rules.competes, h.fallback, h.groupOrder.contains_eq]
    rfl
  rw [hcompetes]
  exact List.forall₂_same.mpr fun _ _ => ⟨rfl, fun _ => Iff.rfl⟩

theorem Rearranged.groupOf_eq (t : Token) :
    (Classifier.ofRules other).groupOf t = (Classifier.ofRules rules).groupOf t := by
  have hnodup : (other.mapping.map Prod.fst).Nodup :=
    (h.mapping.map Prod.fst).nodup_iff.mpr mapping_nodup
  rw [Classifier.groupOf_eq h.sameCompetition t,
    (agree h.before t).groupOf_eq h.mapping.symm hnodup]

end Rearranged

/-- A class has `Layout` and `Text` for its default groups if it is one for `content`, and at most one
group otherwise. So the default groups take the same classes when they are shown in another order, and
declared in another order that still has `Layout` before `Text`, whether as lists or as tuples. -/
theorem find_rearranged :
    (∀ t : Token, (t.normalized = "content".toList ∨ "content-".toList <+: t.normalized) →
      mapping.groupsFor t = ["Layout".toList, "Text".toList]) ∧
    (∀ t : Token, ¬(t.normalized = "content".toList ∨ "content-".toList <+: t.normalized) →
      (mapping.groupsFor t).length ≤ 1) ∧
    ∃ c, Classifier.ofGroups groupOrder mapping "Others" = .ok c ∧
      ∀ other order entries, Rearranged other → other.SpelledBy order entries (.text "Others") →
        Rules.read order entries (.text "Others") = .ok other ∧
        ∀ t trace trace', ((Classifier.ofRules other).find t trace).1 = (c.find t trace').1 := by
  refine ⟨fun _ => groupsFor_of_isContent, fun _ => length_groupsFor_le_one, _, ofGroups_eq, ?_⟩
  intro other order entries h hspelled
  exact ⟨h.valid.read_of_spelled hspelled, fun t _ _ => h.groupOf_eq t⟩

/-- The first group is declared last, and the groups are shown from the last to the first. -/
theorem find_rearranged_rotated :
    let other : Rules := ⟨groupOrder.reverse, mapping.drop 1 ++ mapping.take 1, "Others"⟩
    let order : Value := .list (other.groupOrder.map Value.text)
    let entries : Value := .object
      (other.mapping.map fun entry => (.text entry.1, .list (entry.2.map Value.text)))
    let quoted := Token.ofText "hover:content-['x']"
    let width := Token.ofText "w-[3px]"
    (quoted.normalized = "content".toList ∨ "content-".toList <+: quoted.normalized) ∧
    mapping.groupsFor quoted = ["Layout".toList, "Text".toList] ∧
    ¬(width.normalized = "content".toList ∨ "content-".toList <+: width.normalized) ∧
    (mapping.groupsFor width).length ≤ 1 ∧
    Rearranged other ∧ other.SpelledBy order entries (.text "Others") ∧
    Rules.read order entries (.text "Others") = .ok other ∧
    ∃ c, Classifier.ofGroups groupOrder mapping "Others" = .ok c ∧
      ((Classifier.ofRules other).find quoted {}).1 = "Layout".toList ∧
      (c.find quoted {}).1 = "Layout".toList ∧
      ((Classifier.ofRules other).find width {}).1 = "Size".toList ∧
      (c.find width {}).1 = "Size".toList := by
  intro other order entries quoted width
  obtain ⟨hcontent, hother, c, hc, hfind⟩ := find_rearranged
  have hquoted : quoted.normalized = "content".toList ∨ "content-".toList <+: quoted.normalized := by
    decide
  have hwidth : ¬(width.normalized = "content".toList ∨
      "content-".toList <+: width.normalized) := by decide
  have hmapping : other.mapping.Perm mapping := by
    have hrotated : (mapping.drop 1 ++ mapping.take 1).Perm (mapping.take 1 ++ mapping.drop 1) :=
      List.perm_append_comm
    rwa [List.take_append_drop] at hrotated
  have hrearranged : Rearranged other :=
    ⟨List.reverse_perm groupOrder, hmapping, by decide, rfl⟩
  have hspelled : other.SpelledBy order entries (.text "Others") := by
    refine ⟨rfl, ⟨_, rfl, ?_⟩, rfl⟩
    rw [List.map_map]
    rfl
  obtain ⟨hread, hsame⟩ := hfind other order entries hrearranged hspelled
  obtain rfl : Classifier.ofRules rules = c := Except.ok.inj (ofGroups_eq.symm.trans hc)
  have hlayout : ((Classifier.ofRules other).find quoted {}).1 = "Layout".toList := by decide
  have hsize : ((Classifier.ofRules rules).find width {}).1 = "Size".toList := by decide
  exact ⟨hquoted, hcontent quoted hquoted, hwidth, hother width hwidth, hrearranged, hspelled, hread,
    _, hc, hlayout, (hsame quoted {} {}).symm.trans hlayout, (hsame width {} {}).trans hsize, hsize⟩

/-- Where `Text` comes first, it takes the classes for `content`. -/
example : (Classifier.ofRules { rules with mapping := mapping.drop 5 ++ mapping.take 5 }).groupOf
    (Token.ofText "content-center") = "Text".toList := by decide

end Defaults

end ClassList
