import Mathlib.Data.List.Basic
import ClassList.Collation.Excerpt
import ClassList.Sorting

/-! Levels of collation. The first zero of a sort key stands behind the primary weights, so what is in front
of it is the list of the primary weights that count, and nothing of a lower level. Hence texts whose
elements differ at lower levels have the same keys. All this holds of every collator that lists the weights
of elements level by level, however it finds the elements. -/

namespace ClassList

namespace Collation

def Element.primary (e : Element) : Nat := e.headD 0

/-- The primary weights that count. -/
def primaryWeights (elements : List Element) : List Nat := (elements.map Element.primary).filter (· ≠ 0)

/-- Elements whose primary weights are the same one after the other. Elements without one are passed over. -/
inductive SamePrimaries : List Element → List Element → Prop
  | nil : SamePrimaries [] []
  | cons {e e' : Element} {es es' : List Element} (he : e.primary = e'.primary) (h : SamePrimaries es es') :
      SamePrimaries (e :: es) (e' :: es')
  | ignoreLeft {e : Element} {es es' : List Element} (he : e.primary = 0) (h : SamePrimaries es es') :
      SamePrimaries (e :: es) es'
  | ignoreRight {e' : Element} {es es' : List Element} (he : e'.primary = 0) (h : SamePrimaries es es') :
      SamePrimaries es (e' :: es')

section Weights

variable {e : Element} {elements others : List Element}

theorem primaryWeights_cons_of_eq (he : e.primary = 0) :
    primaryWeights (e :: elements) = primaryWeights elements := by
  rw [primaryWeights, List.map_cons, List.filter_cons_of_neg (by simp [he]), primaryWeights]

theorem primaryWeights_cons_of_ne (he : e.primary ≠ 0) :
    primaryWeights (e :: elements) = e.primary :: primaryWeights elements := by
  rw [primaryWeights, List.map_cons, List.filter_cons_of_pos (by simp [he]), primaryWeights]

theorem primaryWeights_append (elements others : List Element) :
    primaryWeights (elements ++ others) = primaryWeights elements ++ primaryWeights others := by
  rw [primaryWeights, List.map_append, List.filter_append, primaryWeights, primaryWeights]

theorem zero_not_mem_primaryWeights (elements : List Element) : 0 ∉ primaryWeights elements := by
  intro h
  simpa using (List.mem_filter.mp h).2

theorem primaryWeights_eq_nil_iff : primaryWeights elements = [] ↔ ∀ e ∈ elements, e.primary = 0 := by
  simp [primaryWeights]

theorem samePrimaries_iff :
    SamePrimaries elements others ↔ primaryWeights elements = primaryWeights others := by
  constructor
  · intro h
    induction h with
    | nil => rfl
    | @cons e e' _ _ he _ ih =>
      by_cases hzero : e.primary = 0
      · rw [primaryWeights_cons_of_eq hzero, primaryWeights_cons_of_eq (he ▸ hzero), ih]
      · rw [primaryWeights_cons_of_ne hzero, primaryWeights_cons_of_ne (he ▸ hzero), he, ih]
    | ignoreLeft he _ ih => rw [primaryWeights_cons_of_eq he, ih]
    | ignoreRight he _ ih => rw [primaryWeights_cons_of_eq he, ih]
  · intro h
    induction elements generalizing others with
    | nil =>
      induction others with
      | nil => exact .nil
      | cons e' others ih =>
        have hzero := primaryWeights_eq_nil_iff.mp h.symm e' (List.mem_cons_self ..)
        exact .ignoreRight hzero (ih (h.trans (primaryWeights_cons_of_eq hzero)))
    | cons e elements ih =>
      by_cases hzero : e.primary = 0
      · exact .ignoreLeft hzero (ih ((primaryWeights_cons_of_eq hzero).symm.trans h))
      -- The weight that counts has its partner behind elements that are passed over.
      induction others with
      | nil => exact absurd (primaryWeights_eq_nil_iff.mp h e (List.mem_cons_self ..)) hzero
      | cons e' others ih' =>
        by_cases hzero' : e'.primary = 0
        · exact .ignoreRight hzero' (ih' (h.trans (primaryWeights_cons_of_eq hzero')))
        · rw [primaryWeights_cons_of_ne hzero, primaryWeights_cons_of_ne hzero'] at h
          obtain ⟨he, hrest⟩ := List.cons.inj h
          exact .cons he (ih hrest)

/-! ### Sort keys -/

theorem levelWeights_zero (elements : List Element) : levelWeights 0 elements = primaryWeights elements := by
  induction elements with
  | nil => rfl
  | cons e elements ih =>
    cases e with
    | nil => rw [primaryWeights_cons_of_eq rfl, ← ih]; rfl
    | cons w lower =>
      have hprimary : Element.primary (w :: lower) = w := rfl
      by_cases hw : w = 0
      · rw [primaryWeights_cons_of_eq (hprimary.trans hw), ← ih]
        simp [levelWeights, hw]
      · rw [primaryWeights_cons_of_ne (by rwa [hprimary]), ← ih]
        simp [levelWeights, hw, hprimary]

theorem firstLevel_sortKey (elements : List Element) :
    firstLevel (sortKey elements) = primaryWeights elements := by
  have hparts : ∃ lower, sortKey elements = levelWeights 0 elements ++ 0 :: lower := ⟨_, by
    simp [sortKey, List.range, List.range.loop]
    rfl⟩
  obtain ⟨lower, hlower⟩ := hparts
  have hkeep : ∀ w ∈ primaryWeights elements, decide (w ≠ 0) = true := by
    intro w hw
    rw [decide_eq_true_iff]
    rintro rfl
    exact zero_not_mem_primaryWeights elements hw
  rw [hlower, levelWeights_zero, firstLevel, List.takeWhile_append_of_pos hkeep,
    List.takeWhile_cons_of_neg (by simp), List.append_nil]

end Weights

end Collation

namespace Collator

open Collation

/-- How a collator makes its sort keys: it finds elements in the normal form of a text, none in an empty
text, and lists their weights level by level. -/
structure BuildsKeys (collator : Collator) (normalize : Text → List Nat)
    (elements : List Nat → List Element) : Prop where
  sortKey : ∀ s, collator.sortKey s = Collation.sortKey (elements (normalize s))
  empty : elements (normalize []) = []

theorem BuildsKeys.collationKey_eq {collator : Collator} {normalize : Text → List Nat}
    {elements : List Nat → List Element} (h : collator.BuildsKeys normalize elements) (t : Token) :
    t.collationKey collator = primaryWeights (elements (normalize t.original)) := by
  rw [Token.collationKey, h.sortKey, firstLevel_sortKey]

theorem buildsKeys_collator (table : Table) :
    table.collator.BuildsKeys table.normalize table.weigh where
  sortKey _ := rfl
  empty := Table.weigh.eq_1 table

end Collator

namespace Token

open Collation

/-- Whatever elements a collator finds, the collation key of a class is the list of their primary weights
that count, so it holds no zero, and it is empty just where no element has a primary weight, as in the empty
text. Keys are the same just where the elements have the same primary weights but for elements without one,
whatever their other weights are. -/
theorem collationKey_primaryLevel {collator : Collator} {normalize : Text → List Nat}
    {elements : List Nat → List Element} (h : collator.BuildsKeys normalize elements) :
    (∀ t : Token,
      let found := elements (normalize t.original)
      t.collationKey collator = (found.map Element.primary).filter (· ≠ 0) ∧
      0 ∉ t.collationKey collator ∧
      (t.collationKey collator = [] ↔ ∀ e ∈ found, e.primary = 0) ∧
      (t.original = [] → t.collationKey collator = [])) ∧
    ∀ t u : Token, t.collationKey collator = u.collationKey collator ↔
      SamePrimaries (elements (normalize t.original)) (elements (normalize u.original)) := by
  refine ⟨fun t => ?_, fun t u => ?_⟩
  · have hkey := h.collationKey_eq t
    refine ⟨hkey, hkey ▸ zero_not_mem_primaryWeights _, hkey ▸ primaryWeights_eq_nil_iff, fun hempty => ?_⟩
    rw [hkey, hempty, h.empty]
    rfl
  · rw [h.collationKey_eq, h.collationKey_eq, samePrimaries_iff]

end Token

namespace Collation

/-- The two forms of a letter and an accent, with the weights of all levels. -/
def accentRows : List (List Nat × List Element) :=
  [([0x45], [[0x1CAA, 0x20, 8]]), ([0x65], [[0x1CAA, 0x20, 2]]), ([0x301], [[0, 0x24, 2]])]

def accents : Table := { excerpt with lookup? := fun cs => accentRows.lookup cs }

end Collation

namespace Token

open Collation

/-- An accent and a capital do not count, as the sort key has them behind its first zero. An accent by itself
has an empty key. -/
theorem collationKey_primaryLevel_accent :
    let collator := accents.collator
    let t := Token.ofText "É"
    let u := Token.ofText "e"
    let mark := Token.ofText "\u0301"
    collator.BuildsKeys accents.normalize accents.weigh ∧
      accents.weigh (accents.normalize t.original) = [[0x1CAA, 0x20, 8], [0, 0x24, 2]] ∧
      collator.sortKey t.original = [0x1CAA, 0, 0x20, 0x24, 0, 8, 2, 0] ∧
      t.collationKey collator = [0x1CAA] ∧ u.collationKey collator = [0x1CAA] ∧
      mark.collationKey collator = [] := by
  intro collator t u mark
  have hbuilds := Collator.buildsKeys_collator accents
  have ht : accents.weigh (accents.normalize t.original) = [[0x1CAA, 0x20, 8], [0, 0x24, 2]] := by
    decide +kernel
  have hu : accents.weigh (accents.normalize u.original) = [[0x1CAA, 0x20, 2]] := by decide +kernel
  have hmark : accents.weigh (accents.normalize mark.original) = [[0, 0x24, 2]] := by decide +kernel
  obtain ⟨hall, hsame⟩ := collationKey_primaryLevel hbuilds
  have hkey : t.collationKey collator = [0x1CAA] := by
    rw [(hall t).1, ht]
    rfl
  have hequal : t.collationKey collator = u.collationKey collator := by
    rw [hsame, ht, hu]
    exact .cons rfl (.ignoreLeft rfl .nil)
  refine ⟨hbuilds, ht, ?_, hkey, hequal ▸ hkey, (hall mark).2.2.1.mpr ?_⟩
  · rw [hbuilds.sortKey, ht]
    rfl
  · rw [hmark]
    exact List.forall_mem_singleton.mpr rfl

end Token

end ClassList
