import ClassList.Proofs.Classification
import ClassList.Proofs.Rendering
import ClassList.Proofs.Words

/-! Groupings that come about in a series of steps, any of which may fail: what holds of every one of
them, and what a class that is added changes. -/

namespace ClassList

/-- A step that builds a grouping. A class is added to a grouping that is given by its number. -/
inductive Construction where
  | ofNames (names : Value)
  | ofAssignments (names : Value) (assignments : Assignments)
  | ofGroups (groups : List (Value × List Token))
  | add (number : Nat) (name : Text) (t : Token)

namespace Construction

/-- What comes of a step after others have built groupings, if the grouping that it starts from is
among these. -/
def result? (built : List Grouping) : Construction → Option (Except Failure Grouping)
  | .ofNames names => some (Grouping.ofNames names)
  | .ofAssignments names assignments => some (Grouping.ofAssignments names assignments)
  | .ofGroups groups => some <| Failure.ofConfig do
    Grouping.ofGroups (← groups.mapM fun group => Group.ofName group.1 group.2)
  | .add number name t => built[number]?.map (·.add name t)

/-- The groupings after one more step. A step that fails builds none. -/
def extend (built : List Grouping) (step : Construction) : List Grouping :=
  match step.result? built with
  | some (.ok g) => built ++ [g]
  | _ => built

/-- The groupings that steps build one after the other, numbered in their order. -/
def history (steps : List Construction) : List Grouping := steps.foldl extend []

end Construction

theorem Group.ofName_named {name : Value} {tokens : List Token} {group : Group}
    (h : ofName name tokens = .ok group) : Text.isBlankText group.name = false := by
  unfold ofName at h
  split at h
  · split at h
    · cases h
    · rename_i s hs
      cases h
      simpa using hs
  · cases h

namespace Grouping

/-- A grouping of different groups with names that are not blank. -/
structure WellFormed (g : Grouping) : Prop where
  named : ∀ name ∈ g.names, Text.isBlankText name = false
  nodup : g.names.Nodup

/-- A grouping of groups whose names were checked one by one. -/
theorem wellFormed_of_mapM {ε α : Type} {check : α → Except ε Group}
    (hcheck : ∀ a group, check a = .ok group → Text.isBlankText group.name = false)
    {items : List α} {groups : List Group} (hgroups : items.mapM check = .ok groups)
    {g : Grouping} (h : ofGroups groups = .ok g) : g.WellFormed := by
  obtain ⟨hnodup, rfl⟩ := ofGroups_eq_ok_iff.mp h
  refine ⟨List.forall_mem_map.mpr fun group hgroup => ?_, hnodup⟩
  obtain ⟨a, -, ha⟩ := exists_of_mapM_eq_ok hgroups group hgroup
  exact hcheck a group ha

theorem wellFormed_ofNames {names : Value} {g : Grouping} (h : ofNames names = .ok g) :
    g.WellFormed := by
  unfold ofNames at h
  split at h
  · obtain ⟨groups, hgroups, h⟩ := bind_eq_ok_iff.mp h
    exact wellFormed_of_mapM (fun _ _ => Group.ofName_named)
      (Failure.ofConfig_eq_ok_iff.mp hgroups) (Failure.ofConfig_eq_ok_iff.mp h)
  · cases h

theorem assignedGroup_named {assignments : Assignments} {name : Value} {group : Group}
    (h : assignedGroup assignments name = .ok group) : Text.isBlankText group.name = false := by
  unfold assignedGroup at h
  split at h
  · exact Group.ofName_named (Failure.ofConfig_eq_ok_iff.mp h)
  · cases h

theorem wellFormed_ofAssignments {names : Value} {assignments : Assignments} {g : Grouping}
    (h : ofAssignments names assignments = .ok g) : g.WellFormed := by
  obtain ⟨unknown, -, h⟩ := bind_eq_ok_iff.mp h
  split at h
  · split at h
    · obtain ⟨groups, hgroups, h⟩ := bind_eq_ok_iff.mp h
      exact wellFormed_of_mapM (fun _ _ => assignedGroup_named) hgroups
        (Failure.ofConfig_eq_ok_iff.mp h)
    · cases h
  · cases h

theorem WellFormed.withClass {g : Grouping} (h : g.WellFormed) (name : Text) (t : Token) :
    (g.withClass name t).WellFormed where
  named := by simpa using h.named
  nodup := by simpa using h.nodup

theorem WellFormed.add {g g' : Grouping} (h : g.WellFormed) {name : Text} {t : Token}
    (hadd : g.add name t = .ok g') : g'.WellFormed := by
  by_cases hname : name ∈ g.names
  · rw [add_of_mem h.nodup hname] at hadd
    cases hadd
    exact h.withClass name t
  · rw [add_of_not_mem h.nodup hname] at hadd
    cases hadd

/-- What a user of a grouping relies on: the index and the groups agree, and a class that is added comes
to the end of one group and changes nothing else. -/
structure Consistent (g : Grouping) : Prop extends g.WellFormed where
  position : ∀ name place, g.position? name = some place ↔
    ∃ group, g.groups[place]? = some group ∧ group.name = name
  get_ok : ∀ name group, g.get name = .ok group ↔ group ∈ g.groups ∧ group.name = name
  get_error : ∀ name e, g.get name = .error e ↔ name ∉ g.names ∧ e = .noSuchGroup name
  add_ok : ∀ place group, g.groups[place]? = some group → ∀ t, ∃ g',
    g.add group.name t = .ok g' ∧
    g'.groups = g.groups.set place ⟨group.name, group.classes ++ [t]⟩ ∧
    g'.names = g.names ∧ g'.size = g.size + 1
  add_error : ∀ name t e, g.add name t = .error e ↔ name ∉ g.names ∧ e = .unknownGroup name
  add_comm : ∀ name ∈ g.names, ∀ other ∈ g.names, name ≠ other → ∀ t u, ∃ g',
    (g.add name t >>= fun h => h.add other u) = .ok g' ∧
    (g.add other u >>= fun h => h.add name t) = .ok g'
  size : g.size = g.allClasses.length
  flatString :
    g.flatString = List.intercalate " " (g.nonEmpty.map fun group => group.classString none)

theorem withClass_comm (g : Grouping) {name other : Text} (hne : name ≠ other) (t u : Token) :
    (g.withClass name t).withClass other u = (g.withClass other u).withClass name t := by
  unfold Grouping.withClass
  rw [List.map_map, List.map_map]
  refine congrArg Grouping.mk (List.map_congr_left fun group _ => ?_)
  by_cases hname : group.name = name
  · have hother : group.name ≠ other := hname ▸ hne
    simp [hname, hne, Group.add, Group.addAll]
  · by_cases hother : group.name = other
    · simp [hother, hne.symm, Group.add, Group.addAll]
    · simp [hname, hother]

/-- The joined classes of a grouping are the joined classes of its groups. -/
theorem flatString_eq (g : Grouping) :
    g.flatString =
      List.intercalate " " (g.nonEmpty.map fun group => group.classString none) := by
  have hclasses : g.allClasses = g.nonEmpty.flatMap Group.classes :=
    (flatMap_nonEmpty (fun _ hempty => hempty) g).symm
  rw [flatString, joinOriginals, hclasses, List.map_flatMap, List.flatMap_def,
    Text.intercalate_flatten, List.map_map]
  · rfl
  · rintro run hrun
    obtain ⟨group, hgroup, rfl⟩ := List.mem_map.mp hrun
    simpa using classes_ne_nil_of_mem_nonEmpty hgroup

section

variable {g : Grouping} (h : g.names.Nodup) {place : Nat} {group : Group}
  (hgroup : g.groups[place]? = some group) (t : Token)
include h hgroup

theorem groups_withClass :
    (g.withClass group.name t).groups = g.groups.set place (group.add t) := by
  have hposition := (position?_eq_some_iff h).mpr ⟨group, hgroup, rfl⟩
  have : Inhabited Group := ⟨group⟩
  rw [← modify_eq_withClass h hposition, List.modify_eq_set, hgroup]
  rfl

theorem size_withClass : (g.withClass group.name t).size = g.size + 1 := by
  obtain ⟨hplace, hat⟩ := List.getElem?_eq_some_iff.mp hgroup
  obtain ⟨front, back, hgroups, -, hset⟩ : ∃ front back, g.groups = front ++ g.groups[place] :: back ∧
      front.length = place ∧ g.groups.set place (group.add t) = front ++ group.add t :: back :=
    List.exists_of_set hplace
  rw [hat] at hgroups
  rw [size_eq_length, size_eq_length, allClasses, allClasses, groups_withClass h hgroup, hset,
    hgroups]
  simp only [List.flatMap_append, List.flatMap_cons, List.length_append, Group.add, Group.addAll,
    List.length_singleton]
  omega

end

theorem WellFormed.consistent {g : Grouping} (h : g.WellFormed) : g.Consistent where
  toWellFormed := h
  position _ _ := position?_eq_some_iff h.nodup
  get_ok _ _ := get_eq_ok_iff h.nodup
  get_error _ _ := get_eq_error_iff h.nodup
  add_ok place group hgroup t := by
    have hname : group.name ∈ g.names := List.mem_map_of_mem (List.mem_of_getElem? hgroup)
    exact ⟨_, add_of_mem h.nodup hname t, groups_withClass h.nodup hgroup t,
      names_withClass g group.name t, size_withClass h.nodup hgroup t⟩
  add_error name t e := by
    by_cases hname : name ∈ g.names
    · simp [add_of_mem h.nodup hname, hname]
    · simp [add_of_not_mem h.nodup hname, hname, eq_comm]
  add_comm name hname other hother hne t u := by
    refine ⟨(g.withClass name t).withClass other u, ?_, ?_⟩
    · rw [add_of_mem h.nodup hname, ok_bind, add_of_mem (h.withClass name t).nodup (by simpa)]
    · rw [add_of_mem h.nodup hother, ok_bind, add_of_mem (h.withClass other u).nodup (by simpa),
        withClass_comm g hne]
  size := size_eq_length g
  flatString := flatString_eq g

end Grouping

namespace Construction

/-- Every step makes a well-formed grouping of well-formed ones, if it makes one at all. -/
theorem wellFormed_of_result? {built : List Grouping} (hbuilt : ∀ g ∈ built, g.WellFormed)
    {step : Construction} {g : Grouping} (h : step.result? built = some (.ok g)) :
    g.WellFormed := by
  cases step with
  | ofNames names => exact Grouping.wellFormed_ofNames (Option.some.inj h)
  | ofAssignments names assignments => exact Grouping.wellFormed_ofAssignments (Option.some.inj h)
  | ofGroups groups =>
    obtain ⟨made, hmade, h⟩ := bind_eq_ok_iff.mp (Failure.ofConfig_eq_ok_iff.mp (Option.some.inj h))
    exact Grouping.wellFormed_of_mapM (fun _ _ => Group.ofName_named) hmade h
  | add number name t =>
    obtain ⟨earlier, hearlier, h⟩ := Option.map_eq_some_iff.mp h
    exact (hbuilt earlier (List.mem_of_getElem? hearlier)).add h

theorem wellFormed_of_mem_extend {built : List Grouping} (hbuilt : ∀ g ∈ built, g.WellFormed)
    (step : Construction) : ∀ g ∈ extend built step, g.WellFormed := by
  unfold extend
  split
  · rename_i g hresult
    intro g' hg'
    rcases List.mem_append.mp hg' with hg' | hg'
    · exact hbuilt g' hg'
    · exact List.mem_singleton.mp hg' ▸ wellFormed_of_result? hbuilt hresult
  · exact hbuilt

theorem wellFormed_of_mem_foldl {steps : List Construction} {built : List Grouping}
    (hbuilt : ∀ g ∈ built, g.WellFormed) : ∀ g ∈ steps.foldl extend built, g.WellFormed := by
  induction steps generalizing built with
  | nil => exact hbuilt
  | cons step rest ih => exact ih (wellFormed_of_mem_extend hbuilt step)

/-- A step leaves the groupings before it as they are. -/
theorem prefix_extend (built : List Grouping) (step : Construction) :
    built <+: extend built step := by
  unfold extend
  split
  · exact List.prefix_append ..
  · exact List.prefix_rfl

theorem prefix_foldl (built : List Grouping) (steps : List Construction) :
    built <+: steps.foldl extend built := by
  induction steps generalizing built with
  | nil => exact List.prefix_rfl
  | cons step rest ih => exact (prefix_extend built step).trans (ih _)

/-- Whatever steps are taken, and whichever of them fail, every grouping that is built is consistent,
and further steps leave it as it is. -/
theorem history_consistent (steps later : List Construction) {number : Nat} {g : Grouping}
    (h : (history steps)[number]? = some g) :
    g.Consistent ∧ (history (steps ++ later))[number]? = some g := by
  constructor
  · have hwell : ∀ g ∈ history steps, g.WellFormed := wellFormed_of_mem_foldl (by simp)
    exact (hwell g (List.mem_of_getElem? h)).consistent
  · obtain ⟨hnumber, -⟩ := List.getElem?_eq_some_iff.mp h
    have happend : history (steps ++ later) = later.foldl extend (history steps) :=
      List.foldl_append
    obtain ⟨more, hmore⟩ := prefix_foldl (history steps) later
    rw [happend, ← hmore, List.getElem?_append_left hnumber, h]

/-- A name is blank, a group is unknown, a number is not taken, a group is given twice: four of seven
steps fail. A class that is added later makes a new grouping of the second one. -/
theorem history_consistent_failing :
    let x := Token.ofText "x"
    let steps : List Construction := [
      .ofNames (.list [.text "A", .text "B"]), .ofNames (.tuple [.text " "]), .add 0 "B" x,
      .add 0 "C" x, .add 5 "A" x, .ofGroups [(.text "A", []), (.text "A", [x])],
      .ofAssignments (.text "AB") [("B", [x])]]
    let later : List Construction := [.ofAssignments .null [], .add 1 "A" (Token.ofText "y")]
    let g : Grouping := ⟨[⟨"A", []⟩, ⟨"B", [x]⟩]⟩
    (history steps).length = 3 ∧ (history steps)[1]? = some g ∧ g.Consistent ∧
      (history (steps ++ later))[1]? = some g ∧
      (history (steps ++ later))[3]? = some ⟨[⟨"A", [Token.ofText "y"]⟩, ⟨"B", [x]⟩]⟩ := by
  intro x steps later g
  have hg : (history steps)[1]? = some g := by decide +kernel
  obtain ⟨hconsistent, hlater⟩ := history_consistent steps later hg
  exact ⟨by decide +kernel, hg, hconsistent, hlater, by decide +kernel⟩

end Construction

end ClassList
