import Mathlib.Data.List.Nodup
import ClassList.Proofs.Classification

/-! Groupings that are made at once of the classes assigned to their groups: every assigned class is in
the grouping, unless the group names are a text and the name of the group is not a single character. -/

namespace ClassList

namespace Text

theorem hasPart_singleton {c : Char} {s : Text} : hasPart [c] s = true ↔ c ∈ s := by
  induction s with
  | nil => simp [hasPart]
  | cons d s ih => simp [hasPart, ih]

end Text

namespace Value

/-- Whether a walk through group names meets the names that belong to them. It takes a text apart, and
so meets none but single characters, while every part of the text belongs to it. -/
def meets (names : Value) (name : Text) : Bool := names.text?.isNone || name.length == 1

theorem any_isText {items : List Value} {names : List Text} (h : items = names.map text)
    {name : Text} : items.any (isText name) = true ↔ name ∈ names := by
  subst h
  simp [isText]

theorem mem_iff_meets {v : Value} {names : List Text} (hwalk : v.elements? = some (names.map text))
    {name : Text} (h : v.hasText? name = some true) : name ∈ names ↔ v.meets name = true := by
  cases v with
  | text s =>
    have hpart : Text.hasPart name s = true := Option.some.inj h
    have hnames : (s.map fun c => [c]) = names := by
      refine (List.map_inj_right fun _ _ => text.inj).mp ((List.map_map ..).trans ?_)
      exact Option.some.inj hwalk
    rw [← hnames, meets, List.mem_map]
    simp only [text?, Option.isNone_some, Bool.false_or, beq_iff_eq, List.length_eq_one_iff]
    constructor
    · rintro ⟨c, -, rfl⟩
      exact ⟨c, rfl⟩
    · rintro ⟨c, rfl⟩
      exact ⟨c, Text.hasPart_singleton.mp hpart, rfl⟩
  | list items =>
    have hmem := (any_isText (Option.some.inj hwalk)).mp (Option.some.inj h)
    simpa [meets, text?] using hmem
  | tuple items =>
    have hmem := (any_isText (Option.some.inj hwalk)).mp (Option.some.inj h)
    simpa [meets, text?] using hmem
  | object entries =>
    have hany : (entries.map Prod.fst).any (isText name) = true :=
      List.any_map.trans (Option.some.inj h)
    have hmem := (any_isText (Option.some.inj hwalk)).mp hany
    simpa [meets, text?] using hmem
  | _ => cases h

end Value

namespace Assignments

/-- The entries of names, in the order of the names. -/
def under (assignments : Assignments) (names : List Text) : Assignments :=
  names.filterMap fun name => (assignments.lookup name).map (name, ·)

section Under

variable {assignments : Assignments} {names : List Text}

theorem flatMap_snd_under :
    (assignments.under names).flatMap Prod.snd =
      names.flatMap fun name => (assignments.lookup name).getD [] := by
  induction names with
  | nil => rfl
  | cons name names ih =>
    rw [List.flatMap_cons, ← ih, under, List.filterMap_cons]
    cases assignments.lookup name <;> rfl

theorem mem_under (hkeys : (assignments.map Prod.fst).Nodup) {entry : Text × List Token} :
    entry ∈ assignments.under names ↔ entry ∈ assignments ∧ entry.1 ∈ names := by
  obtain ⟨name, tokens⟩ := entry
  simp only [under, List.mem_filterMap, Option.map_eq_some_iff, lookup_eq_some_iff_mem hkeys]
  constructor
  · rintro ⟨_, hname, _, hentry, he⟩
    cases he
    exact ⟨hentry, hname⟩
  · rintro ⟨hentry, hname⟩
    exact ⟨name, hname, tokens, hentry, rfl⟩

theorem nodup_under (hnames : names.Nodup) : (assignments.under names).Nodup := by
  refine hnames.filterMap fun name name' entry h h' => ?_
  obtain ⟨_, -, rfl⟩ := Option.map_eq_some_iff.mp h
  obtain ⟨_, -, he⟩ := Option.map_eq_some_iff.mp h'
  exact (congrArg Prod.fst he).symm

/-- The classes that are looked up under different names are those of the entries with these names. -/
theorem flatMap_lookup_perm (hkeys : (assignments.map Prod.fst).Nodup) (hnames : names.Nodup) :
    (names.flatMap fun name => (assignments.lookup name).getD []).Perm
      ((assignments.filter fun entry => entry.1 ∈ names).flatMap Prod.snd) := by
  rw [← flatMap_snd_under]
  refine ((List.perm_ext_iff_of_nodup (nodup_under hnames) (hkeys.of_map.filter _)).mpr
    fun entry => ?_).flatMap_right _
  rw [mem_under hkeys, List.mem_filter, decide_eq_true_iff]

end Under

end Assignments

namespace Grouping

theorem assignedGroup_eq_ok {assignments : Assignments} {name : Value} {group : Group}
    (h : assignedGroup assignments name = .ok group) :
    .text group.name = name ∧ group.classes = (assignments.lookup group.name).getD [] := by
  unfold assignedGroup at h
  split at h
  · have h := Failure.ofConfig_eq_ok_iff.mp h
    unfold Group.ofName at h
    split at h
    · split at h
      · cases h
      · cases h
        exact ⟨rfl, rfl⟩
    · cases h
  · cases h

/-- A grouping of what is assigned comes about from different names only, each of which gets what is
assigned to it, and every name that something is assigned to belongs to the group names. -/
theorem ofAssignments_eq_ok {names : Value} {assignments : Assignments} {g : Grouping}
    (h : ofAssignments names assignments = .ok g) :
    (∀ entry ∈ assignments, names.hasText? entry.1 = some true) ∧
      names.elements? = some (g.names.map Value.text) ∧ g.names.Nodup ∧
      ∀ group ∈ g.groups, group.classes = (assignments.lookup group.name).getD [] := by
  obtain ⟨unknown, hunknown, h⟩ := bind_eq_ok_iff.mp h
  split at h
  · rename_i hnone
    obtain rfl : unknown = [] := by simpa using hnone
    split at h
    · rename_i elements helements
      obtain ⟨groups, hgroups, h⟩ := bind_eq_ok_iff.mp h
      obtain ⟨hnodup, rfl⟩ := ofGroups_eq_ok_iff.mp (Failure.ofConfig_eq_ok_iff.mp h)
      refine ⟨fun entry hentry => ?_, ?_, hnodup, fun group hgroup => ?_⟩
      · have hknown := of_filterM_eq_ok_nil hunknown entry.1 (List.mem_map_of_mem hentry)
        split at hknown
        · rename_i known hknows
          simpa [hknows] using hknown
        · cases hknown
      · have hspelled : groups.map (fun group => Value.text group.name) = elements.map id :=
          map_eq_of_mapM_eq_ok (fun _ _ hread => (assignedGroup_eq_ok hread).1) hgroups
        rw [helements, Grouping.names, List.map_map, ← List.map_id elements, ← hspelled]
        rfl
      · obtain ⟨name, -, hname⟩ := exists_of_mapM_eq_ok hgroups group hgroup
        exact (assignedGroup_eq_ok hname).2
    · cases h
  · cases h

section Assigned

variable {names : Value} {assignments : Assignments} (hkeys : (assignments.map Prod.fst).Nodup)
  {g : Grouping} (h : ofAssignments names assignments = .ok g)
include h

theorem mem_names_iff_meets {entry : Text × List Token} (hentry : entry ∈ assignments) :
    entry.1 ∈ g.names ↔ names.meets entry.1 = true := by
  obtain ⟨hknown, hwalk, -⟩ := ofAssignments_eq_ok h
  exact Value.mem_iff_meets hwalk (hknown entry hentry)

include hkeys

theorem get_of_mem_assignments {entry : Text × List Token} (hentry : entry ∈ assignments)
    (hmeets : names.meets entry.1 = true) : g.get entry.1 = .ok ⟨entry.1, entry.2⟩ := by
  obtain ⟨-, -, hnodup, hclasses⟩ := ofAssignments_eq_ok h
  obtain ⟨group, hgroup, hname⟩ := List.mem_map.mp ((mem_names_iff_meets h hentry).mpr hmeets)
  have hlookup : assignments.lookup group.name = some entry.2 :=
    hname ▸ (lookup_eq_some_iff_mem hkeys).mpr hentry
  have hgroup' : group = ⟨entry.1, entry.2⟩ := by
    have hheld := hclasses group hgroup
    rw [hlookup] at hheld
    cases group
    simp_all
  exact (get_eq_ok_iff hnodup).mpr ⟨hgroup' ▸ hgroup, rfl⟩

theorem allClasses_perm_assignments :
    g.allClasses.Perm ((assignments.filter fun entry => names.meets entry.1).flatMap Prod.snd) := by
  obtain ⟨-, -, hnodup, hclasses⟩ := ofAssignments_eq_ok h
  have hall : g.allClasses = g.names.flatMap fun name => (assignments.lookup name).getD [] := by
    rw [allClasses, Grouping.names, List.flatMap_map]
    exact congrArg List.flatten (List.map_congr_left hclasses)
  have hmet : (assignments.filter fun entry => entry.1 ∈ g.names) =
      assignments.filter fun entry => names.meets entry.1 :=
    List.filter_congr fun entry hentry => by
      rw [Bool.eq_iff_iff, decide_eq_true_iff, mem_names_iff_meets h hentry]
  rw [hall, ← hmet]
  exact Assignments.flatMap_lookup_perm hkeys hnodup

end Assigned

/-- A grouping that comes about from assigned classes, under names in a list or a tuple, has each of them:
the group of every name that classes are assigned to has these classes, in their order, and together
the groups have as many classes as are assigned. Under names in a text this holds of single characters
alone. What is assigned to another part of the text is lost, without a failure. -/
theorem ofAssignments_conserves {names : Value} {assignments : Assignments}
    (hkeys : (assignments.map Prod.fst).Nodup) {g : Grouping}
    (h : ofAssignments names assignments = .ok g) :
    (∀ entry ∈ assignments, names.meets entry.1 = true → g.get entry.1 = .ok ⟨entry.1, entry.2⟩) ∧
      ((∀ entry ∈ assignments, names.meets entry.1 = true) →
        g.size = (assignments.flatMap Prod.snd).length) ∧
      (∀ entry ∈ assignments, names.meets entry.1 = false →
        g.get entry.1 = .error (.noSuchGroup entry.1)) ∧
      g.allClasses.Perm ((assignments.filter fun entry => names.meets entry.1).flatMap Prod.snd) := by
  have hperm := allClasses_perm_assignments hkeys h
  refine ⟨fun entry hentry hmeets => get_of_mem_assignments hkeys h hentry hmeets, fun hmeets => ?_,
    fun entry hentry hmeets => ?_, hperm⟩
  · rw [size_eq_length, hperm.length_eq, List.filter_eq_self.mpr hmeets]
  · have hnot : entry.1 ∉ g.names := fun hmem => by
      simp [(mem_names_iff_meets h hentry).mp hmem] at hmeets
    obtain ⟨-, -, hnodup, -⟩ := ofAssignments_eq_ok h
    exact (get_eq_error_iff hnodup).mpr ⟨hnot, rfl⟩

/-- Three groups in a list. The last gets a class twice and the second gets none. -/
theorem ofAssignments_conserves_list :
    let names : Value := .list [.text "A", .text "Rest", .text "B"]
    let x := Token.ofText "x"
    let y := Token.ofText "m:x"
    let assignments : Assignments := [("B", [x, y, x]), ("A", [y])]
    let g : Grouping := ⟨[⟨"A", [y]⟩, ⟨"Rest", []⟩, ⟨"B", [x, y, x]⟩]⟩
    (assignments.map Prod.fst).Nodup ∧ ofAssignments names assignments = .ok g ∧
      (∀ entry ∈ assignments, names.meets entry.1 = true) ∧
      (∀ entry ∈ assignments, g.get entry.1 = .ok ⟨entry.1, entry.2⟩) ∧ g.size = 4 := by
  intro names x y assignments g
  have hkeys : (assignments.map Prod.fst).Nodup := by decide
  have hmade : ofAssignments names assignments = .ok g := rfl
  have hmeets : ∀ entry ∈ assignments, names.meets entry.1 = true := fun _ _ => rfl
  obtain ⟨hget, hsize, -⟩ := ofAssignments_conserves hkeys hmade
  exact ⟨hkeys, hmade, hmeets, fun entry hentry => hget entry hentry (hmeets entry hentry),
    hsize hmeets⟩

/-- Under the names in a text, the text as a whole is taken for a name, but no group has it. -/
theorem ofAssignments_text_loses :
    let names : Value := .text "AB"
    let assignments : Assignments := [("AB", [Token.ofText "x"])]
    ∃ g, (assignments.map Prod.fst).Nodup ∧ ofAssignments names assignments = .ok g ∧
      g.names = ["A".toList, "B".toList] ∧ (∀ group ∈ g.groups, group.classes = []) ∧
      g.get "AB" = .error (.noSuchGroup "AB") ∧
      g.size ≠ (assignments.flatMap Prod.snd).length := by
  intro names assignments
  exact ⟨⟨[⟨"A", []⟩, ⟨"B", []⟩]⟩, by decide, rfl, rfl, by decide, rfl, by decide⟩

end Grouping

end ClassList
