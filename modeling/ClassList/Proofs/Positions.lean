import Mathlib.Data.List.Nodup
import ClassList.Grouping
import ClassList.Proofs.Results

/-! The index of a grouping against its groups: an index comes about just when no name is repeated, and
then it has each name at the place where the group of that name stands. -/

namespace ClassList

/-- Where no name is given twice, to look a name up is to find its entry. -/
theorem lookup_eq_some_iff_mem {β : Type} {entries : List (Text × β)}
    (h : (entries.map Prod.fst).Nodup) {name : Text} {item : β} :
    entries.lookup name = some item ↔ (name, item) ∈ entries := by
  induction entries with
  | nil => simp
  | cons entry entries ih =>
    obtain ⟨other, held⟩ := entry
    obtain ⟨hnot, h⟩ := List.nodup_cons.mp h
    rw [List.lookup_cons, List.mem_cons]
    by_cases hname : name = other
    · subst hname
      have hrest : (name, item) ∉ entries := fun hmem => hnot (List.mem_map.mpr ⟨_, hmem, rfl⟩)
      simp [hrest, eq_comm]
    · rw [beq_eq_false_iff_ne.mpr hname]
      simpa [hname] using ih h

namespace Index

section AddAll

variable {index : Index} {name : Text}

theorem isSome_lookup_iff : (index.lookup name).isSome = true ↔ name ∈ index.map Prod.fst := by
  rw [List.lookup_isSome_iff, List.mem_map]
  exact exists_congr fun _ => and_congr_right fun _ => beq_iff_eq.trans eq_comm

theorem addAll_cons_of_mem (h : name ∈ index.map Prod.fst) (position : Nat)
    (entries : List (Text × Nat)) :
    index.addAll ((name, position) :: entries) = .error (.repeatedGroup name) := by
  rw [addAll, if_pos (isSome_lookup_iff.mpr h)]

theorem addAll_cons_of_not_mem (h : name ∉ index.map Prod.fst) (position : Nat)
    (entries : List (Text × Nat)) :
    index.addAll ((name, position) :: entries) =
      addAll (index ++ [(name, position)]) entries := by
  rw [addAll, if_neg (mt isSome_lookup_iff.mp h)]

theorem nodup_concat (h : (index.map Prod.fst).Nodup) (hname : name ∉ index.map Prod.fst)
    (position : Nat) : ((index ++ [(name, position)]).map Prod.fst).Nodup := by
  rw [List.map_append]
  exact h.append (List.nodup_singleton name) (List.disjoint_singleton.mpr hname)

variable (h : (index.map Prod.fst).Nodup) {entries : List (Text × Nat)}
include h

/-- Entries can be added just when all names are different in the end. -/
theorem addAll_eq_ok_iff {result : Index} :
    index.addAll entries = .ok result ↔
      ((index ++ entries).map Prod.fst).Nodup ∧ result = index ++ entries := by
  -- Every entry goes to the end of the index, whose names stay different until one is repeated.
  induction entries generalizing index with
  | nil => rw [addAll, List.append_nil, and_iff_right h, Except.ok.injEq, eq_comm]
  | cons entry entries ih =>
    obtain ⟨name, position⟩ := entry
    by_cases hname : name ∈ index.map Prod.fst
    · have hrepeated : ¬((index ++ (name, position) :: entries).map Prod.fst).Nodup := by
        rw [List.map_append, List.nodup_append]
        exact fun hnodup => hnodup.2.2 name hname name (List.mem_cons_self ..) rfl
      simp only [addAll_cons_of_mem hname, reduceCtorEq, hrepeated, false_and]
    · rw [addAll_cons_of_not_mem hname, ih (nodup_concat h hname position), List.append_assoc,
        List.singleton_append]

/-- The first name that comes again is refused. -/
theorem addAll_eq_error_iff {e : ConfigError} :
    index.addAll entries = .error e ↔ ∃ front name back,
      entries.map Prod.fst = front ++ name :: back ∧ (index.map Prod.fst ++ front).Nodup ∧
        name ∈ index.map Prod.fst ++ front ∧ e = .repeatedGroup name := by
  induction entries generalizing index with
  | nil => simp [addAll]
  | cons entry entries ih =>
    obtain ⟨name, position⟩ := entry
    by_cases hname : name ∈ index.map Prod.fst
    · rw [addAll_cons_of_mem hname, Except.error.injEq]
      constructor
      · rintro rfl
        exact ⟨[], name, entries.map Prod.fst, rfl, by simpa using h, by simpa using hname, rfl⟩
      · rintro ⟨front, other, back, hentries, hnodup, -, rfl⟩
        cases front with
        | nil => exact congrArg ConfigError.repeatedGroup (List.cons.inj hentries).1
        | cons first front =>
          obtain ⟨rfl, -⟩ := List.cons.inj hentries
          have hdisjoint := (List.nodup_append.mp hnodup).2.2
          exact absurd rfl (hdisjoint _ hname _ (List.mem_cons_self ..))
    · rw [addAll_cons_of_not_mem hname, ih (nodup_concat h hname position)]
      simp only [List.map_append, List.map_cons, List.map_nil, List.append_assoc,
        List.singleton_append]
      constructor
      · rintro ⟨front, other, back, hentries, hrest⟩
        exact ⟨name :: front, other, back, by rw [hentries, List.cons_append], hrest⟩
      · rintro ⟨front, other, back, hentries, hnodup, hother, rfl⟩
        cases front with
        | nil =>
          obtain ⟨rfl, -⟩ := List.cons.inj hentries
          exact absurd (by simpa using hother) hname
        | cons first front =>
          obtain ⟨rfl, hrest⟩ := List.cons.inj hentries
          exact ⟨front, other, back, hrest, hnodup, hother, rfl⟩

end AddAll

theorem ofNames_eq_ok_iff {names : List Text} {index : Index} :
    ofNames names = .ok index ↔ names.Nodup ∧ index = names.zipIdx := by
  have hfirst : (([] : Index).map Prod.fst).Nodup := List.nodup_nil
  rw [ofNames, addAll_eq_ok_iff hfirst, List.nil_append, List.zipIdx_map_fst]

end Index

namespace Grouping

theorem ofGroups_eq_ok_iff {groups : List Group} {g : Grouping} :
    ofGroups groups = .ok g ↔ (groups.map Group.name).Nodup ∧ g = ⟨groups⟩ := by
  rw [ofGroups, map_eq_ok_iff]
  constructor
  · rintro ⟨index, hindex, rfl⟩
    exact ⟨(Index.ofNames_eq_ok_iff.mp hindex).1, rfl⟩
  · rintro ⟨h, rfl⟩
    exact ⟨_, Index.ofNames_eq_ok_iff.mpr ⟨h, rfl⟩, rfl⟩

theorem ofGroups_eq_error_iff {groups : List Group} {e : ConfigError} :
    ofGroups groups = .error e ↔ ∃ front name back,
      groups.map Group.name = front ++ name :: back ∧ front.Nodup ∧ name ∈ front ∧
        e = .repeatedGroup name := by
  have hfirst : (([] : Index).map Prod.fst).Nodup := List.nodup_nil
  rw [ofGroups, map_eq_error_iff, Index.ofNames, Index.addAll_eq_error_iff hfirst,
    List.zipIdx_map_fst]
  rfl

theorem ofGroups_eq_ok {groups : List Group} (h : (groups.map Group.name).Nodup) :
    ofGroups groups = .ok ⟨groups⟩ :=
  ofGroups_eq_ok_iff.mpr ⟨h, rfl⟩

theorem names_map (names : List Text) (classes : Text → List Token) :
    (⟨names.map fun name => ⟨name, classes name⟩⟩ : Grouping).names = names := by
  rw [Grouping.names, List.map_map]
  exact List.map_id names

theorem ofGroups_map {names : List Text} (h : names.Nodup) (classes : Text → List Token) :
    ofGroups (names.map fun name => ⟨name, classes name⟩) =
      .ok ⟨names.map fun name => ⟨name, classes name⟩⟩ := by
  have hnodup : (⟨names.map fun name => ⟨name, classes name⟩⟩ : Grouping).names.Nodup := by
    rwa [names_map]
  exact ofGroups_eq_ok hnodup

/-- The grouping with a class at the end of what the group of a name has. -/
def withClass (g : Grouping) (name : Text) (t : Token) : Grouping :=
  ⟨g.groups.map fun group => if group.name = name then group.add t else group⟩

@[simp] theorem names_withClass (g : Grouping) (name : Text) (t : Token) :
    (g.withClass name t).names = g.names := by
  rw [names, withClass, List.map_map]
  refine List.map_congr_left fun group _ => ?_
  rw [Function.comp_apply]
  split <;> rfl

section Nodup

variable {g : Grouping} (h : g.names.Nodup)
include h

/-- The index and the groups agree. -/
theorem position?_eq_some_iff {name : Text} {position : Nat} :
    g.position? name = some position ↔
      ∃ group, g.groups[position]? = some group ∧ group.name = name := by
  have hindex := Index.ofNames_eq_ok_iff.mpr ⟨h, rfl⟩
  have hnodup : (g.names.zipIdx.map Prod.fst).Nodup := (List.zipIdx_map_fst ..).symm ▸ h
  rw [position?, hindex, ← Option.map_eq_some_iff, ← List.getElem?_map]
  exact (lookup_eq_some_iff_mem hnodup).trans List.mk_mem_zipIdx_iff_getElem?

theorem mem_names_iff {name : Text} :
    name ∈ g.names ↔ ∃ position, g.position? name = some position := by
  rw [names, List.mem_map]
  simp only [position?_eq_some_iff h, List.mem_iff_getElem?]
  constructor
  · rintro ⟨group, ⟨position, hat⟩, hname⟩
    exact ⟨position, group, hat, hname⟩
  · rintro ⟨position, group, hat, hname⟩
    exact ⟨group, ⟨position, hat⟩, hname⟩

theorem position?_eq_none_iff {name : Text} : g.position? name = none ↔ name ∉ g.names := by
  rw [mem_names_iff h, not_exists, Option.eq_none_iff_forall_ne_some]

theorem get_eq_ok_iff {name : Text} {group : Group} :
    g.get name = .ok group ↔ group ∈ g.groups ∧ group.name = name := by
  have hfind : (g.position? name).bind (g.groups[·]?) = some group ↔
      group ∈ g.groups ∧ group.name = name := by
    rw [Option.bind_eq_some_iff, List.mem_iff_getElem?]
    simp only [position?_eq_some_iff h]
    constructor
    · rintro ⟨position, ⟨other, hother, hname⟩, hat⟩
      obtain rfl : other = group := Option.some.inj (hother.symm.trans hat)
      exact ⟨⟨position, hat⟩, hname⟩
    · rintro ⟨⟨position, hat⟩, hname⟩
      exact ⟨position, ⟨group, hat, hname⟩, hat⟩
  rw [← hfind, get]
  cases (g.position? name).bind (g.groups[·]?) <;> simp

theorem get_eq_error_iff {name : Text} {e : Failure} :
    g.get name = .error e ↔ name ∉ g.names ∧ e = .noSuchGroup name := by
  by_cases hmem : name ∈ g.names
  · obtain ⟨group, hgroup, hname⟩ := List.mem_map.mp hmem
    rw [(get_eq_ok_iff h).mpr ⟨hgroup, hname⟩]
    simp [hmem]
  · rw [get, (position?_eq_none_iff h).mpr hmem]
    simp [hmem, eq_comm]

/-- A class that is added at the position of a name is added to the group of that name. -/
theorem modify_eq_withClass {name : Text} {position : Nat}
    (hposition : g.position? name = some position) (t : Token) :
    g.groups.modify position (·.add t) = (g.withClass name t).groups := by
  refine List.ext_getElem? fun place => ?_
  rw [withClass, List.getElem?_modify, List.getElem?_map, Option.map_eq_map]
  refine Option.map_congr fun group hgroup => ?_
  have hplace : position = place ↔ group.name = name := by
    rw [← Option.some_inj, ← hposition, position?_eq_some_iff h]
    simp [hgroup]
  simp only [hplace]

theorem add_of_mem {name : Text} (hname : name ∈ g.names) (t : Token) :
    g.add name t = .ok (g.withClass name t) := by
  obtain ⟨position, hposition⟩ := (mem_names_iff h).mp hname
  have hnodup : (g.withClass name t).names.Nodup := (names_withClass g name t).symm ▸ h
  simp only [add, hposition, modify_eq_withClass h hposition]
  rw [ofGroups_eq_ok hnodup]
  rfl

theorem add_of_not_mem {name : Text} (hname : name ∉ g.names) (t : Token) :
    g.add name t = .error (.unknownGroup name) := by
  rw [add, (position?_eq_none_iff h).mpr hname]

end Nodup

end Grouping

end ClassList
