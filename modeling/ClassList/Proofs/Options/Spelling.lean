import ClassList.Proofs.Options.Checks

/-! The spellings of options. What is read off an object does not depend on the order of its entries,
nor on which of its two names a field is given under, and options that are written out read as
themselves. -/

namespace ClassList

namespace Options

/-- The value that a field of options is written as. -/
def valueOf (o : Options) : Field → Value
  | .threshold => o.threshold.toValue
  | .groupOrder => .tuple (o.groupOrder.map Value.text)
  | .mapping => o.mapping.toValue
  | .utilityFunction => .text o.utilityFunction
  | .showGroupNames => .bool o.showGroupNames
  | .commentTemplate => .text o.commentTemplate
  | .order => .text o.order.name
  | .indentWidth => .int o.indentWidth
  | .fallbackGroup => .text o.fallbackGroup

/-- Options written out, with every field under its name in camel case. -/
def entries (o : Options) : List (Value × Value) :=
  Field.all.map fun field => (.text field.optionName, o.valueOf field)

/-- One entry in two spellings: the keys name the same field, and the items are the same. -/
def Respells (entry other : Value × Value) : Prop :=
  (∀ field : Field, field.NamedBy entry.1 ↔ field.NamedBy other.1) ∧ other.2 = entry.2

/-- The entries of an object in another order and in other spellings. -/
def Respelled (entries others : List (Value × Value)) : Prop :=
  ∃ between, entries.Perm between ∧ List.Forall₂ Respells between others

theorem Respells.of_namedBy (field : Field) {key other : Value} (hkey : field.NamedBy key)
    (hother : field.NamedBy other) (item : Value) : Respells (key, item) (other, item) :=
  ⟨fun _ => ⟨fun h => h.unique hkey ▸ hother, fun h => h.unique hother ▸ hkey⟩, rfl⟩

theorem Respelled.of_perm {entries others : List (Value × Value)} (h : entries.Perm others) :
    Respelled entries others :=
  ⟨others, h, List.forall₂_same.mpr fun _ _ => ⟨fun _ => Iff.rfl, rfl⟩⟩

namespace Given

/-- The values of the fields do not depend on the order in which they are given. -/
theorem value_perm {given other : Given} (hnodup : (given.map Prod.fst).Nodup)
    (hperm : given.Perm other) : given.value = other.value := by
  have hkeys := hperm.map Prod.fst
  funext field
  by_cases h : field ∈ given.map Prod.fst
  · obtain ⟨⟨_, v⟩, hmem, rfl⟩ := List.mem_map.mp h
    rw [value_of_mem hnodup hmem, value_of_mem (hkeys.nodup hnodup) (hperm.mem_iff.mp hmem)]
  · rw [value_of_not_mem h, value_of_not_mem (mt hkeys.mem_iff.mpr h)]

section Lists

variable {entries others front back : List (Value × Value)} {given : Given} {key item : Value}
  {field : Field}

theorem gives_of_respells {given : Given} (hgives : List.Forall₂ Gives entries given)
    (hrespells : List.Forall₂ Respells entries others) : List.Forall₂ Gives others given := by
  induction hgives generalizing others with
  | nil =>
    cases hrespells
    exact .nil
  | cons hgive _ ih =>
    cases hrespells with
    | cons hrespell hrest =>
      exact .cons ⟨(hrespell.1 _).mp hgive.1, hgive.2.trans hrespell.2.symm⟩ (ih hrest)

theorem Lists.respelled (h : Lists entries given) (hrespelled : Respelled entries others) :
    ∃ other, Lists others other ∧ given.Perm other := by
  obtain ⟨between, hperm, hrespells⟩ := hrespelled
  obtain ⟨other, hgives, hother⟩ := List.perm_comp_forall₂ hperm.symm h.gives
  refine ⟨other, ⟨gives_of_respells hgives hrespells, ?_⟩, hother.symm⟩
  exact (hother.symm.map Prod.fst).nodup h.nodup

theorem Lists.mem (h : Lists entries given) (hentry : (key, item) ∈ entries)
    (hkey : field.NamedBy key) : (field, item) ∈ given := by
  induction entries generalizing given with
  | nil => cases hentry
  | cons entry entries ih =>
    obtain ⟨first, rest, hfirst, hrest, -, rfl⟩ := lists_cons_iff.mp h
    rcases List.mem_cons.mp hentry with rfl | hentry
    · rw [hkey.unique hfirst]
      exact List.mem_cons_self ..
    · exact List.mem_cons_of_mem _ (ih hrest hentry)

theorem Lists.append_left (h : Lists (front ++ back) given) : ∃ rest ⊆ given, Lists front rest := by
  have hgives := (List.forall₂_take_append _ _ _ h.gives.flip).flip
  refine ⟨given.take front.length, List.take_subset .., hgives, ?_⟩
  exact h.nodup.sublist ((List.take_sublist ..).map Prod.fst)

/-- No entry in front of another one gives the same field. -/
theorem Lists.new (h : Lists (front ++ (key, item) :: back) given) (hkey : field.NamedBy key) :
    ∃ rest, Lists front rest ∧ field ∉ rest.map Prod.fst := by
  obtain ⟨other, hother, -⟩ := h.respelled (.of_perm List.perm_middle)
  obtain ⟨first, rest, hfirst, hrest, hnew, -⟩ := lists_cons_iff.mp hother
  obtain ⟨left, hsubset, hleft⟩ := hrest.append_left
  rw [hkey.unique hfirst]
  exact ⟨left, hleft, fun hmem => hnew (List.map_subset _ hsubset hmem)⟩

theorem Lists.insert (h : Lists (front ++ back) given) (hkey : field.NamedBy key)
    (hnew : field ∉ given.map Prod.fst) (item : Value) :
    ∃ other, Lists (front ++ (key, item) :: back) other ∧ field ∈ other.map Prod.fst := by
  have hcons : Lists ((key, item) :: (front ++ back)) ((field, item) :: given) :=
    lists_cons_iff.mpr ⟨field, given, hkey, h, hnew, rfl⟩
  obtain ⟨other, hother, hperm⟩ := hcons.respelled (.of_perm List.perm_middle.symm)
  exact ⟨other, hother, (hperm.map Prod.fst).mem_iff.mp (List.mem_cons_self ..)⟩

variable {other v : Value}

/-- An entry for a field that an earlier entry gives is refused itself. -/
theorem Defect.of_mem_front (h : Lists (front ++ back) given) (hentry : (key, item) ∈ front)
    (hkey : field.NamedBy key) (hother : field.NamedBy other) :
    Defect (.object (front ++ (other, v) :: back)) (.repeatedOption other) := by
  obtain ⟨rest, -, hrest⟩ := h.append_left
  exact .repeated hrest hother (List.mem_map_of_mem (hrest.mem hentry hkey))

/-- An entry for a field that a later entry gives makes that one refused. -/
theorem Defect.of_mem_back (h : Lists (front ++ back) given) (hentry : (key, item) ∈ back)
    (hkey : field.NamedBy key) (hother : field.NamedBy other) :
    Defect (.object (front ++ (other, v) :: back)) (.repeatedOption key) := by
  obtain ⟨between, after, rfl⟩ := List.append_of_mem hentry
  rw [← List.append_assoc] at h
  -- In front of the later entry, the field is given by the added one alone.
  obtain ⟨rest, hrest, hnew⟩ := h.new hkey
  obtain ⟨inserted, hinserted, hmem⟩ := hrest.insert hother hnew v
  rw [← List.cons_append, ← List.append_assoc]
  exact .repeated hinserted hkey hmem

end Lists

end Given

theorem read_of_lists {entries : List (Value × Value)} {given : Given} (h : Given.Lists entries given)
    (trace : Trace) : (read (.object entries)).result trace = ofGiven given := by
  rw [read_result, ofValue, Given.ofValue_eq_ok_iff.mpr (Given.readOff_object_iff.mpr h)]
  rfl

theorem read_of_defect {raw : Value} {e : ConfigError} (h : Given.Defect raw e) (trace : Trace) :
    (read raw).result trace = .error (.configuration e) := by
  rw [read_result, ofValue, Given.ofValue_eq_error_iff.mpr h]
  rfl

section Written

variable {o : Options}

/-- No preset goes by the template of a preset. -/
theorem resolves_self_of_resolves {s template : Text} (h : Resolves s template) :
    Resolves template template := by
  cases h with
  | template hother => exact .template hother
  | _ => exact .template (by decide)

/-- Options that are written out pass the checks that they passed before. -/
theorem yields_valueOf {value : Field → Value} (h : ∀ c : Check, c.Yields value o) (c : Check) :
    c.Yields o.valueOf o := by
  cases c with
  | threshold => exact ⟨rfl, (h .threshold).2⟩
  | indentWidth => rfl
  | showGroupNames => rfl
  | utilityFunction => exact ⟨rfl, (h .utilityFunction).2⟩
  | commentTemplate =>
    obtain ⟨s, -, hresolves⟩ := h .commentTemplate
    exact ⟨o.commentTemplate, rfl, resolves_self_of_resolves hresolves⟩
  | groups =>
    have hread := (Rules.read_valid (h .groups).1).read_eq
    exact ⟨hread, Rules.read_spelled hread⟩
  | order =>
    have hkey : Text.lower (Text.strip o.order.name) = o.order.name := by cases o.order <;> rfl
    refine ⟨o.order.name, rfl, ?_⟩
    rw [hkey]
    exact o.order.namedBy_name

theorem lists_entries (o : Options) :
    Given.Lists o.entries (Field.all.map fun field => (field, o.valueOf field)) where
  gives := by
    rw [entries, List.forall₂_map_left_iff, List.forall₂_map_right_iff, List.forall₂_same]
    exact fun field _ => ⟨field.namedBy_optionName, rfl⟩
  nodup := by
    rw [List.map_map]
    show Field.all.Nodup
    decide

theorem value_entries (o : Options) :
    Given.value (Field.all.map fun field => (field, o.valueOf field)) = o.valueOf := by
  funext field
  exact Given.value_of_mem (lists_entries o).nodup (List.mem_map.mpr ⟨field, Field.mem_all field, rfl⟩)

end Written

section Respelled

variable {entries others : List (Value × Value)} {given : Given} {o : Options}

theorem read_respelled (h : Given.Lists entries given) (hrespelled : Respelled entries others)
    (trace : Trace) : (read (.object others)).result trace = ofGiven given := by
  obtain ⟨other, hother, hperm⟩ := h.respelled hrespelled
  rw [read_of_lists hother, ofGiven, ofGiven, Given.value_perm h.nodup hperm]

theorem read_entries_respelled (h : Checked given o) (hwritten : Respelled o.entries others)
    (trace : Trace) : (read (.object others)).result trace = .ok o := by
  rw [read_respelled (lists_entries o) hwritten, ofGiven_eq_ok_iff, checked_iff, value_entries]
  exact yields_valueOf (checked_iff.mp h)

end Respelled

/-- Options that are read off an object are read again off themselves, written out in any order and
spelling, and off the object in any order and spelling. With a second entry for a field, wherever it
stands, the later one of the two is refused. -/
theorem read_stable {entries : List (Value × Value)} {o : Options} {trace : Trace}
    (h : (read (.object entries)).result trace = .ok o) (later : Trace) :
    (∀ written, Respelled o.entries written → (read (.object written)).result later = .ok o) ∧
    (∀ others, Respelled entries others → (read (.object others)).result later = .ok o) ∧
    ∀ (front back : List (Value × Value)) (field : Field) (key item other v : Value),
      entries = front ++ back → field.NamedBy key → field.NamedBy other →
        ((key, item) ∈ front → (read (.object (front ++ (other, v) :: back))).result later =
          .error (.configuration (.repeatedOption other))) ∧
        ((key, item) ∈ back → (read (.object (front ++ (other, v) :: back))).result later =
          .error (.configuration (.repeatedOption key))) := by
  obtain ⟨given, hgiven, hchecked⟩ := read_eq_ok_iff.mp h
  have hlists := Given.readOff_object_iff.mp hgiven
  refine ⟨fun written hwritten => read_entries_respelled hchecked hwritten later,
    fun others hothers => ?_, ?_⟩
  · rw [read_respelled hlists hothers, ofGiven_eq_ok_iff.mpr hchecked]
  · rintro front back field key item other v rfl hkey hother
    refine ⟨fun hentry => ?_, fun hentry => ?_⟩
    · exact read_of_defect (Given.Defect.of_mem_front hlists hentry hkey hother) later
    · exact read_of_defect (Given.Defect.of_mem_back hlists hentry hkey hother) later

/-- An alias with blanks around it, a preset, and keys in both spellings. -/
theorem read_stable_aliases :
    let entries : List (Value × Value) := [
      (.text "order", .text " DESC "), (.text "comment_template", .text "verbose"),
      (.text "threshold", .float (.finite false (2 ^ 52) (-51))),
      (.text "showGroupNames", .bool false)]
    let others : List (Value × Value) := [
      (.text "show_group_names", .bool false),
      (.text "threshold", .float (.finite false (2 ^ 52) (-51))),
      (.text "commentTemplate", .text "verbose"), (.text "order", .text " DESC ")]
    ∃ o, (read (.object entries)).result {} = .ok o ∧
      o.order = .descending ∧
      o.commentTemplate = "// \x7bgroupName\x7d (\x7bcount\x7d classes)".toList ∧
      (read (.object o.entries.reverse)).result {} = .ok o ∧
      (read (.object others)).result {} = .ok o ∧
      (read (.object (entries ++ [(.text "show_group_names", .null)]))).result {} =
        .error (.configuration (.repeatedOption (.text "show_group_names"))) := by
  intro entries others
  have hread : ((read (.object entries)).result {}).toOption.map
      (fun o => (o.order, o.commentTemplate)) =
      some (.descending, "// \x7bgroupName\x7d (\x7bcount\x7d classes)".toList) := by
    decide +kernel
  obtain ⟨o, ho, hfields⟩ := Option.map_eq_some_iff.mp hread
  obtain ⟨horder, htemplate⟩ := Prod.mk.inj hfields
  have ho : (read (.object entries)).result {} = .ok o := toOption_eq_some_iff.mp ho
  obtain ⟨hwritten, hothers, hsecond⟩ := read_stable ho {}
  have hrespelled : Respelled entries others := by
    refine ⟨entries.reverse, (List.reverse_perm _).symm, ?_⟩
    refine .cons (.of_namedBy .showGroupNames (Field.namedBy_optionName _) (Field.namedBy_name _) _) ?_
    refine .cons (.of_namedBy .threshold (Field.namedBy_name _) (Field.namedBy_name _) _) ?_
    refine .cons (.of_namedBy .commentTemplate (Field.namedBy_name _) (Field.namedBy_optionName _) _) ?_
    exact .cons (.of_namedBy .order (Field.namedBy_name _) (Field.namedBy_name _) _) .nil
  have hgiven : (Value.text "showGroupNames", Value.bool false) ∈ entries := by simp [entries]
  refine ⟨o, ho, horder, htemplate, hwritten _ (.of_perm (List.reverse_perm _).symm),
    hothers others hrespelled, ?_⟩
  exact (hsecond entries [] .showGroupNames _ (.bool false) _ _ (List.append_nil _).symm
    (Field.namedBy_optionName _) (Field.namedBy_name _)).1 hgiven

end Options

end ClassList
