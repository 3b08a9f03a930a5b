import ClassList.Classifier
import ClassList.Proofs.Results

/-! Checked configurations of groups: what the check guarantees, and that a checked configuration
passes the check again and reads as itself. -/

namespace ClassList.Rules

/-- What the check of a configuration establishes. -/
structure Valid (rules : Rules) : Prop where
  named : ∀ entry ∈ rules.mapping, Text.isBlankText entry.1 = false
  mapped : ∀ name ∈ rules.groupOrder, name ∈ rules.mapping.map Prod.fst
  nodup : rules.groupOrder.Nodup
  fallback_mem : rules.fallback ∈ rules.groupOrder

theorem Valid.order_named {rules : Rules} (h : rules.Valid) {name : Text}
    (hname : name ∈ rules.groupOrder) : Text.isBlankText name = false := by
  obtain ⟨entry, hentry, rfl⟩ := List.mem_map.mp (h.mapped name hname)
  exact h.named entry hentry

theorem name?_eq_some_iff {v : Value} {name : Text} :
    name? v = some name ↔ v = .text name ∧ Text.isBlankText name = false := by
  cases v with
  | text s =>
    rw [name?]
    by_cases hs : Text.isBlankText s = true
    · rw [if_pos hs]
      constructor
      · intro h
        cases h
      · rintro ⟨h, hname⟩
        cases h
        exact absurd hs (by simp [hname])
    · rw [if_neg hs, Option.some.injEq, Value.text.injEq]
      constructor
      · rintro rfl
        exact ⟨rfl, by simpa using hs⟩
      · exact fun h => h.1
  | _ => simp [name?]

/-! ### What passes the check -/

theorem readEntry_named {entry : Value × Value} {name : Text} {patterns : List Text}
    (h : readEntry entry = .ok (name, patterns)) : Text.isBlankText name = false := by
  unfold readEntry at h
  split at h
  · cases h
  · rename_i hname
    split at h
    · cases h
    · obtain ⟨_, _, h⟩ := bind_eq_ok_iff.mp h
      cases h
      exact (name?_eq_some_iff.mp hname).2

theorem readOrder_cons (mapping : Mapping) (seen : List Text) (v : Value) (values : List Value) :
    readOrder mapping seen (v :: values) =
      match name? v with
      | none => .error .blankOrderName
      | some name =>
        if name ∈ seen then .error (.repeatedOrderName name)
        else if name ∈ mapping.map Prod.fst then do
          return name :: (← readOrder mapping (name :: seen) values)
        else .error (.orderNameNotMapped name) := rfl

theorem readOrder_valid {mapping : Mapping} {seen : List Text} {values : List Value}
    {names : List Text} (h : readOrder mapping seen values = .ok names) :
    names.Nodup ∧ ∀ name ∈ names, name ∉ seen ∧ name ∈ mapping.map Prod.fst := by
  induction values generalizing seen names with
  | nil =>
    cases h
    simp
  | cons v values ih =>
    rw [readOrder_cons] at h
    split at h
    · cases h
    · rename_i name hname
      split at h
      · cases h
      · rename_i hseen
        split at h
        · rename_i hmapped
          obtain ⟨rest, hrest, h⟩ := bind_eq_ok_iff.mp h
          cases h
          obtain ⟨hnodup, hall⟩ := ih hrest
          refine ⟨List.nodup_cons.mpr ⟨fun hmem => ?_, hnodup⟩, ?_⟩
          · exact (hall name hmem).1 (List.mem_cons_self ..)
          · intro other hother
            rcases List.mem_cons.mp hother with rfl | hother
            · exact ⟨hseen, hmapped⟩
            · obtain ⟨hnot, hmem⟩ := hall other hother
              exact ⟨fun hs => hnot (List.mem_cons_of_mem _ hs), hmem⟩
        · cases h

theorem isText_iff {name : Text} {v : Value} : v.isText name = true ↔ v = .text name := by
  cases v <;> simp [Value.isText]

theorem readFallback_valid {groupOrder : List Text} {v : Value} {fallback : Text}
    (h : readFallback groupOrder v = .ok fallback) : fallback ∈ groupOrder := by
  unfold readFallback at h
  split at h
  · split at h
    · rename_i hfind
      cases h
      exact List.mem_of_find?_eq_some hfind
    · cases h
  · cases h

/-! ### The check as a whole -/

/-- What the checks of a group order and a mapping make of them: the kinds of the two, the entries of
the mapping, and the names of the order. The fallback comes after. -/
def GroupsRead (groupOrder mapping : Value) (names : List Text) (entries : Mapping) : Prop :=
  ∃ items given, groupOrder.items? = some items ∧ mapping = .object given ∧
    given.mapM readEntry = .ok entries ∧ readOrder entries [] items = .ok names

section Read

variable {groupOrder mapping fallback : Value} {names : List Text} {entries : Mapping} {rules : Rules}

theorem GroupsRead.read_eq (h : GroupsRead groupOrder mapping names entries) :
    read groupOrder mapping fallback =
      (readFallback names fallback).map fun fallback => ⟨names, entries, fallback⟩ := by
  obtain ⟨items, given, hitems, rfl, hentries, hnames⟩ := h
  simp only [read, hitems, hentries, hnames, Failure.ofConfig_ok, ok_bind]
  cases readFallback names fallback <;> rfl

/-- Group order and mapping pass their checks, or they are refused, whatever the fallback. -/
theorem groupsRead_or_error (groupOrder mapping : Value) :
    (∃ names entries, GroupsRead groupOrder mapping names entries) ∨
      ∃ e, ∀ fallback, read groupOrder mapping fallback = .error (.configuration e) := by
  cases hitems : groupOrder.items? with
  | none => exact .inr ⟨.groupOrderNotList, fun _ => by simp only [read, hitems]⟩
  | some items =>
    by_cases hobject : ∃ given, mapping = .object given
    · obtain ⟨given, rfl⟩ := hobject
      cases hentries : given.mapM readEntry with
      | error e =>
        refine .inr ⟨e, fun _ => ?_⟩
        simp only [read, hitems, hentries]
        rfl
      | ok entries =>
        cases hnames : readOrder entries [] items with
        | error e =>
          refine .inr ⟨e, fun _ => ?_⟩
          simp only [read, hitems, hentries, Failure.ofConfig_ok, ok_bind, hnames]
          rfl
        | ok names => exact .inl ⟨names, entries, items, given, hitems, rfl, hentries, hnames⟩
    · refine .inr ⟨.mappingNotObject, fun _ => ?_⟩
      cases mapping with
      | object given => exact absurd ⟨given, rfl⟩ hobject
      | _ => simp only [read, hitems]

theorem read_eq_ok_iff :
    read groupOrder mapping fallback = .ok rules ↔
      GroupsRead groupOrder mapping rules.groupOrder rules.mapping ∧
        readFallback rules.groupOrder fallback = .ok rules.fallback := by
  constructor
  · intro h
    rcases groupsRead_or_error groupOrder mapping with ⟨names, entries, hgroups⟩ | ⟨e, he⟩
    · rw [hgroups.read_eq, map_eq_ok_iff] at h
      obtain ⟨chosen, hchosen, rfl⟩ := h
      exact ⟨hgroups, hchosen⟩
    · rw [he] at h
      cases h
  · rintro ⟨hgroups, hfallback⟩
    rw [hgroups.read_eq, hfallback]
    rfl

/-- The rules that a check accepts are valid. -/
theorem read_valid (h : read groupOrder mapping fallback = .ok rules) : rules.Valid := by
  obtain ⟨⟨items, given, -, -, hentries, hnames⟩, hfallback⟩ := read_eq_ok_iff.mp h
  obtain ⟨hnodup, hall⟩ := readOrder_valid hnames
  refine ⟨?_, fun name hname => (hall name hname).2, hnodup, readFallback_valid hfallback⟩
  rintro ⟨name, patterns⟩ hentry
  obtain ⟨_, _, hread⟩ := exists_of_mapM_eq_ok hentries _ hentry
  exact readEntry_named hread

end Read

/-! ### How values spell rules -/

/-- The values of a configuration hold the texts of the rules and nothing else, in the same order. -/
structure SpelledBy (rules : Rules) (groupOrder mapping fallback : Value) : Prop where
  groupOrder_items : groupOrder.items? = some (rules.groupOrder.map Value.text)
  mapping_entries : ∃ entries, mapping = .object entries ∧
    (rules.mapping.map fun entry => (Value.text entry.1, some (entry.2.map Value.text))) =
      entries.map fun entry => (entry.1, entry.2.items?)
  fallback_eq : fallback = .text rules.fallback

theorem readPattern_eq_ok {group pattern : Text} {v : Value}
    (h : readPattern group v = .ok pattern) : .text pattern = v := by
  cases v with
  | text s => exact congrArg Value.text (Except.ok.inj h).symm
  | _ => cases h

theorem readEntry_spelled {entry : Value × Value} {read : Text × List Text}
    (h : readEntry entry = .ok read) :
    (Value.text read.1, some (read.2.map Value.text)) = (entry.1, entry.2.items?) := by
  unfold readEntry at h
  split at h
  · cases h
  · rename_i hname
    split at h
    · cases h
    · rename_i items hitems
      obtain ⟨patterns, hpatterns, h⟩ := bind_eq_ok_iff.mp h
      cases h
      have hspelled : patterns.map Value.text = items.map id :=
        map_eq_of_mapM_eq_ok (fun _ _ hread => readPattern_eq_ok hread) hpatterns
      rw [(name?_eq_some_iff.mp hname).1, hitems, hspelled, List.map_id]

theorem readOrder_spelled {mapping : Mapping} {seen names : List Text} {values : List Value}
    (h : readOrder mapping seen values = .ok names) : values = names.map Value.text := by
  induction values generalizing seen names with
  | nil =>
    cases h
    rfl
  | cons v values ih =>
    rw [readOrder_cons] at h
    split at h
    · cases h
    · rename_i name hname
      split at h
      · cases h
      · split at h
        · obtain ⟨rest, hrest, h⟩ := bind_eq_ok_iff.mp h
          cases h
          rw [List.map_cons, ← ih hrest, (name?_eq_some_iff.mp hname).1]
        · cases h

theorem readFallback_spelled {groupOrder : List Text} {v : Value} {fallback : Text}
    (h : readFallback groupOrder v = .ok fallback) : v = .text fallback := by
  unfold readFallback at h
  split at h
  · split at h
    · rename_i hfind
      cases h
      exact isText_iff.mp (List.find?_some (p := fun s => v.isText s) hfind)
    · cases h
  · cases h

/-- The rules that a check reads are those that the values spell. -/
theorem read_spelled {groupOrder mapping fallback : Value} {rules : Rules}
    (h : read groupOrder mapping fallback = .ok rules) :
    rules.SpelledBy groupOrder mapping fallback := by
  obtain ⟨⟨items, given, hitems, rfl, hentries, hnames⟩, hfallback⟩ := read_eq_ok_iff.mp h
  refine ⟨?_, ⟨given, rfl, ?_⟩, readFallback_spelled hfallback⟩
  · rw [hitems, readOrder_spelled hnames]
  · exact map_eq_of_mapM_eq_ok (fun _ _ hread => readEntry_spelled hread) hentries

/-! ### Checked again -/

theorem readEntry_of_spelled {entry : Value × Value} {name : Text} {patterns : List Text}
    (hname : Text.isBlankText name = false)
    (h : (Value.text name, some (patterns.map Value.text)) = (entry.1, entry.2.items?)) :
    readEntry entry = .ok (name, patterns) := by
  obtain ⟨hkey, hitems⟩ := Prod.mk.inj h
  have hread : (patterns.map Value.text).mapM (readPattern name) = .ok patterns := by
    have h : ∀ pattern ∈ patterns, (readPattern name ∘ Value.text) pattern = .ok (id pattern) :=
      fun _ _ => rfl
    rw [List.mapM_map, mapM_eq_ok h, List.map_id]
  have hsome : name? entry.1 = some name := name?_eq_some_iff.mpr ⟨hkey.symm, hname⟩
  simp only [readEntry, hsome, ← hitems, hread]
  rfl

theorem mapM_readEntry_of_spelled {mapping : Mapping} {entries : List (Value × Value)}
    (hnamed : ∀ entry ∈ mapping, Text.isBlankText entry.1 = false)
    (h : (mapping.map fun entry => (Value.text entry.1, some (entry.2.map Value.text))) =
      entries.map fun entry => (entry.1, entry.2.items?)) :
    entries.mapM readEntry = .ok mapping := by
  induction mapping generalizing entries with
  | nil =>
    obtain rfl := List.map_eq_nil_iff.mp h.symm
    rfl
  | cons read mapping ih =>
    obtain ⟨entry, rest, rfl, hentry, hrest⟩ := List.map_eq_cons_iff.mp h.symm
    have hfirst := readEntry_of_spelled (hnamed read (List.mem_cons_self ..)) hentry.symm
    have hothers := ih (fun other hother => hnamed other (List.mem_cons_of_mem _ hother)) hrest.symm
    rw [List.mapM_cons, hfirst, ok_bind, hothers]
    rfl

theorem readOrder_map_text {mapping : Mapping} {seen names : List Text} (hnodup : names.Nodup)
    (hseen : ∀ name ∈ names, name ∉ seen) (hmapped : ∀ name ∈ names, name ∈ mapping.map Prod.fst)
    (hnamed : ∀ name ∈ names, Text.isBlankText name = false) :
    readOrder mapping seen (names.map Value.text) = .ok names := by
  induction names generalizing seen with
  | nil => rfl
  | cons name rest ih =>
    obtain ⟨hnot, hrest⟩ := List.nodup_cons.mp hnodup
    have hmem := List.mem_cons_self (a := name) (l := rest)
    have hsome : name? (.text name) = some name := name?_eq_some_iff.mpr ⟨rfl, hnamed name hmem⟩
    have htail : readOrder mapping (name :: seen) (rest.map Value.text) = .ok rest := by
      refine ih hrest (fun other hother => ?_)
        (fun other hother => hmapped other (List.mem_cons_of_mem _ hother))
        (fun other hother => hnamed other (List.mem_cons_of_mem _ hother))
      rw [List.mem_cons, not_or]
      exact ⟨fun he => hnot (he ▸ hother), hseen other (List.mem_cons_of_mem _ hother)⟩
    rw [List.map_cons, readOrder_cons, hsome]
    simp only [if_neg (hseen name hmem), if_pos (hmapped name hmem), htail]
    rfl

theorem readFallback_text {groupOrder : List Text} {fallback : Text}
    (h : fallback ∈ groupOrder) : readFallback groupOrder (.text fallback) = .ok fallback := by
  have hfind : groupOrder.find? (Value.text fallback).isText = some fallback := by
    cases hfound : groupOrder.find? (Value.text fallback).isText with
    | none =>
      have hnot := List.find?_eq_none.mp hfound fallback h
      exact absurd (isText_iff.mpr rfl) hnot
    | some name =>
      have hname : (Value.text fallback).isText name = true :=
        List.find?_some (p := fun s => (Value.text fallback).isText s) hfound
      rw [Value.text.inj (isText_iff.mp hname)]
  simp only [readFallback, hfind]
  rfl

/-- Valid rules pass the check, however they are spelled. -/
theorem Valid.read_of_spelled {rules : Rules} (h : rules.Valid) {groupOrder mapping fallback : Value}
    (hspelled : rules.SpelledBy groupOrder mapping fallback) :
    read groupOrder mapping fallback = .ok rules := by
  obtain ⟨hitems, ⟨entries, rfl, hentries⟩, rfl⟩ := hspelled
  have horder : readOrder rules.mapping [] (rules.groupOrder.map Value.text) =
      .ok rules.groupOrder :=
    readOrder_map_text h.nodup (fun _ _ => List.not_mem_nil) h.mapped fun _ hname =>
      h.order_named hname
  exact read_eq_ok_iff.mpr
    ⟨⟨_, _, hitems, rfl, mapM_readEntry_of_spelled h.named hentries, horder⟩,
      readFallback_text h.fallback_mem⟩

theorem spelledBy_toValue (rules : Rules) :
    rules.SpelledBy (.tuple (rules.groupOrder.map Value.text)) rules.mapping.toValue
      (.text rules.fallback) := by
  refine ⟨rfl, ⟨_, rfl, ?_⟩, rfl⟩
  rw [List.map_map]
  rfl

theorem Valid.read_eq {rules : Rules} (h : rules.Valid) :
    read (.tuple (rules.groupOrder.map Value.text)) rules.mapping.toValue (.text rules.fallback) =
      .ok rules :=
  h.read_of_spelled rules.spelledBy_toValue

end ClassList.Rules
