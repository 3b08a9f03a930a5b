import ClassList.Proofs.Rules

/-! What a configuration of groups has to satisfy, demand by demand in the order in which the check goes
through it. The check passes just when the configuration can be used, which is when it meets all demands,
and otherwise it fails with the defect of the first one that is not met. -/

namespace ClassList

/-- Something that has to hold of a configuration, and the defect where it does not. -/
structure Demand where
  met : Prop
  defect : ConfigError

/-- The defect of the first of some demands that is not met. -/
def FirstDefect (demands : List Demand) (e : ConfigError) : Prop :=
  ∃ front d back, demands = front ++ d :: back ∧ (∀ earlier ∈ front, earlier.met) ∧ ¬d.met ∧
    d.defect = e

section FirstDefect

variable {d : Demand} {demands front back : List Demand} {e : ConfigError}

theorem not_firstDefect_nil : ¬FirstDefect [] e := by
  rintro ⟨front, d, back, h, -⟩
  simp at h

theorem firstDefect_cons_iff :
    FirstDefect (d :: demands) e ↔ (¬d.met ∧ d.defect = e) ∨ (d.met ∧ FirstDefect demands e) := by
  constructor
  · rintro ⟨front, first, back, h, hfront, hfirst, rfl⟩
    rcases List.cons_eq_append_iff.mp h with ⟨rfl, h⟩ | ⟨front, rfl, rfl⟩
    · obtain ⟨rfl, rfl⟩ := List.cons.inj h
      exact .inl ⟨hfirst, rfl⟩
    · obtain ⟨hd, hfront⟩ := List.forall_mem_cons.mp hfront
      exact .inr ⟨hd, front, first, back, rfl, hfront, hfirst, rfl⟩
  · rintro (⟨hd, rfl⟩ | ⟨hd, front, first, back, rfl, hfront, hfirst, rfl⟩)
    · exact ⟨[], d, demands, rfl, by simp, hd, rfl⟩
    · exact ⟨d :: front, first, back, rfl, List.forall_mem_cons.mpr ⟨hd, hfront⟩, hfirst, rfl⟩

theorem firstDefect_append_iff :
    FirstDefect (front ++ back) e ↔
      FirstDefect front e ∨ ((∀ d ∈ front, d.met) ∧ FirstDefect back e) := by
  induction front with
  | nil => simp [not_firstDefect_nil]
  | cons d front ih =>
    rw [List.cons_append, firstDefect_cons_iff, ih, firstDefect_cons_iff, List.forall_mem_cons,
      and_or_left, and_assoc, or_assoc]

/-- There is a first defect just when not all demands are met. -/
theorem not_exists_firstDefect_iff : (¬∃ e, FirstDefect demands e) ↔ ∀ d ∈ demands, d.met := by
  induction demands with
  | nil => simp [not_firstDefect_nil]
  | cons d demands ih =>
    rw [List.forall_mem_cons, ← ih]
    simp only [firstDefect_cons_iff]
    by_cases hd : d.met <;> simp [hd]

end FirstDefect

/-- A check fails just as the first demand that is not met says. -/
def DecidedBy {α : Type} (demands : List Demand) (r : Except Failure α) : Prop :=
  ∀ f, r = .error f ↔ ∃ e, FirstDefect demands e ∧ f = .configuration e

theorem ofConfig_bind {α β : Type} (r : Except ConfigError α) (f : α → Except ConfigError β) :
    Failure.ofConfig (r >>= f) = Failure.ofConfig r >>= fun a => Failure.ofConfig (f a) := by
  cases r <;> rfl

namespace DecidedBy

variable {α β : Type} {d : Demand} {demands front back : List Demand} {r : Except Failure α}

theorem ok_iff (h : DecidedBy demands r) : (∃ a, r = .ok a) ↔ ∀ d ∈ demands, d.met := by
  rw [← not_exists_firstDefect_iff]
  cases r with
  | ok a =>
    refine ⟨fun _ ⟨e, he⟩ => ?_, fun _ => ⟨a, rfl⟩⟩
    cases (h _).mpr ⟨e, he, rfl⟩
  | error f =>
    obtain ⟨e, he, -⟩ := (h f).mp rfl
    exact ⟨fun ⟨a, ha⟩ => (nomatch ha), fun hnone => absurd ⟨e, he⟩ hnone⟩

theorem nil (a : α) : DecidedBy [] (.ok a) := by
  intro f
  simp [not_firstDefect_nil]

theorem met (hd : d.met) (h : DecidedBy demands r) : DecidedBy (d :: demands) r := by
  intro f
  simp only [h f, firstDefect_cons_iff, hd, not_true_eq_false, false_and, true_and, false_or]

theorem unmet (hd : ¬d.met) :
    DecidedBy (d :: demands) (.error (.configuration d.defect) : Except Failure α) := by
  intro f
  simp only [firstDefect_cons_iff, hd, not_false_eq_true, false_and, true_and, or_false]
  simp [eq_comm]

/-- Demands of a check come before those of the checks after it, which only run when it passes. -/
theorem bind (h : DecidedBy front r) {rest : α → Except Failure β}
    (hrest : ∀ a, r = .ok a → DecidedBy back (rest a)) : DecidedBy (front ++ back) (r >>= rest) := by
  intro f
  rw [bind_eq_error_iff, h f]
  simp only [firstDefect_append_iff, or_and_right, exists_or]
  refine or_congr_right ⟨?_, ?_⟩
  · rintro ⟨a, ha, hf⟩
    obtain ⟨e, he, rfl⟩ := (hrest a ha f).mp hf
    exact ⟨e, ⟨h.ok_iff.mp ⟨a, ha⟩, he⟩, rfl⟩
  · rintro ⟨e, ⟨hmet, he⟩, rfl⟩
    obtain ⟨a, ha⟩ := h.ok_iff.mpr hmet
    exact ⟨a, ha, (hrest a ha _).mpr ⟨e, he, rfl⟩⟩

/-- What is made of the result of a check demands nothing more. -/
theorem andReturn {r : Except ConfigError α} (h : DecidedBy demands (Failure.ofConfig r))
    (f : α → β) : DecidedBy demands (Failure.ofConfig (r >>= fun a => pure (f a))) := by
  rw [ofConfig_bind, ← List.append_nil demands]
  exact h.bind fun a _ => nil (f a)

theorem mapM {f : α → Except ConfigError β} {demandsOf : α → List Demand}
    (h : ∀ a, DecidedBy (demandsOf a) (Failure.ofConfig (f a))) (items : List α) :
    DecidedBy (items.flatMap demandsOf) (Failure.ofConfig (items.mapM f)) := by
  induction items with
  | nil => exact nil []
  | cons a rest ih =>
    rw [List.mapM_cons, ofConfig_bind, List.flatMap_cons]
    exact (h a).bind fun b _ => ih.andReturn (b :: ·)

end DecidedBy

/-- The entries of an object. Other values have none. -/
def Value.entries : Value → List (Value × Value)
  | .object entries => entries
  | _ => []

/-- The items of a list, a tuple or a run of octets. Other values have none. -/
def Value.items (v : Value) : List Value := v.items?.getD []

namespace Rules

def IsText (v : Value) : Prop := ∃ s, v = .text s

/-- A name is a text that is not blank. -/
def IsName (v : Value) : Prop := ∃ s, v = .text s ∧ Text.isBlankText s = false

/-- The values describe groups that can be used. -/
structure Usable (groupOrder mapping fallback : Value) : Prop where
  order_list : ∃ items, groupOrder.items? = some items
  mapping_object : ∃ entries, mapping = .object entries
  entries : ∀ entry ∈ mapping.entries, IsName entry.1 ∧
    ∃ patterns, entry.2.items? = some patterns ∧ ∀ pattern ∈ patterns, IsText pattern
  order_named : ∀ v ∈ groupOrder.items, IsName v
  order_nodup : groupOrder.items.Nodup
  order_mapped : ∀ v ∈ groupOrder.items, v ∈ mapping.entries.map Prod.fst
  fallback_mem : fallback ∈ groupOrder.items

/-- An entry has to have a name, then a list, and then each pattern has to be a text. -/
def entryDemands (entry : Value × Value) : List Demand :=
  ⟨IsName entry.1, .blankMappingName⟩ ::
    ⟨∃ patterns, entry.2.items? = some patterns, .patternsNotList entry.1.display⟩ ::
      entry.2.items.map fun pattern => ⟨IsText pattern, .patternNotText entry.1.display pattern⟩

/-- Each item of the order has to be a name, then one that does not come earlier, and then a key of the
mapping. -/
def orderDemands (keys : List Value) : (earlier : List Value) → List Value → List Demand
  | _, [] => []
  | earlier, v :: rest =>
    ⟨IsName v, .blankOrderName⟩ :: ⟨v ∉ earlier, .repeatedOrderName v.display⟩ ::
      ⟨v ∈ keys, .orderNameNotMapped v.display⟩ :: orderDemands keys (v :: earlier) rest

/-- All demands on the values, in the order in which they are checked: the kinds of order and mapping,
the entries of the mapping, the items of the order, and the fallback. -/
def demands (groupOrder mapping fallback : Value) : List Demand :=
  [⟨∃ items, groupOrder.items? = some items, .groupOrderNotList⟩,
    ⟨∃ entries, mapping = .object entries, .mappingNotObject⟩] ++
  (mapping.entries.flatMap entryDemands ++
    (orderDemands (mapping.entries.map Prod.fst) [] groupOrder.items ++
      [⟨fallback ∈ groupOrder.items, .fallbackNotInOrder fallback⟩]))

/-! ### Demands that are met -/

theorem entryDemands_met_iff {entry : Value × Value} :
    (∀ d ∈ entryDemands entry, d.met) ↔ IsName entry.1 ∧
      ∃ patterns, entry.2.items? = some patterns ∧ ∀ pattern ∈ patterns, IsText pattern := by
  rw [entryDemands, List.forall_mem_cons, List.forall_mem_cons]
  refine and_congr_right fun _ => ?_
  cases hitems : entry.2.items? with
  | none => simp
  | some patterns => simp [Value.items, hitems]

theorem orderDemands_met_iff {keys earlier values : List Value} :
    (∀ d ∈ orderDemands keys earlier values, d.met) ↔
      (∀ v ∈ values, IsName v) ∧ (values.Nodup ∧ ∀ v ∈ values, v ∉ earlier) ∧
        ∀ v ∈ values, v ∈ keys := by
  induction values generalizing earlier with
  | nil => simp [orderDemands]
  | cons v rest ih =>
    simp only [orderDemands, List.forall_mem_cons, ih, List.nodup_cons]
    constructor
    · rintro ⟨hname, hnew, hkey, hnames, ⟨hnodup, hothers⟩, hkeys⟩
      refine ⟨⟨hname, hnames⟩, ⟨⟨fun hv => ?_, hnodup⟩, hnew, fun w hw h => ?_⟩, hkey, hkeys⟩
      · exact hothers v hv (List.mem_cons_self ..)
      · exact hothers w hw (List.mem_cons_of_mem _ h)
    · rintro ⟨⟨hname, hnames⟩, ⟨⟨hv, hnodup⟩, hnew, hothers⟩, hkey, hkeys⟩
      refine ⟨hname, hnew, hkey, hnames, ⟨hnodup, fun w hw h => ?_⟩, hkeys⟩
      rcases List.mem_cons.mp h with rfl | h
      · exact hv hw
      · exact hothers w hw h

theorem demands_met_iff {groupOrder mapping fallback : Value} :
    (∀ d ∈ demands groupOrder mapping fallback, d.met) ↔ Usable groupOrder mapping fallback := by
  simp only [demands, List.forall_mem_append, List.forall_mem_cons, List.forall_mem_flatMap,
    entryDemands_met_iff, orderDemands_met_iff]
  constructor
  · rintro ⟨⟨hlist, hobject, -⟩, hentries, ⟨hnames, ⟨hnodup, -⟩, hmapped⟩, hfallback, -⟩
    exact ⟨hlist, hobject, hentries, hnames, hnodup, hmapped, hfallback⟩
  · rintro ⟨hlist, hobject, hentries, hnames, hnodup, hmapped, hfallback⟩
    exact ⟨⟨hlist, hobject, by simp⟩, hentries, ⟨hnames, ⟨hnodup, by simp⟩, hmapped⟩, hfallback,
      by simp⟩

/-! ### The checks one by one -/

theorem decidedBy_readPattern (group : Text) (v : Value) :
    DecidedBy [⟨IsText v, .patternNotText group v⟩] (Failure.ofConfig (readPattern group v)) := by
  cases v with
  | text s => exact .met ⟨s, rfl⟩ (.nil s)
  | _ => exact .unmet (d := ⟨_, _⟩) nofun

theorem decidedBy_readEntry (entry : Value × Value) :
    DecidedBy (entryDemands entry) (Failure.ofConfig (readEntry entry)) := by
  unfold readEntry
  split
  · rename_i hnone
    refine .unmet (d := ⟨_, _⟩) fun ⟨s, hs, hname⟩ => ?_
    cases hnone.symm.trans (name?_eq_some_iff.mpr ⟨hs, hname⟩)
  · rename_i name hname
    obtain ⟨hkey, hnamed⟩ := name?_eq_some_iff.mp hname
    refine .met ⟨name, hkey, hnamed⟩ ?_
    have hdisplay : entry.1.display = name := by
      rw [hkey]
      rfl
    rw [hdisplay]
    split
    · rename_i hnone
      exact .unmet (d := ⟨_, _⟩) fun ⟨patterns, hitems⟩ => nomatch hnone.symm.trans hitems
    · rename_i patterns hitems
      refine .met ⟨patterns, hitems⟩ ?_
      have hpatterns : entry.2.items = patterns := by
        rw [Value.items, hitems]
        rfl
      rw [hpatterns, List.map_eq_flatMap]
      exact (DecidedBy.mapM (decidedBy_readPattern name) patterns).andReturn (name, ·)

theorem decidedBy_readOrder {mapping : Mapping} {keys : List Value}
    (hkeys : ∀ name, Value.text name ∈ keys ↔ name ∈ mapping.map Prod.fst) (seen : List Text)
    (values : List Value) :
    DecidedBy (orderDemands keys (seen.map Value.text) values)
      (Failure.ofConfig (readOrder mapping seen values)) := by
  induction values generalizing seen with
  | nil => exact .nil []
  | cons v rest ih =>
    rw [readOrder_cons, orderDemands]
    split
    · rename_i hnone
      refine .unmet (d := ⟨_, _⟩) fun ⟨s, hs, hname⟩ => ?_
      cases hnone.symm.trans (name?_eq_some_iff.mpr ⟨hs, hname⟩)
    · rename_i name hname
      obtain ⟨rfl, hnamed⟩ := name?_eq_some_iff.mp hname
      refine .met ⟨name, rfl, hnamed⟩ ?_
      have hseen : Value.text name ∈ seen.map Value.text ↔ name ∈ seen := by simp
      split
      · rename_i hmem
        exact .unmet (d := ⟨_, _⟩) (not_not_intro (hseen.mpr hmem))
      · rename_i hnew
        refine .met (mt hseen.mp hnew) ?_
        split
        · rename_i hmapped
          refine .met ((hkeys name).mpr hmapped) ?_
          exact (ih (name :: seen)).andReturn (name :: ·)
        · rename_i hnot
          exact .unmet (d := ⟨_, _⟩) (mt (hkeys name).mp hnot)

theorem decidedBy_readFallback {fallback : Value} (hkey : fallback.isKey = true) (names : List Text) :
    DecidedBy [⟨fallback ∈ names.map Value.text, .fallbackNotInOrder fallback⟩]
      (readFallback names fallback) := by
  rw [readFallback, if_pos hkey]
  split
  · rename_i name hfind
    have htext : fallback.isText name = true :=
      List.find?_some (p := fun s => fallback.isText s) hfind
    rw [isText_iff.mp htext]
    exact .met (List.mem_map_of_mem (List.mem_of_find?_eq_some hfind)) (.nil name)
  · rename_i hnone
    refine .unmet (d := ⟨_, _⟩) fun hmem => ?_
    obtain ⟨name, hname, rfl⟩ := List.mem_map.mp hmem
    exact List.find?_eq_none.mp hnone name hname (isText_iff.mpr rfl)

/-! ### The check as a whole -/

theorem mem_keys_iff {given : List (Value × Value)} {entries : Mapping}
    (h : given.mapM readEntry = .ok entries) (name : Text) :
    Value.text name ∈ given.map Prod.fst ↔ name ∈ entries.map Prod.fst := by
  have hkeys : entries.map (fun entry => Value.text entry.1) = given.map Prod.fst :=
    map_eq_of_mapM_eq_ok (fun _ _ hread => congrArg Prod.fst (readEntry_spelled hread)) h
  rw [← hkeys]
  simp

theorem decidedBy_read (groupOrder mapping : Value) {fallback : Value} (hkey : fallback.isKey = true) :
    DecidedBy (demands groupOrder mapping fallback) (read groupOrder mapping fallback) := by
  unfold read demands
  cases hlist : groupOrder.items? with
  | none => exact .unmet (d := ⟨_, _⟩) nofun
  | some items =>
    refine .met ⟨items, rfl⟩ ?_
    have hitems : groupOrder.items = items := by
      rw [Value.items, hlist]
      rfl
    rw [hitems]
    cases mapping with
    | object given =>
      refine .met ⟨given, rfl⟩ ?_
      refine (DecidedBy.mapM decidedBy_readEntry given).bind fun entries hentries => ?_
      have hentries := Failure.ofConfig_eq_ok_iff.mp hentries
      refine (decidedBy_readOrder (mem_keys_iff hentries) [] items).bind fun names hnames => ?_
      rw [readOrder_spelled (Failure.ofConfig_eq_ok_iff.mp hnames)]
      rw [← List.append_nil [_]]
      exact (decidedBy_readFallback hkey names).bind fun _ _ => .nil _
    | _ => exact .unmet (d := ⟨_, _⟩) nofun

/-- Where the fallback can be looked up, the check accepts just the values that describe groups that can
be used. From all others it fails with the defect of the first demand that they do not meet. -/
theorem read_decidedBy_demands (groupOrder mapping : Value) {fallback : Value}
    (hkey : fallback.isKey = true) :
    ((∃ rules, read groupOrder mapping fallback = .ok rules) ↔
      Usable groupOrder mapping fallback) ∧
    ∀ f, read groupOrder mapping fallback = .error f ↔
      ∃ e, FirstDefect (demands groupOrder mapping fallback) e ∧ f = .configuration e := by
  have h := decidedBy_read groupOrder mapping hkey
  exact ⟨h.ok_iff.trans demands_met_iff, h⟩

/-- The mapping has a pattern that is no text behind one that is, the order has a blank name and a name
twice, and the fallback is not in it. The pattern comes first. -/
theorem read_decidedBy_demands_several :
    let groupOrder : Value := .list [.text "A", .text " ", .text "A"]
    let mapping : Value := .object [(.text "A", .octets []), (.text "B", .list [.text "b", .int 1]),
      (.null, .text "c")]
    let fallback : Value := .tuple [.text "A"]
    fallback.isKey = true ∧ ¬Usable groupOrder mapping fallback ∧
      read groupOrder mapping fallback = .error (.configuration (.patternNotText "B" (.int 1))) ∧
      FirstDefect (demands groupOrder mapping fallback) (.patternNotText "B" (.int 1)) := by
  intro groupOrder mapping fallback
  have hread : read groupOrder mapping fallback =
      .error (.configuration (.patternNotText "B" (.int 1))) := by rfl
  have hkey : fallback.isKey = true := rfl
  obtain ⟨hok, herror⟩ := read_decidedBy_demands groupOrder mapping hkey
  obtain ⟨e, hfirst, he⟩ := (herror _).mp hread
  cases he
  refine ⟨hkey, fun husable => ?_, hread, hfirst⟩
  obtain ⟨rules, hrules⟩ := hok.mpr husable
  cases hread.symm.trans hrules

end Rules

end ClassList
