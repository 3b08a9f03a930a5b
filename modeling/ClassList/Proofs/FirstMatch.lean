import ClassList.Proofs.Classification
import ClassList.Proofs.Trace

/-! The group of a class is the first one in mapping order that takes it, and a grouping that is built
class by class is the one that classification builds at once. -/

namespace ClassList

namespace Rules

/-- Whether an entry of the mapping takes a class: its group stands in the group order, is not the
fallback, and has a pattern that matches. -/
def Takes (rules : Rules) (t : Token) (entry : Text × List Text) : Prop :=
  entry.1 ∈ rules.groupOrder ∧ entry.1 ≠ rules.fallback ∧
    ∃ pattern ∈ entry.2, matchesPattern pattern t = true

instance (rules : Rules) (t : Token) (entry : Text × List Text) : Decidable (rules.Takes t entry) :=
  inferInstanceAs (Decidable (_ ∧ _))

/-- The group of the first entry of the mapping that takes a class. -/
def TakenFirst (rules : Rules) (t : Token) (name : Text) : Prop :=
  ∃ front patterns back, rules.mapping = front ++ (name, patterns) :: back ∧
    rules.Takes t (name, patterns) ∧ ∀ entry ∈ front, ¬rules.Takes t entry

def taker? (rules : Rules) (t : Token) : Option (Text × List Text) :=
  rules.mapping.find? fun entry => rules.Takes t entry

theorem taker?_eq_none_iff {rules : Rules} {t : Token} :
    rules.taker? t = none ↔ ∀ entry ∈ rules.mapping, ¬rules.Takes t entry := by
  simp [taker?, List.find?_eq_none]

theorem taker?_eq_some_iff {rules : Rules} {t : Token} {entry : Text × List Text} :
    rules.taker? t = some entry ↔ rules.Takes t entry ∧ ∃ front back,
      rules.mapping = front ++ entry :: back ∧ ∀ earlier ∈ front, ¬rules.Takes t earlier := by
  simp [taker?, List.find?_eq_some_iff_append]

theorem takenFirst_iff {rules : Rules} {t : Token} {name : Text} :
    rules.TakenFirst t name ↔ ∃ patterns, rules.taker? t = some (name, patterns) := by
  simp only [TakenFirst, taker?_eq_some_iff]
  constructor
  · rintro ⟨front, patterns, back, hmapping, htakes, hfront⟩
    exact ⟨patterns, htakes, front, back, hmapping, hfront⟩
  · rintro ⟨patterns, htakes, front, back, hmapping, hfront⟩
    exact ⟨front, patterns, back, hmapping, htakes, hfront⟩

def competes (rules : Rules) (entry : Text × List Text) : Bool :=
  entry.1 ≠ rules.fallback && rules.groupOrder.contains entry.1

theorem takes_iff {rules : Rules} {t : Token} {entry : Text × List Text} :
    rules.Takes t entry ↔
      rules.competes entry = true ∧ (firstMatch? entry.2 t).isSome = true := by
  rw [firstMatch?, List.find?_isSome, Takes, competes, Bool.and_eq_true, decide_eq_true_iff,
    List.contains_iff_mem, ← and_assoc, and_comm (a := entry.1 ∈ rules.groupOrder)]

end Rules

namespace Classifier

/-- The scan through the eligible groups stops at the first entry that takes the class. -/
theorem match?_map_fst (rules : Rules) (t : Token) :
    ((ofRules rules).match? t).map Prod.fst = (rules.taker? t).map Prod.fst := by
  rw [Rules.taker?]
  show Option.map Prod.fst (List.findSome? (fun entry => (firstMatch? entry.2 t).map (entry.1, ·))
    (rules.mapping.filter rules.competes)) = _
  induction rules.mapping with
  | nil => rfl
  | cons entry rest ih =>
    -- An entry that does not take the class is filtered out, or none of its patterns matches.
    by_cases htakes : rules.Takes t entry
    · obtain ⟨hcompetes, hmatch⟩ := Rules.takes_iff.mp htakes
      obtain ⟨pattern, hpattern⟩ := Option.isSome_iff_exists.mp hmatch
      rw [List.filter_cons_of_pos hcompetes, List.find?_cons_of_pos (by simpa using htakes)]
      simp [hpattern]
    · rw [List.find?_cons_of_neg (by simpa using htakes), ← ih, List.filter_cons]
      split
      · rename_i hcompetes
        have hnone : firstMatch? entry.2 t = none := by
          cases hmatch : firstMatch? entry.2 t with
          | none => rfl
          | some pattern =>
            exact absurd (Rules.takes_iff.mpr ⟨hcompetes, hmatch ▸ rfl⟩) htakes
        rw [List.findSome?_cons, hnone]
        rfl
      · rfl

theorem groupOf_eq_getD (c : Classifier) (t : Token) :
    c.groupOf t = ((c.match? t).map Prod.fst).getD c.fallback := by
  unfold groupOf
  split
  · rename_i hmatch
    rw [hmatch]
    rfl
  · rename_i hmatch
    rw [hmatch]
    rfl

theorem groupOf_ofRules (rules : Rules) (t : Token) :
    (ofRules rules).groupOf t = ((rules.taker? t).map Prod.fst).getD rules.fallback := by
  rw [groupOf_eq_getD, match?_map_fst]
  rfl

/-- The fallback takes exactly the classes that no entry takes. -/
theorem groupOf_eq_fallback_iff {rules : Rules} {t : Token} :
    (ofRules rules).groupOf t = rules.fallback ↔ ∀ entry ∈ rules.mapping, ¬rules.Takes t entry := by
  rw [groupOf_ofRules, ← Rules.taker?_eq_none_iff]
  cases htaker : rules.taker? t with
  | none => simp
  | some entry => simpa using (Rules.taker?_eq_some_iff.mp htaker).1.2.1

/-- Any other group takes exactly the classes whose first entry is its own. -/
theorem groupOf_eq_iff {rules : Rules} {t : Token} {name : Text} (hname : name ≠ rules.fallback) :
    (ofRules rules).groupOf t = name ↔ rules.TakenFirst t name := by
  rw [groupOf_ofRules, Rules.takenFirst_iff]
  cases htaker : rules.taker? t with
  | none => simp [hname.symm]
  | some entry =>
    obtain ⟨group, patterns⟩ := entry
    simp

end Classifier

namespace Grouping

/-- A class that is added to a group comes after the classes that are assigned to it already. -/
theorem add_map {names : List Text} (hnames : names.Nodup) {name : Text} (hname : name ∈ names)
    (assigned : Text → List Token) (t : Token) :
    add ⟨names.map fun n => ⟨n, assigned n⟩⟩ name t =
      .ok ⟨names.map fun n => ⟨n, assigned n ++ if name = n then [t] else []⟩⟩ := by
  have hthere := names_map names assigned
  rw [add_of_mem (hthere.symm ▸ hnames) (hthere.symm ▸ hname), withClass, List.map_map]
  refine congrArg (fun groups => Except.ok (Grouping.mk groups))
    (List.map_congr_left fun n _ => ?_)
  by_cases hn : n = name
  · simp [hn, Group.add, Group.addAll]
  · simp [hn, Ne.symm hn]

/-- Classes that are added one after the other end up in their groups in the order in which they are
added, whatever the groups in between. -/
theorem foldlM_add {α : Type} {names : List Text} (hnames : names.Nodup) {items : List α}
    (key : α → Text) (token : α → Token) (hkey : ∀ a ∈ items, key a ∈ names)
    (assigned : Text → List Token) :
    items.foldlM (fun (g : Grouping) a => g.add (key a) (token a))
        ⟨names.map fun n => ⟨n, assigned n⟩⟩ =
      .ok ⟨names.map fun n => ⟨n, assigned n ++ (items.filter fun a => key a = n).map token⟩⟩ := by
  -- What the groups hold so far varies in the induction, since every class adds to it.
  induction items generalizing assigned with
  | nil => simp [pure, Except.pure]
  | cons a items ih =>
    rw [List.foldlM_cons, add_map hnames (hkey a (List.mem_cons_self ..)), ok_bind,
      ih fun b hb => hkey b (List.mem_cons_of_mem _ hb)]
    refine congrArg (fun groups => Except.ok (Grouping.mk groups))
      (List.map_congr_left fun n _ => ?_)
    by_cases hn : key a = n
    · simp [hn]
    · simp [hn]

theorem ofNames_of_items {v : Value} {names : List Text}
    (hitems : v.items? = some (names.map Value.text)) (hnames : names.Nodup)
    (hnamed : ∀ name ∈ names, Text.isBlankText name = false) :
    ofNames v = .ok ⟨names.map fun n => ⟨n, []⟩⟩ := by
  have helements : v.elements? = some (names.map Value.text) := by
    cases v with
    | text s => cases hitems
    | object entries => cases hitems
    | _ => exact hitems
  have hgroups : (names.map Value.text).mapM Group.empty =
      .ok (names.map fun n => (⟨n, []⟩ : Group)) := by
    rw [List.mapM_map]
    exact mapM_eq_ok fun name hname => Group.ofName_text (hnamed name hname) []
  simp only [ofNames, helements, hgroups, Failure.ofConfig_ok, ok_bind,
    ofGroups_map hnames fun _ => []]

end Grouping

namespace Classifier

/-- The classes of a list are added to the groups of a list of names one by one. -/
def classifyEach (c : Classifier) (names : Value) (tokens : List Token) :
    Except Failure Grouping := do
  tokens.foldlM (fun g t => g.add (c.groupOf t) t) (← Grouping.ofNames names)

theorem classifyEach_eq {rules : Rules} {groupOrder mapping fallback : Value}
    (h : Rules.read groupOrder mapping fallback = .ok rules) (tokens : List Token) :
    (ofRules rules).classifyEach groupOrder tokens = .ok ((ofRules rules).partition tokens) := by
  have hvalid := Rules.read_valid h
  have hmem : ∀ t ∈ tokens, (ofRules rules).groupOf t ∈ rules.groupOrder :=
    fun t _ => (wellFormed_ofRules hvalid).groupOf_mem t
  have hempty := Grouping.ofNames_of_items (Rules.read_spelled h).groupOrder_items hvalid.nodup
    fun _ hname => hvalid.order_named hname
  have hadd := Grouping.foldlM_add hvalid.nodup (ofRules rules).groupOf id hmem fun _ => []
  simp only [List.nil_append, List.map_id] at hadd
  rw [classifyEach, hempty]
  exact hadd

/-- Classification by checked rules puts every class into the group of the first entry of the mapping
that takes it, and into the fallback where none does. The grouping has the groups of the group order,
each with its own classes in the order in which they are given, and is the grouping to which the
classes are added one by one. -/
theorem classify_firstMatch {groupOrder mapping fallback : Value} {rules : Rules}
    (h : Rules.read groupOrder mapping fallback = .ok rules) :
    rules.SpelledBy groupOrder mapping fallback ∧
    (∀ t trace, ((ofRules rules).find t trace).1 = (ofRules rules).groupOf t) ∧
    (∀ t name, name ≠ rules.fallback →
      ((ofRules rules).groupOf t = name ↔ rules.TakenFirst t name)) ∧
    (∀ t, (ofRules rules).groupOf t = rules.fallback ↔
      ∀ entry ∈ rules.mapping, ¬rules.Takes t entry) ∧
    ∀ tokens trace, ∃ g, ((ofRules rules).run tokens).result trace = .ok g ∧
      g.names = rules.groupOrder ∧
      (∀ group ∈ g.groups,
        group.classes = tokens.filter fun t => (ofRules rules).groupOf t = group.name) ∧
      (ofRules rules).classifyEach groupOrder tokens = .ok g := by
  have hwell := wellFormed_ofRules (Rules.read_valid h)
  refine ⟨Rules.read_spelled h, fun _ _ => rfl, fun _ _ hname => groupOf_eq_iff hname,
    fun _ => groupOf_eq_fallback_iff, fun tokens trace => ?_⟩
  refine ⟨(ofRules rules).partition tokens, hwell.classify_eq tokens, ?_, ?_,
    classifyEach_eq h tokens⟩
  · rw [Grouping.names, partition, List.map_map]
    exact List.map_id _
  · intro group hgroup
    obtain ⟨name, _, rfl⟩ := List.mem_map.mp hgroup
    rfl

/-- The fallback and a group that is not shown come first in the mapping, and the group that is shown
first comes last. -/
theorem classify_firstMatch_hidden :
    let groupOrder : Value := .list [.text "B", .text "A", .text "Rest"]
    let mapping : Value := .object [(.text "Rest", .list [.text "x-*"]),
      (.text "Hidden", .list [.text "x-*"]), (.text "A", .tuple [.text "z", .text "x-*"]),
      (.text "B", .list [.text "x-1", .text "y-*"])]
    let tokens := ["m:x-1", "y-[2]", "w", "x-3"].map fun s => Token.ofText (String.toList s)
    let shown : List Group := [⟨"B".toList, [Token.ofText "y-[2]"]⟩,
      ⟨"A".toList, [Token.ofText "m:x-1", Token.ofText "x-3"]⟩, ⟨"Rest".toList, [Token.ofText "w"]⟩]
    ∃ rules, Rules.read groupOrder mapping (.text "Rest") = .ok rules ∧
      rules.SpelledBy groupOrder mapping (.text "Rest") ∧
      rules.TakenFirst (Token.ofText "m:x-1") "A" ∧
      (∀ entry ∈ rules.mapping, ¬rules.Takes (Token.ofText "w") entry) ∧
      ((ofRules rules).run tokens).result {} = .ok ⟨shown⟩ ∧
      (ofRules rules).classifyEach groupOrder tokens = .ok ⟨shown⟩ := by
  intro groupOrder mapping tokens shown
  have hread : ∃ rules, Rules.read groupOrder mapping (.text "Rest") = .ok rules ∧
      (ofRules rules).groupOf (Token.ofText "m:x-1") = "A".toList ∧
      (ofRules rules).groupOf (Token.ofText "w") = rules.fallback ∧
      "A".toList ≠ rules.fallback ∧ ((ofRules rules).run tokens).result {} = .ok ⟨shown⟩ :=
    ⟨_, rfl, by decide +kernel, by decide +kernel, by decide, rfl⟩
  obtain ⟨rules, hread, hfirst, hnone, hname, hrun⟩ := hread
  obtain ⟨hspelled, -, hgroup, hfallback, hclassify⟩ := classify_firstMatch hread
  obtain ⟨g, hresult, -, -, heach⟩ := hclassify tokens {}
  obtain rfl : g = ⟨shown⟩ := Except.ok.inj (hresult.symm.trans hrun)
  exact ⟨rules, hread, hspelled, (hgroup _ _ hname).mp hfirst, (hfallback _).mp hnone, hrun, heach⟩

end Classifier

end ClassList
