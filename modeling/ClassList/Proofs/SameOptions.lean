import Mathlib.Data.List.Nodup
import Mathlib.Data.List.Perm.Subperm
import ClassList.Collation.Excerpt
import ClassList.Proofs.FirstMatch
import ClassList.Proofs.Number
import ClassList.Proofs.Objects
import ClassList.Proofs.Transform

/-! Options that compare equal. Their mappings have the same entries, but they may declare them in
different orders, and the order decides where two groups take the same class. Where no class is taken
by two groups in different orders, the options transform class strings alike. -/

namespace ClassList

/-- Two members of a list without repetitions stand in one order only. -/
theorem not_sublist_swap {α : Type} {l : List α} (hl : l.Nodup) {a b : α} (hab : [a, b].Sublist l) :
    ¬[b, a].Sublist l := by
  induction l with
  | nil => cases hab
  | cons c l ih =>
    obtain ⟨hc, hl⟩ := List.nodup_cons.mp hl
    intro hba
    cases hab with
    | cons _ hab =>
      cases hba with
      | cons _ hba => exact ih hl hab hba
      | cons_cons _ hba => exact hc (hab.subset (List.mem_cons_of_mem _ (List.mem_cons_self ..)))
    | cons_cons _ hb =>
      cases hba with
      | cons _ hba => exact hc (hba.subset (List.mem_cons_of_mem _ (List.mem_cons_self ..)))
      | cons_cons _ ha => exact hc (List.singleton_sublist.mp hb)

namespace Mapping

/-- Whether a mapping declares one group before another. -/
def Before (mapping : Mapping) (name other : Text) : Prop :=
  [name, other].Sublist (mapping.map Prod.fst)

instance (mapping : Mapping) (name other : Text) : Decidable (mapping.Before name other) :=
  inferInstanceAs (Decidable (List.Sublist _ _))

theorem before_of_mem {front back : Mapping} {entry other : Text × List Text} (h : other ∈ back) :
    Before (front ++ entry :: back) entry.1 other.1 := by
  have hpair : [entry, other].Sublist (front ++ entry :: back) :=
    ((List.singleton_sublist.mpr h).cons_cons entry).trans (List.sublist_append_right ..)
  exact hpair.map Prod.fst

end Mapping

namespace Rules

/-- Whether the groups that take a class stand in a mapping as they stand in the rules: of any two of
them, the one that the rules declare first comes first. -/
def Agree (rules : Rules) (mapping : Mapping) (t : Token) : Prop :=
  ∀ entry ∈ rules.mapping, ∀ other ∈ rules.mapping, rules.Takes t entry → rules.Takes t other →
    rules.mapping.Before entry.1 other.1 → mapping.Before entry.1 other.1

instance (rules : Rules) (mapping : Mapping) (t : Token) : Decidable (rules.Agree mapping t) :=
  inferInstanceAs (Decidable (∀ entry ∈ rules.mapping, ∀ other ∈ rules.mapping, _))

section Agree

variable {rules : Rules} {mapping : Mapping} (hperm : rules.mapping.Perm mapping)
  (hnodup : (mapping.map Prod.fst).Nodup)
include hperm hnodup

/-- The first group that takes a class is the first one in the other mapping too. -/
theorem Agree.taker?_eq {t : Token} (h : rules.Agree mapping t) :
    rules.taker? t = taker? { rules with mapping } t := by
  cases hfirst : rules.taker? t with
  | none =>
    have hnone := taker?_eq_none_iff.mp hfirst
    refine (taker?_eq_none_iff.mpr fun entry hentry => ?_).symm
    exact hnone entry (hperm.mem_iff.mpr hentry)
  | some entry =>
    obtain ⟨hentry, front, back, hmapping, hfront⟩ := taker?_eq_some_iff.mp hfirst
    have hmem : entry ∈ rules.mapping := by simp [hmapping]
    cases hother : taker? { rules with mapping } t with
    | none => exact absurd hentry (taker?_eq_none_iff.mp hother entry (hperm.mem_iff.mp hmem))
    | some other =>
      obtain ⟨htakes, front', back', hmapping', hfront'⟩ := taker?_eq_some_iff.mp hother
      have hmapping' : mapping = front' ++ other :: back' := hmapping'
      have htakes : rules.Takes t other := htakes
      by_cases heq : entry = other
      · rw [heq]
      -- Each of the two comes before the other in its own mapping.
      · have hother_mem : other ∈ rules.mapping := hperm.mem_iff.mpr (by simp [hmapping'])
        have hentry_mem : entry ∈ mapping := hperm.mem_iff.mp hmem
        have hback : other ∈ back := by
          rw [hmapping, List.mem_append, List.mem_cons] at hother_mem
          rcases hother_mem with hmem | rfl | hmem
          · exact absurd htakes (hfront other hmem)
          · exact absurd rfl heq
          · exact hmem
        have hback' : entry ∈ back' := by
          rw [hmapping', List.mem_append, List.mem_cons] at hentry_mem
          rcases hentry_mem with hmem | rfl | hmem
          · exact absurd hentry (hfront' entry hmem)
          · exact absurd rfl heq
          · exact hmem
        have hbefore : mapping.Before entry.1 other.1 :=
          h entry hmem other hother_mem hentry htakes (hmapping ▸ Mapping.before_of_mem hback)
        have hafter : mapping.Before other.1 entry.1 := hmapping' ▸ Mapping.before_of_mem hback'
        exact absurd hafter (not_sublist_swap hnodup hbefore)

theorem Agree.groupOf_eq {t : Token} (h : rules.Agree mapping t) :
    (Classifier.ofRules rules).groupOf t = (Classifier.ofRules { rules with mapping }).groupOf t := by
  rw [Classifier.groupOf_ofRules, Classifier.groupOf_ofRules, h.taker?_eq hperm hnodup]

theorem Agree.partition_eq {tokens : List Token} (h : ∀ t ∈ tokens, rules.Agree mapping t) :
    (Classifier.ofRules rules).partition tokens =
      (Classifier.ofRules { rules with mapping }).partition tokens := by
  refine congrArg Grouping.mk (List.map_congr_left fun name _ => congrArg (Group.mk name) ?_)
  refine List.filter_congr fun t ht => ?_
  rw [(h t ht).groupOf_eq hperm hnodup]

end Agree

end Rules

namespace Options

theorem perm_of_sameMapping {a b : Mapping} (ha : (a.map Prod.fst).Nodup)
    (h : sameMapping a b = true) : a.Perm b := by
  obtain ⟨hlength, hentries⟩ := Bool.and_eq_true_iff.mp h
  have hsubset : a ⊆ b := by
    intro entry hentry
    have hlookup := of_decide_eq_true (List.all_eq_true.mp hentries entry hentry)
    obtain ⟨front, back, rfl, -⟩ := List.lookup_eq_some_iff.mp hlookup
    simp
  have hnodup : a.Nodup := List.Nodup.of_map Prod.fst ha
  exact (List.subperm_of_subset hnodup hsubset).perm_of_length_le (of_decide_eq_true hlength).ge

/-- Options that compare equal differ in the spelling of the threshold and in the order of the mapping
only. -/
theorem exists_of_same {a b : Options} (h : a.same b = true) :
    ∃ threshold mapping, b = { a with threshold, mapping } ∧
      a.threshold.same threshold = true ∧ sameMapping a.mapping mapping = true := by
  cases a
  cases b
  simp only [same, Bool.and_eq_true, decide_eq_true_eq] at h
  obtain ⟨⟨⟨⟨⟨⟨⟨⟨hthreshold, rfl⟩, hmapping⟩, rfl⟩, rfl⟩, rfl⟩, rfl⟩, rfl⟩, rfl⟩ := h
  exact ⟨_, _, rfl, hthreshold, hmapping⟩

end Options

namespace Pipeline

/-- Options that compare equal transform a class string alike, unless two groups take one of its
classes and the options declare them in different orders. -/
theorem transform_same {a b : Options} (ha : a.Parsed) (hb : b.Parsed) (hsame : a.same b = true)
    (oracle : Option Oracle) (collator : Collator) (launch : Launcher) :
    ∃ p q, ofOptions a oracle collator launch = .ok p ∧ ofOptions b oracle collator launch = .ok q ∧
      ∀ threshold classString trace,
        (∀ t ∈ tokensOf classString, a.rules.Agree b.mapping t) →
          (p.transform threshold classString).result trace =
            (q.transform threshold classString).result trace := by
  have hvalid := ha.accepted.rules_valid
  have hvalid' := hb.accepted.rules_valid
  obtain ⟨limit, mapping, rfl, hlimit, hmapping⟩ := Options.exists_of_same hsame
  have hperm := Options.perm_of_sameMapping ha.mapping_nodup hmapping
  let p : Pipeline := ⟨a, Classifier.ofRules a.rules, asked a oracle launch, collator⟩
  let q : Pipeline := ⟨{ a with threshold := limit, mapping := mapping },
    Classifier.ofRules { a.rules with mapping := mapping }, asked a oracle launch, collator⟩
  refine ⟨p, q, ofOptions_eq hvalid oracle collator launch,
    ofOptions_eq hvalid' oracle collator launch, ?_⟩
  intro threshold classString trace hagree
  have hgrouping : p.grouping classString = q.grouping classString :=
    Rules.Agree.partition_eq hperm hb.mapping_nodup hagree
  have hcall : p.callOf trace.questions (p.grouping classString) =
      q.callOf trace.questions (q.grouping classString) := by
    rw [hgrouping]
    rfl
  have hwidth : p.options.style.checkWidth = q.options.style.checkWidth := rfl
  exact transform_congr (Classifier.wellFormed_ofRules hvalid)
    (Classifier.wellFormed_ofRules hvalid') (Number.le_eq_of_same hlimit) hwidth hgrouping hcall
    threshold

/-- The thresholds are of different kinds, and the fallback changes its place among the groups. Two
groups take the same class and keep their order. -/
theorem transform_same_overlapping :
    let size : Value × Value := (.text "Size", .list [.text "w-*"])
    let wide : Value × Value := (.text "Wide", .list [.text "w-4", .text "p-*"])
    let rest : Value × Value := (.text "Rest", .list [])
    let raw (threshold : Value) (entries : List (Value × Value)) : Value := .object [
      (.text "groupOrder", .list [.text "Wide", .text "Size", .text "Rest"]),
      (.text "mapping", .object entries), (.text "fallbackGroup", .text "Rest"),
      (.text "threshold", threshold), (.text "showGroupNames", .bool false)]
    let launch : Launcher := fun _ _ => .timedOut
    let shown : Text := "clsx(\n  \"p-2\",\n  \"w-4\"\n)"
    ∃ a b p q g, (Options.read (raw (.int 2) [size, wide, rest])).result {} = .ok a ∧
      (Options.read (raw (.float (.finite false (2 ^ 52) (-51))) [rest, size, wide])).result {} = .ok b ∧
      a.same b = true ∧ a ≠ b ∧ ofOptions a none .excerpt launch = .ok p ∧
      ofOptions b none .excerpt launch = .ok q ∧
      (∀ t ∈ tokensOf "w-4 p-2", a.rules.Agree b.mapping t) ∧
      (p.transform .null "w-4 p-2").result {} = .ok (.transformed g shown) ∧
      (q.transform .null "w-4 p-2").result {} = .ok (.transformed g shown) := by
  intro size wide rest raw launch shown
  have hread : ((Options.read (raw (.int 2) [size, wide, rest])).result {} >>= fun a =>
      (Options.read (raw (.float (.finite false (2 ^ 52) (-51))) [rest, size, wide])).result {} >>= fun b =>
        ofOptions a none .excerpt launch >>= fun p =>
        (p.transform .null "w-4 p-2").result {} >>= fun outcome =>
          .ok (a.same b, decide (a ≠ b),
            decide (∀ t ∈ tokensOf "w-4 p-2", a.rules.Agree b.mapping t), outcome.call?)).toOption =
      some (true, true, true, some shown) := by
    decide +kernel
  obtain ⟨a, ha, hread⟩ := bind_eq_ok_iff.mp (toOption_eq_some_iff.mp hread)
  obtain ⟨b, hb, hread⟩ := bind_eq_ok_iff.mp hread
  obtain ⟨p, hp, hread⟩ := bind_eq_ok_iff.mp hread
  obtain ⟨outcome, houtcome, hread⟩ := bind_eq_ok_iff.mp hread
  simp only [Except.ok.injEq, Prod.mk.injEq, decide_eq_true_eq] at hread
  obtain ⟨hsame, hne, hagree, hcall⟩ := hread
  obtain ⟨p', q, hp', hq, htransform⟩ :=
    transform_same ⟨_, {}, rfl, ha⟩ ⟨_, {}, rfl, hb⟩ hsame none .excerpt launch
  obtain rfl : p = p' := Except.ok.inj (hp.symm.trans hp')
  obtain ⟨g, rfl⟩ := Outcome.call?_eq_some_iff.mp hcall
  exact ⟨a, b, p, q, g, ha, hb, hsame, hne, hp, hq, hagree, houtcome,
    (htransform .null _ {} hagree).symm.trans houtcome⟩

/-- Options that compare equal put a class into different groups, since two groups take it and the
mappings declare them in different orders. -/
theorem same_transform_differs :
    let size : Value × Value := (.text "Size", .list [.text "w-*"])
    let wide : Value × Value := (.text "Wide", .list [.text "w-4"])
    let rest : Value × Value := (.text "Rest", .list [])
    let raw (entries : List (Value × Value)) : Value := .object [
      (.text "groupOrder", .list [.text "Size", .text "Wide", .text "Rest"]),
      (.text "mapping", .object entries), (.text "fallbackGroup", .text "Rest")]
    let launch : Launcher := fun _ _ => .timedOut
    ∃ a b p q outcome outcome', (raw [size, wide, rest]).isWellFormed = true ∧
      (raw [wide, size, rest]).isWellFormed = true ∧
      (Options.read (raw [size, wide, rest])).result {} = .ok a ∧
      (Options.read (raw [wide, size, rest])).result {} = .ok b ∧ a.same b = true ∧
      ofOptions a none .excerpt launch = .ok p ∧ ofOptions b none .excerpt launch = .ok q ∧
      (p.transform .null "w-4").result {} = .ok outcome ∧
      (q.transform .null "w-4").result {} = .ok outcome' ∧
      outcome.call? = some "clsx(\n  // Size\n  \"w-4\"\n)".toList ∧
      outcome'.call? = some "clsx(\n  // Wide\n  \"w-4\"\n)".toList := by
  intro size wide rest raw launch
  have hrun : ((Options.read (raw [size, wide, rest])).result {} >>= fun a =>
      (Options.read (raw [wide, size, rest])).result {} >>= fun b =>
        ofOptions a none .excerpt launch >>= fun p =>
        ofOptions b none .excerpt launch >>= fun q =>
          (p.transform .null "w-4").result {} >>= fun outcome =>
            (q.transform .null "w-4").result {} >>= fun outcome' =>
              .ok (a.same b, outcome.call?, outcome'.call?)).toOption =
      some (true, some "clsx(\n  // Size\n  \"w-4\"\n)".toList,
        some "clsx(\n  // Wide\n  \"w-4\"\n)".toList) := by
    decide +kernel
  obtain ⟨a, ha, hrun⟩ := bind_eq_ok_iff.mp (toOption_eq_some_iff.mp hrun)
  obtain ⟨b, hb, hrun⟩ := bind_eq_ok_iff.mp hrun
  obtain ⟨p, hp, hrun⟩ := bind_eq_ok_iff.mp hrun
  obtain ⟨q, hq, hrun⟩ := bind_eq_ok_iff.mp hrun
  obtain ⟨outcome, houtcome, hrun⟩ := bind_eq_ok_iff.mp hrun
  obtain ⟨outcome', houtcome', hrun⟩ := bind_eq_ok_iff.mp hrun
  simp only [Except.ok.injEq, Prod.mk.injEq] at hrun
  obtain ⟨hsame, hcall, hcall'⟩ := hrun
  exact ⟨a, b, p, q, outcome, outcome', rfl, rfl, ha, hb, hsame, hp, hq, houtcome, houtcome', hcall,
    hcall'⟩

end Pipeline

end ClassList
