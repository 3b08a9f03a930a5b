import ClassList.Collation.Excerpt
import ClassList.Proofs.Transform

/-! Accepted options fail in one way only: the pipeline is built, and it transforms every class string,
whatever the oracle or the external sorter does, unless a call is due under a width that no text can have. -/

namespace ClassList.Pipeline

theorem transform_ok_or_notIndex {p : Pipeline} (h : p.classifier.WellFormed) {threshold : Value}
    (hthreshold : threshold = .null ∨ threshold.number?.isSome) (classString : Text)
    (trace : Trace) :
    (∃ outcome, (p.transform threshold classString).result trace = .ok outcome) ∨
      Text.largestIndex < p.options.indentWidth ∧
        (p.transform threshold classString).result trace =
          .error (.notIndex p.options.indentWidth) := by
  obtain ⟨limit, hlimit⟩ := p.options.exists_inForce hthreshold
  rw [transform_of_inForce h hlimit]
  split
  · rename_i hstops
    exact .inr ⟨hstops.2, rfl⟩
  · exact .inl ⟨_, rfl⟩

/-- What a pipeline of accepted options needs never fails: the second check of the groups, the group of
each class, the grouping of any tokens, the name of each group, the order that the sorter reads again
and any sorting by it. So it transforms every class string, or the width of the indentation is no index, and
that is why it fails. -/
theorem transform_total {o : Options} (ho : o.Accepted) (oracle : Option Oracle)
    (collator : Collator) (launch : Launcher) :
    ∃ p, ofOptions o oracle collator launch = .ok p ∧
      Classifier.ofGroups o.groupOrder o.mapping o.fallbackGroup = .ok p.classifier ∧
      (∀ t, p.classifier.groupOf t ∈ o.groupOrder) ∧
      (∀ tokens, ∃ g, p.classifier.classify tokens = .ok g) ∧
      (∀ name ∈ o.groupOrder, ∀ tokens, Group.ofName (.text name) tokens = .ok ⟨name, tokens⟩) ∧
      Order.read (.text o.order.name) = .ok o.order ∧
      (∀ tokens trace, ∃ sorted, (p.sortGroup tokens).result trace = .ok sorted) ∧
      ∀ threshold : Value, threshold = .null ∨ threshold.number?.isSome →
        ∀ classString trace,
          (∃ outcome, (p.transform threshold classString).result trace = .ok outcome) ∨
            Text.largestIndex < o.indentWidth ∧
              (p.transform threshold classString).result trace =
                .error (.notIndex o.indentWidth) := by
  obtain ⟨p, hp, rfl, hclassifier, hwell⟩ :=
    ofOptions_eq_ok ho.rules_valid oracle collator launch
  have horder : p.classifier.groupOrder = p.options.groupOrder := by
    rw [hclassifier]
    rfl
  refine ⟨p, hp, ?_, fun t => horder ▸ hwell.groupOf_mem t, fun tokens => ⟨_, hwell.classify_eq tokens⟩,
    fun name hname => Group.ofName_text (ho.rules_valid.order_named hname), Order.read_name _,
    fun tokens trace => ⟨_, Order.sortNamed_result (Order.read_name _) p.collator p.oracle tokens trace⟩,
    fun threshold hthreshold => transform_ok_or_notIndex hwell hthreshold⟩
  rw [hclassifier]
  exact ofGroups_eq_ok ho.rules_valid

/-- Canonical order asks an external sorter that does not answer in time, and a truth value counts as
the threshold. -/
theorem transform_total_timedOut :
    let raw : Value := .object [
      (.text "groupOrder", .list [.text "Rest", .text "Size"]),
      (.text "mapping", .object [(.text "Size", .list [.text "w-*"]), (.text "Rest", .octets [])]),
      (.text "fallback_group", .text "Rest"), (.text "order", .text " Official"),
      (.text "showGroupNames", .bool false)]
    let launch : Launcher := fun _ _ => .timedOut
    ∃ o p outcome, (Options.read raw).result {} = .ok o ∧ ofOptions o none .excerpt launch = .ok p ∧
      (p.transform (.bool true) "w-4 flex w-4").result {} = .ok outcome ∧
      outcome.call? = some "clsx(\n  \"flex\",\n  \"w-4\"\n)".toList := by
  intro raw launch
  have hrun : ((Options.read raw).result {} >>= fun o => ofOptions o none .excerpt launch >>= fun p =>
      (p.transform (.bool true) "w-4 flex w-4").result {} >>= fun outcome =>
        .ok outcome.call?).toOption = some (some "clsx(\n  \"flex\",\n  \"w-4\"\n)".toList) := by
    decide +kernel
  obtain ⟨o, ho, hrun⟩ := bind_eq_ok_iff.mp (toOption_eq_some_iff.mp hrun)
  obtain ⟨p, hp, -, -, -, -, -, -, htotal⟩ := transform_total ⟨raw, {}, ho⟩ none .excerpt launch
  rw [hp, ok_bind] at hrun
  obtain ⟨outcome, houtcome⟩ | ⟨-, hfails⟩ := htotal (.bool true) (Or.inr rfl) "w-4 flex w-4" {}
  · rw [houtcome, ok_bind] at hrun
    exact ⟨o, p, outcome, ho, hp, houtcome, Except.ok.inj hrun⟩
  · rw [hfails] at hrun
    cases hrun

/-- The least width that is no index is accepted, and under it not even one class is transformed. -/
theorem wide_transform_fails :
    let raw : Value := .object [(.text "indentWidth", .int 9223372036854775808)]
    let launch : Launcher := fun _ _ => .notFound
    ∃ o p, (Options.read raw).result {} = .ok o ∧ ofOptions o none .excerpt launch = .ok p ∧
      (p.transform .null "flex").result {} = .error (.notIndex 9223372036854775808) := by
  intro raw launch
  have hread : ((Options.read raw).result {} >>= fun o =>
      .ok (o.indentWidth, o.threshold)).toOption = some (9223372036854775808, .int 0) := by
    decide +kernel
  obtain ⟨o, ho, hfields⟩ := bind_eq_ok_iff.mp (toOption_eq_some_iff.mp hread)
  obtain ⟨hwidth, hzero⟩ := Prod.mk.inj (Except.ok.inj hfields)
  obtain ⟨p, hp, rfl, -, hwell⟩ :=
    ofOptions_eq_ok (Options.Accepted.rules_valid ⟨raw, {}, ho⟩) none .excerpt launch
  have hdue : isDue p.options.threshold "flex" = true := by
    rw [hzero]
    decide
  have hwide : Text.largestIndex < p.options.indentWidth := by
    rw [hwidth]
    decide
  refine ⟨p.options, p, ho, hp, ?_⟩
  rw [transform_of_inForce hwell (.inl ⟨rfl, rfl⟩), if_pos ⟨hdue, hwide⟩, hwidth]
  rfl

end ClassList.Pipeline
