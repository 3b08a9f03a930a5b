import Mathlib.Data.List.Dedup
import ClassList.Collation.Excerpt
import ClassList.Proofs.Number
import ClassList.Proofs.Transform

/-! When a class string comes out as a call, and what its grouping depends on: the number of different
names decides whether there is a call, and the groups of the options alone decide the grouping. A call under
a width that is no index is an error in place of all that. -/

namespace ClassList

theorem deduplicate_perm_dedup (names : List Text) : (deduplicate names).Perm names.dedup := by
  refine (List.perm_ext_iff_of_nodup (nodup_distinct names) (List.nodup_dedup names)).mpr ?_
  intro name
  rw [List.mem_dedup, mem_distinct]

theorem tokensOf_perm_dedup (classString : Text) :
    (tokensOf classString).Perm ((splitNames classString).dedup.map Token.ofText) :=
  (deduplicate_perm_dedup _).map Token.ofText

theorem length_tokensOf (classString : Text) :
    (tokensOf classString).length = (splitNames classString).dedup.length := by
  rw [(tokensOf_perm_dedup classString).length_eq, List.length_map]

theorem tokensOf_eq_nil_iff_blank {classString : Text} :
    tokensOf classString = [] ↔ ∀ c ∈ classString, Text.isBlank c = true :=
  tokensOf_eq_nil_iff.trans Text.words_eq_nil_iff

namespace Number

/-- A number is at most a count just when it has a value, and the value is at most the count. -/
theorem le_natCast_iff {limit : Number} {n : Nat} :
    limit.le (.int n) = true ↔ ∃ x, limit.value? = some x ∧ x ≤ ((n : ℚ) : WithTop ℚ) := by
  rw [le_iff_value]
  constructor
  · rintro ⟨x, y, hx, hy, hle⟩
    cases hy
    exact ⟨x, hx, by simpa using hle⟩
  · rintro ⟨x, hx, hle⟩
    exact ⟨x, _, hx, rfl, by simpa using hle⟩

end Number

/-- What is delivered of a transformation under options: all of it, or an error in its place if it holds a call
whose indentation no text can have. -/
def Options.deliver (o : Options) (t : Transformation) : Except Failure Transformation :=
  if t.outcome.shouldTransform = true ∧ Text.largestIndex < o.indentWidth then
    .error (.notIndex o.indentWidth)
  else .ok t

theorem Options.eq_of_deliver_eq_ok {o : Options} {t u : Transformation} (h : o.deliver t = .ok u) :
    t = u := by
  unfold deliver at h
  split at h
  · cases h
  · exact Except.ok.inj h

namespace Pipeline

theorem transformation_result (p : Pipeline) (threshold : Value) (classString : Text)
    (trace : Trace) :
    (p.transformation threshold classString).result trace =
      ((p.transform threshold classString).result trace).map (Transformation.mk classString) := by
  rw [transformation, Job.result_bind]
  cases (p.transform threshold classString).result trace <;> rfl

theorem transformation_of_inForce {p : Pipeline} (h : p.classifier.WellFormed) {threshold : Value}
    {limit : Number} (hlimit : p.options.InForce threshold limit) (classString : Text)
    (trace : Trace) :
    (p.transformation threshold classString).result trace =
      p.options.deliver ⟨classString, p.outcomeOf trace.questions limit classString⟩ := by
  rw [transformation_result, transform_of_inForce h hlimit, Options.deliver,
    shouldTransform_outcomeOf]
  split <;> rfl

/-- A pipeline of accepted options hands back every class string as it is. Without anything but blanks
there is no grouping and no call. Otherwise a call comes out just when the threshold in force is at most
the number of different names, compared by exact values, and the grouping holds each name once. The
grouping is the same for all options with the same groups, whatever the oracle and the threshold. A call
whose indentation no text can have is the one thing that is not delivered. -/
theorem transformation_decided {o : Options} (ho : o.Accepted) (oracle : Option Oracle)
    (collator : Collator) (launch : Launcher) :
    ∃ p, ofOptions o oracle collator launch = .ok p ∧
      ∀ threshold limit, o.InForce threshold limit → ∀ classString trace, ∃ t,
        (p.transformation threshold classString).result trace = o.deliver t ∧
        t.original = classString ∧
        (t.outcome.grouping? = none ↔ ∀ c ∈ classString, Text.isBlank c = true) ∧
        (t.outcome.grouping? = none →
          t.outcome.shouldTransform = false ∧ t.outcome.call? = none) ∧
        t.outcome.call?.isSome = t.outcome.shouldTransform ∧
        (∀ g, t.outcome.grouping? = some g →
          (t.outcome.shouldTransform = true ↔ ∃ x, limit.value? = some x ∧
            x ≤ (((splitNames classString).dedup.length : ℚ) : WithTop ℚ)) ∧
          g.allClasses.Perm ((splitNames classString).dedup.map Token.ofText)) ∧
        ∀ o' : Options, o'.rules = o.rules → ∀ oracle' collator' launch', ∃ p',
          ofOptions o' oracle' collator' launch' = .ok p' ∧
          ∀ threshold' limit', o'.InForce threshold' limit' → ∀ trace', ∃ t',
            (p'.transformation threshold' classString).result trace' = o'.deliver t' ∧
            t'.outcome.grouping? = t.outcome.grouping? := by
  obtain ⟨p, hp, rfl, hclassifier, hwell⟩ :=
    ofOptions_eq_ok ho.rules_valid oracle collator launch
  refine ⟨p, hp, fun threshold limit hlimit classString trace =>
    ⟨⟨classString, p.outcomeOf trace.questions limit classString⟩,
      transformation_of_inForce hwell hlimit .., rfl, ?_, ?_, rfl, ?_, ?_⟩⟩
  · rw [grouping?_outcomeOf_eq_none_iff, tokensOf_eq_nil_iff_blank]
  · intro hnone
    rw [outcomeOf, if_pos ((grouping?_outcomeOf_eq_none_iff ..).mp hnone)]
    exact ⟨rfl, rfl⟩
  · intro g hg
    obtain ⟨hne, rfl⟩ := (grouping?_outcomeOf_eq_some_iff ..).mp hg
    constructor
    · rw [shouldTransform_outcomeOf, isDue, Bool.and_eq_true, decide_eq_true_iff,
        and_iff_right hne, length_tokensOf, Number.le_natCast_iff]
    · exact (hwell.allClasses_perm _).trans (tokensOf_perm_dedup classString)
  · intro o' hrules oracle' collator' launch'
    obtain ⟨p', hp', rfl, hclassifier', hwell'⟩ :=
      ofOptions_eq_ok (hrules ▸ ho.rules_valid) oracle' collator' launch'
    refine ⟨p', hp', fun threshold' limit' hlimit' trace' =>
      ⟨⟨classString, p'.outcomeOf trace'.questions limit' classString⟩,
        transformation_of_inForce hwell' hlimit' .., ?_⟩⟩
    rw [grouping?_outcomeOf, grouping?_outcomeOf, grouping, grouping, hclassifier, hclassifier',
      hrules]

/-- A threshold of zero is in force against that of the options. Other options with the same groups have
a threshold between two numbers, which is too much for the two names. -/
theorem transformation_decided_zero :
    let raw (threshold : Value) (order : Text) : Value := .object [
      (.text "groupOrder", .list [.text "Rest", .text "Size"]),
      (.text "mapping", .object [(.text "Size", .list [.text "w-*"]), (.text "Rest", .list [])]),
      (.text "fallbackGroup", .text "Rest"), (.text "threshold", threshold),
      (.text "order", .text order)]
    let half : Number := .float (.finite false (5 * 2 ^ 50) (-51))
    let launch : Launcher := fun _ _ => .timedOut
    let classString : Text := " w-4 flex\tw-4"
    let shown : Text := "clsx(\n  // Rest\n  \"flex\",\n  // Size\n  \"w-4\"\n)"
    let g : Grouping := ⟨[⟨"Rest", [Token.ofText "flex"]⟩, ⟨"Size", [Token.ofText "w-4"]⟩]⟩
    ∃ o o' p p', (Options.read (raw (.int 5) "official")).result {} = .ok o ∧
      (Options.read (raw half.toValue "none")).result {} = .ok o' ∧ o'.rules = o.rules ∧
      ofOptions o none .excerpt launch = .ok p ∧ ofOptions o' none .excerpt launch = .ok p' ∧
      (p.transformation (.int 0) classString).result {} =
        .ok ⟨classString, .transformed g shown⟩ ∧
      (p'.transformation .null classString).result {} = .ok ⟨classString, .belowThreshold g⟩ ∧
      g.allClasses.Perm ((splitNames classString).dedup.map Token.ofText) ∧
      ¬∃ x, half.value? = some x ∧
        x ≤ (((splitNames classString).dedup.length : ℚ) : WithTop ℚ) := by
  intro raw half launch classString shown g
  have hrun : ((Options.read (raw (.int 5) "official")).result {} >>= fun o =>
      (Options.read (raw half.toValue "none")).result {} >>= fun o' =>
        ofOptions o none .excerpt launch >>= fun p => ofOptions o' none .excerpt launch >>= fun p' =>
          (p.transformation (.int 0) classString).result {} >>= fun t =>
            (p'.transformation .null classString).result {} >>= fun t' =>
              .ok (decide (o'.rules = o.rules), decide (o'.threshold = half), t, t')).toOption =
      some (true, true, ⟨classString, .transformed g shown⟩, ⟨classString, .belowThreshold g⟩) := by
    decide +kernel
  obtain ⟨o, ho, hrun⟩ := bind_eq_ok_iff.mp (toOption_eq_some_iff.mp hrun)
  obtain ⟨o', ho', hrun⟩ := bind_eq_ok_iff.mp hrun
  obtain ⟨p, hp, hrun⟩ := bind_eq_ok_iff.mp hrun
  obtain ⟨p', hp', hrun⟩ := bind_eq_ok_iff.mp hrun
  obtain ⟨t, ht, hrun⟩ := bind_eq_ok_iff.mp hrun
  obtain ⟨t', ht', hrun⟩ := bind_eq_ok_iff.mp hrun
  simp only [Except.ok.injEq, Prod.mk.injEq, decide_eq_true_eq] at hrun
  obtain ⟨hrules, hhalf, rfl, rfl⟩ := hrun
  obtain ⟨q, hq, hdecided⟩ := transformation_decided ⟨_, {}, ho⟩ none .excerpt launch
  obtain rfl : p = q := Except.ok.inj (hp.symm.trans hq)
  obtain ⟨q', hq', hdecided'⟩ := transformation_decided ⟨_, {}, ho'⟩ none .excerpt launch
  obtain rfl : p' = q' := Except.ok.inj (hp'.symm.trans hq')
  obtain ⟨t, ht₂, -, -, -, -, hshown, -⟩ := hdecided (.int 0) (.int 0) (.inr rfl) classString {}
  obtain rfl := Options.eq_of_deliver_eq_ok (ht₂.symm.trans ht)
  obtain ⟨t', ht₂', -, -, -, -, hhidden, -⟩ :=
    hdecided' .null half (.inl ⟨rfl, hhalf.symm⟩) classString {}
  obtain rfl := Options.eq_of_deliver_eq_ok (ht₂'.symm.trans ht')
  have hbelow := (hhidden g rfl).1
  exact ⟨o, o', p, p', ho, ho', hrules, hp, hp', ht, ht', (hshown g rfl).2,
    fun h => by cases hbelow.mpr h⟩

/-- Options that differ in the width of the indentation alone: under the one the classes are grouped, and under
the other, which is accepted too, there is no grouping at all. -/
theorem wide_transformation_fails :
    let raw (width : Int) : Value := .object [
      (.text "indentWidth", .int width), (.text "groupOrder", .list [.text "Rest"]),
      (.text "mapping", .object [(.text "Rest", .list [])]), (.text "fallbackGroup", .text "Rest")]
    let launch : Launcher := fun _ _ => .notFound
    let classString : Text := "flex p-4"
    let shown : Text := "clsx(\n  // Rest\n  \"flex p-4\"\n)"
    let g : Grouping := ⟨[⟨"Rest", [Token.ofText "flex", Token.ofText "p-4"]⟩]⟩
    ∃ o p p', let o' := { o with indentWidth := 9223372036854775808 }
      (Options.read (raw 2)).result {} = .ok o ∧
      (Options.read (raw 9223372036854775808)).result {} = .ok o' ∧
      ofOptions o none .excerpt launch = .ok p ∧ ofOptions o' none .excerpt launch = .ok p' ∧
      (p.transformation .null classString).result {} = .ok ⟨classString, .transformed g shown⟩ ∧
      (p'.transformation .null classString).result {} = .error (.notIndex 9223372036854775808) := by
  intro raw launch classString shown g
  have hrun : ((Options.read (raw 2)).result {} >>= fun o =>
      (Options.read (raw 9223372036854775808)).result {} >>= fun o' =>
        ofOptions o none .excerpt launch >>= fun p =>
          (p.transformation .null classString).result {} >>= fun t =>
            .ok (decide (o' = { o with indentWidth := 9223372036854775808 }),
              decide (o.threshold = .int 0), t)).toOption =
      some (true, true, ⟨classString, .transformed g shown⟩) := by
    decide +kernel
  obtain ⟨o, ho, hrun⟩ := bind_eq_ok_iff.mp (toOption_eq_some_iff.mp hrun)
  obtain ⟨o', ho', hrun⟩ := bind_eq_ok_iff.mp hrun
  obtain ⟨p, hp, hrun⟩ := bind_eq_ok_iff.mp hrun
  obtain ⟨t, ht, hrun⟩ := bind_eq_ok_iff.mp hrun
  simp only [Except.ok.injEq, Prod.mk.injEq, decide_eq_true_eq] at hrun
  obtain ⟨rfl, hzero, rfl⟩ := hrun
  obtain ⟨p', hp', hoptions, -, hwell⟩ :=
    ofOptions_eq_ok (Options.Accepted.rules_valid ⟨_, {}, ho'⟩) none .excerpt launch
  have hlimit : p'.options.InForce .null (.int 0) := .inl ⟨rfl, by rw [hoptions, hzero]⟩
  have hdue : (p'.outcomeOf [] (.int 0) classString).shouldTransform = true := by
    rw [shouldTransform_outcomeOf]
    decide
  have hwide : Text.largestIndex < (9223372036854775808 : Nat) := by decide
  refine ⟨o, p, p', ho, ho', hp, hp', ht, ?_⟩
  rw [transformation_of_inForce hwell hlimit, hoptions]
  exact if_pos ⟨hdue, hwide⟩

end Pipeline

end ClassList
