import ClassList.Proofs.Classification
import ClassList.Proofs.Distinct
import ClassList.Proofs.Options
import ClassList.Proofs.Rendering

/-! The pipelines that accepted options describe, and what a pipeline makes of a class string, as a
function of the threshold and of the questions that its oracle was asked before. A call is due when there are
as many classes as the threshold asks for, and under a width that is no index it fails. -/

namespace ClassList

theorem Outcome.call?_eq_some_iff {outcome : Outcome} {call : Text} :
    outcome.call? = some call ↔ ∃ g, outcome = .transformed g call := by
  cases outcome <;> simp [call?]

namespace Options

/-- Whether a number is in force: it is the threshold that is given, or that of the options for null. -/
def InForce (o : Options) (threshold : Value) (limit : Number) : Prop :=
  (threshold = .null ∧ limit = o.threshold) ∨ threshold.number? = some limit

theorem exists_inForce (o : Options) {threshold : Value}
    (h : threshold = .null ∨ threshold.number?.isSome) : ∃ limit, o.InForce threshold limit := by
  rcases h with h | h
  · exact ⟨_, .inl ⟨h, rfl⟩⟩
  · obtain ⟨limit, hlimit⟩ := Option.isSome_iff_exists.mp h
    exact ⟨limit, .inr hlimit⟩

/-- The width of options is not negative, so it can only be too large. -/
theorem fits_style_iff {o : Options} : o.style.Fits ↔ (o.indentWidth : Int) ≤ Text.largestIndex := by
  have hle : (-9223372036854775808 : Int) ≤ o.indentWidth := by omega
  rw [Style.Fits, Text.isIndex, Bool.and_eq_true, decide_eq_true_iff, decide_eq_true_iff]
  exact and_iff_right hle

theorem checkWidth_style (o : Options) :
    o.style.checkWidth =
      if Text.largestIndex < o.indentWidth then .error (.notIndex o.indentWidth) else .ok () := by
  by_cases hwide : Text.largestIndex < o.indentWidth
  · rw [if_pos hwide]
    exact Style.checkWidth_of_not_fits fun hfits => Int.not_le.mpr hwide (fits_style_iff.mp hfits)
  · rw [if_neg hwide]
    exact Style.checkWidth_of_fits (fits_style_iff.mpr (Int.not_lt.mp hwide))

end Options

namespace Pipeline

theorem ofGroups_eq_ok {o : Options} (h : o.rules.Valid) :
    Classifier.ofGroups o.groupOrder o.mapping o.fallbackGroup =
      .ok (Classifier.ofRules o.rules) :=
  congrArg (Except.map Classifier.ofRules) h.read_eq

/-- The oracle that a pipeline asks: the one it is given, or the external sorter for canonical order. -/
def asked (o : Options) (oracle : Option Oracle) (launch : Launcher) : Option Oracle :=
  match oracle with
  | some oracle => some oracle
  | none => if o.order = .canonical then some (ExternalSorter.oracle {} launch) else none

theorem ofOptions_eq {o : Options} (h : o.rules.Valid) (oracle : Option Oracle)
    (collator : Collator) (launch : Launcher) :
    ofOptions o oracle collator launch =
      .ok ⟨o, Classifier.ofRules o.rules, asked o oracle launch, collator⟩ := by
  simp only [ofOptions, ofGroups_eq_ok h, ok_bind]
  rfl

/-- Options whose rules are valid describe a pipeline. -/
theorem ofOptions_eq_ok {o : Options} (h : o.rules.Valid) (oracle : Option Oracle)
    (collator : Collator) (launch : Launcher) :
    ∃ p, ofOptions o oracle collator launch = .ok p ∧ p.options = o ∧
      p.classifier = Classifier.ofRules o.rules ∧ p.classifier.WellFormed :=
  ⟨_, ofOptions_eq h oracle collator launch, rfl, rfl, Classifier.wellFormed_ofRules h⟩

theorem oracle_of_ofOptions {o : Options} {oracle : Oracle} {collator : Collator}
    {launch : Launcher} {p : Pipeline} (h : ofOptions o (some oracle) collator launch = .ok p) :
    p.oracle = some oracle := by
  obtain ⟨_, _, h⟩ := bind_eq_ok_iff.mp h
  cases h
  rfl

theorem number?_toValue (n : Number) : n.toValue.number? = some n := by
  cases n <;> rfl

theorem number?_of_inForce {p : Pipeline} {threshold : Value} {limit : Number}
    (h : p.options.InForce threshold limit) : (p.threshold threshold).number? = some limit := by
  rcases h with ⟨rfl, rfl⟩ | h
  · exact number?_toValue _
  · cases threshold with
    | null => cases h
    | _ => exact h

/-- The groups of the classes of a class string. -/
def grouping (p : Pipeline) (classString : Text) : Grouping :=
  p.classifier.partition (tokensOf classString)

/-- Whether a call is due: there are classes, and as many as the limit asks for. -/
def isDue (limit : Number) (classString : Text) : Bool :=
  decide (tokensOf classString ≠ []) && limit.le (.int (tokensOf classString).length)

/-- What becomes of a class string when a limit is in force, after earlier questions, if the call that may be
due can be laid out. -/
def outcomeOf (p : Pipeline) (earlier : List Text) (limit : Number) (classString : Text) : Outcome :=
  if tokensOf classString = [] then .noClasses
  else if limit.le (.int (tokensOf classString).length) then
    .transformed (p.grouping classString) (p.callOf earlier (p.grouping classString))
  else .belowThreshold (p.grouping classString)

section

variable (p : Pipeline) (earlier : List Text) (limit : Number) (classString : Text)

theorem grouping?_outcomeOf :
    (p.outcomeOf earlier limit classString).grouping? =
      if tokensOf classString = [] then none else some (p.grouping classString) := by
  unfold outcomeOf
  split
  · rfl
  · split <;> rfl

theorem grouping?_outcomeOf_eq_none_iff :
    (p.outcomeOf earlier limit classString).grouping? = none ↔ tokensOf classString = [] := by
  rw [grouping?_outcomeOf]
  split <;> simp [*]

theorem grouping?_outcomeOf_eq_some_iff {g : Grouping} :
    (p.outcomeOf earlier limit classString).grouping? = some g ↔
      tokensOf classString ≠ [] ∧ p.grouping classString = g := by
  rw [grouping?_outcomeOf]
  split <;> simp [*]

theorem shouldTransform_outcomeOf :
    (p.outcomeOf earlier limit classString).shouldTransform = isDue limit classString := by
  unfold outcomeOf isDue
  by_cases hempty : tokensOf classString = []
  · simp [hempty, Outcome.shouldTransform, Outcome.call?]
  · cases hle : limit.le (.int (tokensOf classString).length) <;>
      simp [hempty, Outcome.shouldTransform, Outcome.call?]

theorem call?_outcomeOf :
    (p.outcomeOf earlier limit classString).call? =
      if (p.outcomeOf earlier limit classString).shouldTransform then
        some (p.callOf earlier (p.grouping classString))
      else none := by
  unfold outcomeOf
  split
  · rfl
  · split <;> rfl

end

section

variable {p : Pipeline} (h : p.classifier.WellFormed)
include h

theorem nonEmpty_partition_ne_nil {tokens : List Token} (hne : tokens ≠ []) :
    (p.classifier.partition tokens).nonEmpty ≠ [] := by
  intro hnil
  obtain ⟨t, ht⟩ := List.exists_mem_of_ne_nil _ hne
  obtain ⟨group, hgroup, ht⟩ := List.mem_flatMap.mp ((h.allClasses_perm tokens).mem_iff.mpr ht)
  have hshown : group ∈ (p.classifier.partition tokens).nonEmpty := by
    refine List.mem_filter.mpr ⟨hgroup, ?_⟩
    have hclasses := List.ne_nil_of_mem ht
    simpa [Group.isEmpty] using hclasses
  exact absurd (hnil ▸ hshown) List.not_mem_nil

theorem transformTokens_result (threshold : Value) {tokens : List Token} (hne : tokens ≠ [])
    (trace : Trace) :
    (p.transformTokens threshold tokens).result trace =
      match (p.threshold threshold).number? with
      | none => .error (.notOrdered (p.threshold threshold))
      | some n =>
        if n.le (.int tokens.length) then
          p.options.style.checkWidth.map fun _ => .transformed (p.classifier.partition tokens)
            (p.callOf trace.questions (p.classifier.partition tokens))
        else .ok (.belowThreshold (p.classifier.partition tokens)) := by
  have hrun : (p.classifier.run tokens).result trace = .ok (p.classifier.partition tokens) :=
    h.classify_eq tokens
  have hquestions : ((p.classifier.run tokens).after trace).questions = trace.questions := rfl
  rw [transformTokens, Job.result_bind_of_ok hrun, Job.result_bind, Job.result_ofExcept,
    Job.after_ofExcept, Grouping.meets, h.size_partition]
  cases (p.threshold threshold).number? with
  | none => rfl
  | some n =>
    cases hle : n.le (.int tokens.length) with
    | false =>
      simp only [Except.bind, hle]
      rfl
    | true =>
      have hrender := Grouping.render_result p (nonEmpty_partition_ne_nil h hne)
        ((p.classifier.run tokens).after trace)
      simp only [Except.bind, hle, if_true]
      rw [Job.result_bind, hrender, hquestions]
      cases p.options.style.checkWidth <;> rfl

/-- The result of a transformation. It depends on the trace through the questions alone. -/
theorem transform_result (threshold : Value) (classString : Text) (trace : Trace) :
    (p.transform threshold classString).result trace =
      if tokensOf classString = [] then .ok .noClasses
      else
        match (p.threshold threshold).number? with
        | none => .error (.notOrdered (p.threshold threshold))
        | some n =>
          if n.le (.int (tokensOf classString).length) then
            p.options.style.checkWidth.map fun _ => .transformed (p.grouping classString)
              (p.callOf trace.questions (p.grouping classString))
          else .ok (.belowThreshold (p.grouping classString)) := by
  by_cases hne : tokensOf classString = []
  · have hnames : (splitNames classString).isEmpty = true := by
      rw [tokensOf_eq_nil_iff.mp hne]
      rfl
    simp only [transform, hnames, if_pos hne]
    rfl
  · have hnames : (splitNames classString).isEmpty = false := by
      have hnil := fun e => hne (tokensOf_eq_nil_iff.mpr e)
      simpa using hnil
    have hgroups := transformTokens_result h threshold hne
    simp only [transform, hnames, if_neg hne, Bool.false_eq_true, if_false]
    split
    · rw [Job.result_bind, Job.result_lift]
      exact hgroups _
    · exact hgroups trace

/-- When a call comes out, and what it shows. -/
theorem transformed_iff {threshold : Value} {classString : Text} {trace : Trace} {g : Grouping}
    {call : Text} :
    (p.transform threshold classString).result trace = .ok (.transformed g call) ↔
      tokensOf classString ≠ [] ∧
        (p.options.style.Fits ∧ ∃ n, (p.threshold threshold).number? = some n ∧
          n.le (.int (tokensOf classString).length) = true) ∧
        g = p.grouping classString ∧ call = p.callOf trace.questions g := by
  rw [transform_result h]
  constructor
  · intro hresult
    split at hresult
    · cases hresult
    · rename_i hne
      cases hn : (p.threshold threshold).number? with
      | none =>
        rw [hn] at hresult
        cases hresult
      | some n =>
        simp only [hn] at hresult
        split at hresult
        · rename_i hle
          obtain ⟨_, hwidth, he⟩ := map_eq_ok_iff.mp hresult
          cases he
          exact ⟨hne, ⟨Style.fits_of_checkWidth hwidth, n, rfl, hle⟩, rfl, rfl⟩
        · cases hresult
  · rintro ⟨hne, ⟨hfits, n, hn, hle⟩, rfl, rfl⟩
    rw [if_neg hne, hn, Style.checkWidth_of_fits hfits]
    exact if_pos hle

/-- What a transformation ends with when a limit is in force: an error if a call is due whose indentation no
text can have. -/
theorem transform_of_inForce {threshold : Value} {limit : Number}
    (hlimit : p.options.InForce threshold limit) (classString : Text) (trace : Trace) :
    (p.transform threshold classString).result trace =
      if isDue limit classString = true ∧ Text.largestIndex < p.options.indentWidth then
        .error (.notIndex p.options.indentWidth)
      else .ok (p.outcomeOf trace.questions limit classString) := by
  rw [transform_result h, number?_of_inForce hlimit, Options.checkWidth_style, outcomeOf, isDue]
  by_cases hne : tokensOf classString = []
  · simp [hne]
  · by_cases hwide : Text.largestIndex < p.options.indentWidth <;>
      cases hle : limit.le (.int (tokensOf classString).length) <;> simp [hne, hwide, hle, Except.map]

theorem arranged_grouping_perm (earlier : List Text) (classString : Text) :
    (p.arranged earlier (p.grouping classString).nonEmpty).flatten.Perm (tokensOf classString) := by
  refine (p.arranged_flatten_perm earlier _).trans ?_
  rw [Grouping.flatMap_nonEmpty fun _ hempty => hempty]
  exact h.allClasses_perm _

end

/-- Pipelines that group the classes of a class string alike, show the groups alike and have thresholds
of the same value transform it alike. -/
theorem transform_congr {p q : Pipeline} (hp : p.classifier.WellFormed)
    (hq : q.classifier.WellFormed)
    (hthreshold : ∀ n, p.options.threshold.le n = q.options.threshold.le n)
    (hwidth : p.options.style.checkWidth = q.options.style.checkWidth) {classString : Text}
    (hgrouping : p.grouping classString = q.grouping classString) {trace : Trace}
    (hcall : p.callOf trace.questions (p.grouping classString) =
      q.callOf trace.questions (q.grouping classString)) (threshold : Value) :
    (p.transform threshold classString).result trace =
      (q.transform threshold classString).result trace := by
  rw [transform_result hp, transform_result hq, hcall, hgrouping, hwidth]
  cases threshold with
  | null => simp only [Pipeline.threshold, number?_toValue, hthreshold]
  | _ => rfl

end Pipeline

end ClassList
