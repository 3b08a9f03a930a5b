import ClassList.Collation.Excerpt
import ClassList.Proofs.Transform

/-! Canonical order when the oracle fails: without a text for an answer a group stays as it is, and the
other groups follow their own answers. An oracle that never answers with a text leaves the unsorted
call. -/

namespace ClassList

/-- An oracle that never answers with a text: each time it fails, or it returns another value. -/
def Oracle.Fails (oracle : Oracle) : Prop :=
  ∀ earlier question, (oracle.answer earlier question).text.toOption = none

/-- Whatever is asked, the process is not found, does not answer in time, fails or has no result at all. -/
def Launcher.Fails (launch : Launcher) : Prop :=
  ∀ earlier invocation output, launch earlier invocation ≠ .finished output

theorem ExternalSorter.oracle_fails {launch : Launcher} (h : launch.Fails) (sorter : ExternalSorter) :
    (sorter.oracle launch).Fails := by
  intro earlier question
  have hlaunch := h (earlier.map sorter.invocation) (sorter.invocation question)
  simp only [oracle, sorted]
  cases hresult : launch (earlier.map sorter.invocation) (sorter.invocation question) with
  | notFound => rfl
  | timedOut => rfl
  | failed complaint => rfl
  | stopped reason => rfl
  | finished output => exact absurd hresult (hlaunch output)

/-- Groups that are put to an oracle one after the other, after earlier questions. A group without a
text for an answer keeps its classes as they are. Any other group is sorted as by an oracle that has
only this answer. -/
inductive Consultation (oracle : Oracle) : List Text → List Group → List (List Token) → Prop
  | nil {earlier} : Consultation oracle earlier [] []
  | failed {earlier group groups lists reason} :
      (oracle.answer earlier (group.classString none)).text = .error reason →
      Consultation oracle (earlier ++ [group.classString none]) groups lists →
      Consultation oracle earlier (group :: groups) (group.classes :: lists)
  | answered {earlier group groups lists names} :
      (oracle.answer earlier (group.classString none)).text = .ok names →
      Consultation oracle (earlier ++ [group.classString none]) groups lists →
      Consultation oracle earlier (group :: groups)
        ((Order.sortCanonical (some (.ofFunction fun _ => .value (.text names)))
          group.classes {}).1 :: lists)

namespace Pipeline

section Canonical

variable {p : Pipeline} (horder : p.options.order = .canonical) {oracle : Oracle}
  (horacle : p.oracle = some oracle)
include horder horacle

theorem sorted_of_error {earlier : List Text} {g : Group} {reason : Text}
    (h : (oracle.answer earlier (g.classString none)).text = .error reason) :
    p.sorted g earlier = g.classes := by
  have hnames : Order.names? (some oracle) earlier g.classes = none :=
    congrArg (fun result => result.toOption.map Text.words) h
  rw [sorted, horder, horacle, hnames]
  rfl

theorem sorted_of_ok {earlier : List Text} {g : Group} {names : Text}
    (h : (oracle.answer earlier (g.classString none)).text = .ok names) :
    p.sorted g earlier =
      (Order.sortCanonical (some (.ofFunction fun _ => .value (.text names))) g.classes {}).1 := by
  have hnames : Order.names? (some oracle) earlier g.classes = some (Text.words names) :=
    congrArg (fun result => result.toOption.map Text.words) h
  rw [sorted, horder, horacle, hnames, (Order.sortCanonical_some ..).1]
  rfl

theorem questions_eq (g : Group) : p.questions g = [g.classString none] := by
  rw [questions, Order.questions, horder, horacle]
  rfl

/-- Sorting the groups puts them to the oracle in turn. -/
theorem consultation_arranged (earlier : List Text) (groups : List Group) :
    Consultation oracle earlier groups (p.arranged earlier groups) := by
  -- The questions so far vary in the induction: each group is asked about after those before it.
  induction groups generalizing earlier with
  | nil => exact .nil
  | cons g rest ih =>
    have hrest := ih (earlier ++ [g.classString none])
    rw [arranged, threaded, questions_eq horder horacle]
    cases hanswer : (oracle.answer earlier (g.classString none)).text with
    | error reason =>
      rw [sorted_of_error horder horacle hanswer]
      exact .failed hanswer hrest
    | ok names =>
      rw [sorted_of_ok horder horacle hanswer]
      exact .answered hanswer hrest

theorem arranged_of_fails (h : oracle.Fails) (earlier : List Text) (groups : List Group) :
    p.arranged earlier groups = groups.map Group.classes := by
  refine threaded_eq_map (fun g _ earlier => ?_) earlier
  cases hanswer : (oracle.answer earlier (g.classString none)).text with
  | error reason => exact sorted_of_error horder horacle hanswer
  | ok names =>
    have hnone := h earlier (g.classString none)
    rw [hanswer] at hnone
    cases hnone

end Canonical

theorem arranged_unsorted {p : Pipeline} (horder : p.options.order = .unsorted)
    (earlier : List Text) (groups : List Group) :
    p.arranged earlier groups = groups.map Group.classes := by
  refine threaded_eq_map (fun g _ earlier => ?_) earlier
  rw [sorted, horder]
  rfl

/-- In canonical order, a pipeline of accepted options asks the oracle that it is given, else the
external sorter. If that never answers with a text, as an external sorter does not whose process is not
found, times out or fails, then every class string is transformed as by the same options without an
order. Whatever it answers, a call shows the groups as the oracle was consulted about them: a group
whose question failed keeps its classes as they are, and any other follows its own answer. -/
theorem transform_degrades {o : Options} (ho : o.Accepted) (horder : o.order = .canonical)
    (oracle : Option Oracle) (collator : Collator) (launch : Launcher) :
    ∃ p q used, ofOptions o oracle collator launch = .ok p ∧
      ofOptions { o with order := .unsorted } oracle collator launch = .ok q ∧
      used = oracle.getD (ExternalSorter.oracle {} launch) ∧
      (∀ sorter launch', used = ExternalSorter.oracle sorter launch' → launch'.Fails → used.Fails) ∧
      (used.Fails → ∀ threshold classString trace,
        (p.transform threshold classString).result trace =
          (q.transform threshold classString).result trace) ∧
      ∀ threshold classString trace g call,
        (p.transform threshold classString).result trace = .ok (.transformed g call) →
          ∃ lists, Consultation used trace.questions g.nonEmpty lists ∧
            call = o.style.call (g.nonEmpty.zip (lists.map joinOriginals)) := by
  have hrules : ({ o with order := .unsorted } : Options).rules.Valid := ho.rules_valid
  obtain ⟨p, hp, rfl, hclassifier, hwell⟩ :=
    ofOptions_eq_ok ho.rules_valid oracle collator launch
  obtain ⟨q, hq, hoptions, hclassifier', hwell'⟩ := ofOptions_eq_ok hrules oracle collator launch
  have hused : p.oracle = some (oracle.getD (ExternalSorter.oracle {} launch)) := by
    rw [ofOptions_eq ho.rules_valid] at hp
    rw [← congrArg Pipeline.oracle (Except.ok.inj hp)]
    cases oracle with
    | none => exact if_pos horder
    | some oracle => rfl
  refine ⟨p, q, _, hp, hq, rfl, ?_, ?_, ?_⟩
  · rintro sorter launch' hsorter hfails
    rw [hsorter]
    exact ExternalSorter.oracle_fails hfails sorter
  · intro hfails threshold classString trace
    have hgrouping : p.grouping classString = q.grouping classString := by
      rw [grouping, grouping, hclassifier, hclassifier']
      rfl
    have hunsorted : q.options.order = .unsorted := congrArg Options.order hoptions
    have hstyle : p.options.style = q.options.style := (congrArg Options.style hoptions).symm
    refine transform_congr hwell hwell' (fun n => ?_) (by rw [hstyle]) hgrouping ?_ threshold
    · rw [hoptions]
    · rw [hgrouping, callOf, callOf, arranged_of_fails horder hused hfails,
        arranged_unsorted hunsorted, hstyle]
  · intro threshold classString trace g call hresult
    obtain ⟨-, -, rfl, rfl⟩ := (transformed_iff hwell).mp hresult
    exact ⟨_, consultation_arranged horder hused trace.questions _, rfl⟩

/-- An external sorter that is late for the first group alone, and one that is not there at all. -/
theorem transform_degrades_late :
    let raw : Value := .object [
      (.text "groupOrder", .list [.text "Size", .text "Rest"]),
      (.text "mapping", .object [
        (.text "Size", .list [.text "w-*", .text "h-*"]), (.text "Rest", .list [])]),
      (.text "fallbackGroup", .text "Rest"), (.text "order", .text "official")]
    let late : Launcher := fun earlier _ =>
      if earlier.isEmpty then .timedOut else .finished "grid new flex\n"
    let missing : Launcher := fun _ _ => .notFound
    let classString : Text := "w-4 flex h-1 grid"
    let call : Text := "clsx(\n  // Size\n  \"w-4 h-1\",\n  // Rest\n  \"grid flex\"\n)"
    ∃ o g lists, (Options.read raw).result {} = .ok o ∧ o.order = .canonical ∧
      (∃ p, ofOptions o none .excerpt late = .ok p ∧
        (p.transform .null classString).result {} = .ok (.transformed g call) ∧
        Consultation (ExternalSorter.oracle {} late) [] g.nonEmpty lists ∧
        call = o.style.call (g.nonEmpty.zip (lists.map joinOriginals))) ∧
      ∃ p q, ofOptions o none .excerpt missing = .ok p ∧
        ofOptions { o with order := .unsorted } none .excerpt missing = .ok q ∧ missing.Fails ∧
        (p.transform .null classString).result {} = (q.transform .null classString).result {} := by
  intro raw late missing classString call
  have hrun : ((Options.read raw).result {} >>= fun o =>
      ofOptions o none .excerpt late >>= fun p =>
        (p.transform .null classString).result {} >>= fun outcome =>
          .ok (o.order, outcome.call?)).toOption = some (.canonical, some call) := by
    decide +kernel
  rw [toOption_eq_some_iff, bind_eq_ok_iff] at hrun
  obtain ⟨o, ho, hrun⟩ := hrun
  obtain ⟨p, hp, hrun⟩ := bind_eq_ok_iff.mp hrun
  obtain ⟨outcome, houtcome, hrun⟩ := bind_eq_ok_iff.mp hrun
  obtain ⟨horder, hcall⟩ := Prod.mk.inj (Except.ok.inj hrun)
  obtain ⟨g, rfl⟩ := Outcome.call?_eq_some_iff.mp hcall
  obtain ⟨p', -, used, hp', -, rfl, -, -, hconsulted⟩ :=
    transform_degrades ⟨raw, {}, ho⟩ horder none .excerpt late
  obtain rfl : p = p' := Except.ok.inj (hp.symm.trans hp')
  obtain ⟨lists, hlists, hshown⟩ := hconsulted .null _ {} g _ houtcome
  obtain ⟨r, q, used, hr, hq, rfl, hsorter, hdegrades, -⟩ :=
    transform_degrades ⟨raw, {}, ho⟩ horder none .excerpt missing
  have hmissing : missing.Fails := by
    intro earlier invocation output hresult
    cases hresult
  exact ⟨o, g, lists, ho, horder, ⟨p, hp, houtcome, hlists, hshown⟩,
    r, q, hr, hq, hmissing, hdegrades (hsorter {} missing rfl hmissing) .null _ {}⟩

end Pipeline

end ClassList
