import ClassList.Collation.Excerpt
import ClassList.Proofs.Decoding
import ClassList.Proofs.Options.Checks

/-! The name of the function around a call: which texts are read as one, and the first line of the calls
that they open. -/

namespace ClassList

namespace Text

/-- The part of a text in front of the first character that ends a line of code. -/
def firstLine (s : Text) : Text := s.takeWhile (· ∉ Literal.lineTerminators)

/-- A text without blanks stays on its line, since all that ends a line is blank. -/
theorem firstLine_append {line : Text} (h : Unbroken line) (rest : Text) :
    firstLine (line ++ '\n' :: rest) = line := by
  have hline : ∀ c ∈ line, decide (c ∉ Literal.lineTerminators) = true := by
    intro c hc
    refine decide_eq_true fun hend => ?_
    have hblank := Literal.isBlank_of_mem_lineTerminators hend
    rw [h c hc] at hblank
    cases hblank
  rw [firstLine, List.takeWhile_append_of_pos hline, List.takeWhile_cons_of_neg (by decide),
    List.append_nil]

end Text

/-- The first line of a call is the name and the opening parenthesis. It is the name alone if a line
feed stands between the two. -/
def Opens (utilityFunction call : Text) : Prop :=
  ∃ name ∈ functionNames, (utilityFunction = name ∧ call.firstLine = name ++ "(") ∨
    (utilityFunction = name ++ "\n" ∧ call.firstLine = name)

theorem Style.exists_call_eq (style : Style) (shown : List (Group × Text)) :
    ∃ rest, style.call shown = style.utilityFunction ++ '(' :: '\n' :: rest :=
  ⟨List.intercalate "\n" (style.lines 1 shown) ++ "\n" ++
    Text.spaces (style.indentWidth - 2).toNat ++ ")", by simp [call]⟩

theorem Style.opens_call (style : Style) (h : isFunctionName style.utilityFunction = true)
    (shown : List (Group × Text)) : Opens style.utilityFunction (style.call shown) := by
  obtain ⟨name, hname, hstyle⟩ := isFunctionName_iff.mp h
  obtain ⟨rest, hcall⟩ := style.exists_call_eq shown
  have hunbroken := unbroken_of_mem_functionNames hname
  rw [hcall]
  refine ⟨name, hname, ?_⟩
  rcases hstyle with hstyle | hstyle
  · have hline : Text.Unbroken (name ++ "(") :=
      List.forall_mem_append.mpr ⟨hunbroken, List.forall_mem_singleton.mpr rfl⟩
    refine .inl ⟨hstyle, ?_⟩
    rw [hstyle, List.append_cons]
    exact Text.firstLine_append hline _
  · refine .inr ⟨hstyle, ?_⟩
    rw [hstyle, List.append_assoc]
    exact Text.firstLine_append hunbroken _

/-- What is rendered of a grouping with classes is a call, whatever sorts its groups. -/
theorem Grouping.render_eq_call {style : Style} {sorter : Option Sorter} {g : Grouping}
    (hne : g.nonEmpty ≠ []) {trace : Trace} {call : Text}
    (h : (g.render style sorter).result trace = .ok call) : ∃ shown, call = style.call shown := by
  rw [render_of_nonEmpty hne, Job.result_bind] at h
  obtain ⟨-, -, h⟩ := bind_eq_ok_iff.mp h
  rw [Job.result_bind] at h
  obtain ⟨strings, -, h⟩ := bind_eq_ok_iff.mp h
  cases h
  exact ⟨_, rfl⟩

/-- The call that comes out of a run from no earlier trace, read off the run as a whole. -/
theorem Pipeline.exists_transformed (o : Options) (launch : Launcher) (classString call : Text)
    (h : (ofOptions o none .excerpt launch >>= fun p => (p.transform .null classString).result {}
      >>= fun outcome => .ok outcome.call?).toOption = some (some call)) :
    ∃ p g, ofOptions o none .excerpt launch = .ok p ∧
      (p.transform .null classString).result {} = .ok (.transformed g call) := by
  obtain ⟨p, hp, h⟩ := bind_eq_ok_iff.mp (toOption_eq_some_iff.mp h)
  obtain ⟨outcome, houtcome, h⟩ := bind_eq_ok_iff.mp h
  obtain ⟨g, rfl⟩ := Outcome.call?_eq_some_iff.mp (Except.ok.inj h)
  exact ⟨p, g, hp, houtcome⟩

namespace Options

/-- Options that give the name alone. No other check fails, since every default passes its own. -/
theorem read_result_utilityFunction (u : Text) (trace : Trace) :
    (read (.object [(.text "utilityFunction", .text u)])).result trace =
      if isFunctionName u then .ok { byDefault with utilityFunction := u }
      else .error (.configuration (.invalidFunctionName (.text u))) := by
  have hgiven : ofGiven [(.utilityFunction, .text u)] =
      Failure.ofConfig (readUtilityFunction (.text u)) >>= fun u =>
        .ok { byDefault with utilityFunction := u } := by rfl
  rw [read_result]
  refine hgiven.trans ?_
  rw [readUtilityFunction]
  split <;> rfl

theorem Accepted.isFunctionName {o : Options} (h : o.Accepted) :
    isFunctionName o.utilityFunction = true := by
  obtain ⟨given, hchecked⟩ := h.checked
  exact (readUtilityFunction_eq_ok_iff.mp hchecked.utilityFunction).2

/-- A text is accepted as the name of a function if it is one, apart from a line feed behind it, and
else it is named in the failure. No name holds a blank. The first line of every call under an accepted
name is the name and the opening parenthesis, but after a line feed the parenthesis is on the next. -/
theorem read_utilityFunction (u : Text) :
    (∀ trace o, (read (.object [(.text "utilityFunction", .text u)])).result trace = .ok o ↔
        (∃ name ∈ functionNames, u = name ∨ u = name ++ "\n") ∧
          o = { byDefault with utilityFunction := u }) ∧
      (∀ trace f, (read (.object [(.text "utilityFunction", .text u)])).result trace = .error f ↔
        (∀ name ∈ functionNames, u ≠ name ∧ u ≠ name ++ "\n") ∧
          f = .configuration (.invalidFunctionName (.text u))) ∧
      (u ∈ functionNames → u.Unbroken) ∧
      ∀ o : Options, o.Accepted → o.utilityFunction = u →
        (∀ sorter (g : Grouping), g.nonEmpty ≠ [] → ∀ trace call,
          (g.render o.style sorter).result trace = .ok call → Opens u call) ∧
        ∀ oracle collator launch, ∃ p, Pipeline.ofOptions o oracle collator launch = .ok p ∧
          ∀ threshold classString trace g call,
            (p.transform threshold classString).result trace = .ok (.transformed g call) →
              Opens u call := by
  have hname : (∃ name ∈ functionNames, u = name ∨ u = name ++ "\n") ↔ isFunctionName u = true :=
    isFunctionName_iff.symm
  have hother : (∀ name ∈ functionNames, u ≠ name ∧ u ≠ name ++ "\n") ↔ ¬isFunctionName u = true := by
    simp only [← hname, not_exists, not_and, not_or]
  refine ⟨fun trace o => ?_, fun trace f => ?_, unbroken_of_mem_functionNames, ?_⟩
  · rw [hname, read_result_utilityFunction]
    split
    · simp [*, eq_comm]
    · simp [*]
  · rw [hother, read_result_utilityFunction]
    split
    · simp [*]
    · simp [*, eq_comm]
  · rintro o ho rfl
    refine ⟨fun sorter g hne trace call hcall => ?_, fun oracle collator launch => ?_⟩
    · obtain ⟨shown, rfl⟩ := Grouping.render_eq_call hne hcall
      exact Style.opens_call o.style ho.isFunctionName shown
    · obtain ⟨p, hp, rfl, -, hwell⟩ :=
        Pipeline.ofOptions_eq_ok ho.rules_valid oracle collator launch
      refine ⟨p, hp, fun threshold classString trace g call hcall => ?_⟩
      obtain ⟨-, -, -, rfl⟩ := (Pipeline.transformed_iff hwell).mp hcall
      exact Style.opens_call p.options.style ho.isFunctionName _

/-- A name with a dot, a letter that no identifier begins with, and a sign at its end. -/
theorem read_utilityFunction_dotted :
    let u : Text := "tw.größe$"
    let launch : Launcher := fun _ _ => .timedOut
    ∃ o p g call, (read (.object [(.text "utilityFunction", .text u)])).result {} = .ok o ∧
      o.utilityFunction = u ∧ u ∈ functionNames ∧ u.Unbroken ∧
      Pipeline.ofOptions o none .excerpt launch = .ok p ∧
      (p.transform .null "flex").result {} = .ok (.transformed g call) ∧ Opens u call := by
  intro u launch
  obtain ⟨hread, -, hunbroken, hcalls⟩ := read_utilityFunction u
  have hname : u ∈ functionNames := mem_functionNames.mpr (by decide +kernel)
  have ho := (hread {} _).mpr ⟨⟨u, hname, .inl rfl⟩, rfl⟩
  let call : Text := "tw.größe$(\n  // Layout\n  \"flex\"\n)"
  obtain ⟨p, g, hp, hrun⟩ := Pipeline.exists_transformed { byDefault with utilityFunction := u } launch
    "flex" call (by decide +kernel)
  obtain ⟨-, hpipeline⟩ := hcalls _ ⟨_, _, ho⟩ rfl
  obtain ⟨q, hq, hopens⟩ := hpipeline none .excerpt launch
  obtain rfl : p = q := Except.ok.inj (hp.symm.trans hq)
  exact ⟨_, p, g, _, ho, rfl, hname, hunbroken hname, hp, hrun, hopens _ _ _ _ _ hrun⟩

/-- A line feed behind a name is passed over. It then stands in front of the parenthesis of a call. -/
theorem read_utilityFunction_lineFeed :
    let u : Text := "clsx\n"
    let launch : Launcher := fun _ _ => .timedOut
    let call : Text := "clsx\n(\n  // Layout\n  \"flex\"\n)"
    u ∉ functionNames ∧ '\n' ∈ u ∧
      ∃ o p g, (read (.object [(.text "utilityFunction", .text u)])).result {} = .ok o ∧
        Pipeline.ofOptions o none .excerpt launch = .ok p ∧
        (p.transform .null "flex").result {} = .ok (.transformed g call) ∧
        call.firstLine ≠ o.utilityFunction ++ "(" := by
  intro u launch call
  have hu : '\n' ∈ u := by decide
  have ho := read_result_utilityFunction u {}
  obtain ⟨p, g, hp, hrun⟩ := Pipeline.exists_transformed { byDefault with utilityFunction := u } launch
    "flex" call (by decide +kernel)
  exact ⟨fun h => not_mem_of_mem_functionNames h hu, hu, _, p, g, ho, hp, hrun, by decide⟩

end Options

end ClassList
