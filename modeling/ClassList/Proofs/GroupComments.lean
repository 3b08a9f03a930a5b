import Mathlib.Data.Bool.AllAny
import ClassList.Collation.Excerpt
import ClassList.Proofs.Code
import ClassList.Proofs.FunctionNames
import ClassList.Proofs.Template

/-! Group names in comments: a call that names its groups is, without its comments and up to blank
lines, the call that does not name them. This takes names that stay inside their comments, and a name
that ends its comment leaks into the code. -/

namespace ClassList

namespace Text

/-- The lines of a text that are not blank. -/
def filledLines (s : Text) : List Text := (s.splitOn '\n').filter (!isBlankText ·)

/-- Lines, each with a line feed at its end. -/
def terminated (lines : List Text) : Text := lines.flatMap (· ++ ['\n'])

theorem filledLines_append (front back : Text) :
    filledLines (front ++ '\n' :: back) = filledLines front ++ filledLines back := by
  rw [filledLines, List.splitOn_append_cons_self, List.filter_append]
  rfl

theorem filledLines_spaces (n : Nat) : filledLines (spaces n) = [] := by
  have hline : (spaces n).splitOn '\n' = [spaces n] :=
    List.splitOn_eq_singleton fun h => absurd (List.eq_of_mem_replicate h) (by decide)
  have hblank : isBlankText (spaces n) = true :=
    List.all_eq_true.mpr fun c hc => by
      rw [List.eq_of_mem_replicate hc]
      rfl
  rw [filledLines, hline, List.filter_cons_of_neg (by simp [hblank]), List.filter_nil]

theorem intercalate_lines {lines : List Text} (h : lines ≠ []) (rest : Text) :
    List.intercalate "\n" lines ++ "\n" ++ rest = terminated lines ++ rest := by
  induction lines with
  | nil => exact absurd rfl h
  | cons line lines ih =>
    cases lines with
    | nil => simp [terminated]
    | cons next lines =>
      have hnext := ih (List.cons_ne_nil next lines)
      rw [List.intercalate_cons_cons]
      simp only [terminated, List.flatMap_cons, List.append_assoc] at hnext ⊢
      rw [hnext]
      rfl

theorem not_mem_lineTerminators_of_mem_ofInt {c : Char} {i : Int} (h : c ∈ ofInt i) :
    c ∉ Literal.lineTerminators := by
  have hends : ∀ d ∈ Literal.lineTerminators, d ≠ '-' ∧ d.isDigit = false :=
    List.all_iff_forall_prop.mp (by decide)
  intro hc
  obtain ⟨hminus, hdigit⟩ := hends c hc
  rcases eq_minus_or_isDigit_of_mem_ofInt h with h | h
  · exact hminus h
  · exact Bool.eq_false_iff.mp hdigit h

end Text

/-- Whether a name stays inside a comment of a template: it does not end one that reaches to the end
of its line, and it does not close one that reaches to a closing mark. -/
def isConfined (template name : Text) : Bool :=
  (!(['/', '/'].isPrefixOf template) || name.all (!Literal.lineTerminators.contains ·)) &&
    (!(['/', '*'].isPrefixOf template) || !Text.hasPart ['*', '/'] name)

theorem not_mem_of_isConfined {rest name : Text} (h : isConfined ('/' :: '/' :: rest) name = true) :
    ∀ c ∈ name, c ∉ Literal.lineTerminators := by
  simpa [isConfined, List.isPrefixOf] using h

theorem hasPart_of_isConfined {rest name : Text} (h : isConfined ('/' :: '*' :: rest) name = true) :
    Text.hasPart ['*', '/'] name = false := by
  simpa [isConfined, List.isPrefixOf] using h

/-- A preset comments to the end of the line, or it has the name alone between the marks of a block. -/
theorem commentPresets_shape {template : Text} (h : template ∈ commentPresets.map Prod.snd) :
    (∃ rest, template = '/' :: '/' :: rest ∧ ∀ c ∈ rest, c ∉ Literal.lineTerminators) ∨
      ∃ stars, template = '/' :: '*' :: (stars ++ ' ' :: (Placeholder.groupName.marker ++ " */")) ∧
        (stars = [] ∨ stars = ['*']) := by
  simp only [commentPresets, List.map_cons, List.map_nil, List.mem_cons, List.not_mem_nil,
    or_false] at h
  rcases h with rfl | rfl | rfl | rfl | rfl | rfl
  · exact Or.inl ⟨_, rfl, List.all_iff_forall_prop.mp (by decide)⟩
  · exact Or.inr ⟨[], rfl, Or.inl rfl⟩
  · exact Or.inr ⟨['*'], rfl, Or.inr rfl⟩
  · exact Or.inl ⟨_, rfl, List.all_iff_forall_prop.mp (by decide)⟩
  · exact Or.inl ⟨_, rfl, List.all_iff_forall_prop.mp (by decide)⟩
  · exact Or.inl ⟨_, rfl, List.all_iff_forall_prop.mp (by decide)⟩

namespace Style

variable {style : Style}

theorem stripsTo_commentLine (hpreset : style.commentTemplate ∈ commentPresets.map Prod.snd)
    {g : Group} (hname : isConfined style.commentTemplate g.name = true) (index : Nat) :
    Code.StripsTo (style.commentLine index g) (Text.spaces style.indentWidth.toNat) := by
  rw [commentLine]
  rcases commentPresets_shape hpreset with ⟨rest, htemplate, hrest⟩ | ⟨stars, htemplate, hstars⟩
  · rw [htemplate] at hname
    have hline := not_mem_of_isConfined hname
    rw [htemplate, renderComment_plain _ (by decide), renderComment_plain _ (by decide)]
    refine Code.stripsTo_lineComment (fun c hc => ?_) _
    rcases mem_renderComment _ hc with hc | ⟨p, hc⟩
    · exact hrest c hc
    · cases p with
      | groupName => exact hline c hc
      | index => exact Text.not_mem_lineTerminators_of_mem_ofInt (i := index) hc
      | count => exact Text.not_mem_lineTerminators_of_mem_ofInt (i := g.size) hc
  · rw [htemplate] at hname
    have hblock := hasPart_of_isConfined hname
    have hbody : Text.hasPart ['*', '/'] (stars ++ ' ' :: g.name) = false := by
      rcases hstars with rfl | rfl <;> simpa [Text.hasPart, List.isPrefixOf] using hblock
    have hrendered : renderComment ⟨g.name, index, g.size⟩ style.commentTemplate =
        '/' :: '*' :: ((stars ++ ' ' :: g.name) ++ [' ', '*', '/']) := by
      have hplain : ∀ c ∈ stars, c ≠ '\x7b' := by
        rcases hstars with rfl | rfl <;> exact List.all_iff_forall_prop.mp (by decide)
      rw [htemplate, renderComment_plain _ (by decide), renderComment_plain _ (by decide),
        renderComment_append _ hplain, renderComment_plain _ (by decide), renderComment_marker,
        renderComment_of_plain _ (List.all_iff_forall_prop.mp (by decide)), List.append_assoc]
      rfl
    rw [hrendered]
    exact Code.stripsTo_blockComment hbody _

theorem stripsTo_literalLine (style : Style) (last : Bool) (classString : Text) :
    Code.StripsTo (style.literalLine last classString) (style.literalLine last classString) := by
  have hcomma : ∀ c ∈ if last then [] else [','], Code.isPlain c = true := by
    cases last <;> exact List.all_eq_true.mp rfl
  exact Code.stripsTo_quote _ _ hcomma

def unnamed (style : Style) : Style := { style with showGroupNames := false }

theorem lines_ne_nil {shown : List (Group × Text)} (h : shown ≠ []) (index : Nat) :
    style.lines index shown ≠ [] := by
  cases shown with
  | nil => exact absurd rfl h
  | cons s rest => simp [lines]

theorem call_eq {shown : List (Group × Text)} (h : shown ≠ []) :
    style.call shown = (style.utilityFunction ++ ['(']) ++ '\n' ::
      (Text.terminated (style.lines 1 shown) ++
        (Text.spaces (style.indentWidth - 2).toNat ++ [')'])) := by
  rw [← Text.intercalate_lines (lines_ne_nil h 1), call]
  simp

section Names

variable (hnames : style.showGroupNames = true)
  (hpreset : style.commentTemplate ∈ commentPresets.map Prod.snd)
  {shown : List (Group × Text)}
  (hconfined : ∀ s ∈ shown, isConfined style.commentTemplate s.1.name = true)
include hnames hpreset hconfined

theorem filledLines_strip_lines (index : Nat) (rest : Text) :
    Text.filledLines (Code.strip .code (Text.terminated (style.lines index shown) ++ rest)) =
      Text.filledLines
        (Text.terminated (style.unnamed.lines index shown) ++ Code.strip .code rest) := by
  induction shown generalizing index with
  | nil => rfl
  | cons s shown ih =>
    obtain ⟨g, classString⟩ := s
    -- The comment comes down to a blank line, and the literal stays.
    have hcomment := stripsTo_commentLine hpreset (hconfined _ (List.mem_cons_self ..)) index
    have hliteral := stripsTo_literalLine style shown.isEmpty classString
    have hshown := ih (fun s hs => hconfined s (List.mem_cons_of_mem _ hs)) (index + 1)
    have hnamed : Text.terminated (style.lines index ((g, classString) :: shown)) ++ rest =
        style.commentLine index g ++ '\n' :: (style.literalLine shown.isEmpty classString ++
          '\n' :: (Text.terminated (style.lines (index + 1) shown) ++ rest)) := by
      simp [lines, hnames, Text.terminated]
    have hbare : Text.terminated (style.unnamed.lines index ((g, classString) :: shown)) ++
        Code.strip .code rest = style.literalLine shown.isEmpty classString ++
          '\n' :: (Text.terminated (style.unnamed.lines (index + 1) shown) ++
            Code.strip .code rest) := by
      simp [lines, unnamed, literalLine, Text.terminated]
    rw [hnamed, hcomment, hliteral, Text.filledLines_append, Text.filledLines_spaces,
      List.nil_append, Text.filledLines_append, hshown, ← Text.filledLines_append, hbare]

theorem filledLines_strip_call (hfunction : ∀ c ∈ style.utilityFunction, Code.isPlain c = true)
    (hshown : shown ≠ []) :
    Text.filledLines (Code.strip .code (style.call shown)) =
      Text.filledLines (style.unnamed.call shown) := by
  have hopen : ∀ c ∈ style.utilityFunction ++ ['('], Code.isPlain c = true := by
    intro c hc
    rcases List.mem_append.mp hc with hc | hc
    · exact hfunction c hc
    · rw [List.mem_singleton.mp hc]
      rfl
  have hclose : Code.strip .code (Text.spaces (style.indentWidth - 2).toNat ++ [')']) =
      Text.spaces (style.indentWidth - 2).toNat ++ [')'] :=
    Code.strip_append (fun _ => Code.isPlain_of_mem_spaces) [')']
  have hlines := filledLines_strip_lines hnames hpreset hconfined 1
    (Text.spaces (style.indentWidth - 2).toNat ++ [')'])
  rw [call_eq hshown, call_eq hshown, Code.strip_append hopen, Code.strip_plain (c := '\n') rfl,
    Text.filledLines_append, hlines, hclose, ← Text.filledLines_append]
  rfl

end Names

end Style

theorem isPlain_of_isIdentifier {s : Text} (h : isIdentifier s = true) {c : Char} (hc : c ∈ s) :
    Code.isPlain c = true := by
  have hchar := of_mem_isIdentifier h hc
  by_contra hplain
  have hopens : c = '/' ∨ c = '"' ∨ c = '\'' ∨ c = '`' := by
    grind [Code.isPlain, Code.isQuote]
  rcases hopens with rfl | rfl | rfl | rfl <;> exact absurd hchar (by decide)

theorem mem_withoutFinalLineFeed {s : Text} {c : Char} (hc : c ∈ s) :
    c ∈ withoutFinalLineFeed s ∨ c = '\n' := by
  rcases eq_withoutFinalLineFeed_or s with hline | hline
  · exact .inl (hline ▸ hc)
  · rw [hline, List.mem_append] at hc
    exact hc.imp_right List.mem_singleton.mp

/-- The characters of a function name: those of its identifiers, the dots between them and the line
feed that is passed over. -/
theorem isPlain_of_isFunctionName {s : Text} (h : isFunctionName s = true) {c : Char} (hc : c ∈ s) :
    Code.isPlain c = true := by
  rcases mem_withoutFinalLineFeed hc with hc | rfl
  · have hparts : List.intercalate ['.'] ((withoutFinalLineFeed s).splitOn '.') =
        withoutFinalLineFeed s := List.intercalate_splitOn '.'
    rw [← hparts] at hc
    rcases Text.mem_intercalate hc with hdot | ⟨part, hpart, hc⟩
    · rw [List.mem_singleton.mp hdot]
      rfl
    · exact isPlain_of_isIdentifier (List.all_eq_true.mp h part hpart) hc
  · rfl

theorem Options.Checked.isPlain_utilityFunction {given : Options.Given} {o : Options}
    (h : Options.Checked given o) : ∀ c ∈ o.utilityFunction, Code.isPlain c = true := by
  have hread := h.utilityFunction
  cases hv : given.value .utilityFunction with
  | text s =>
    rw [hv, readUtilityFunction] at hread
    split at hread
    · rename_i hname
      cases hread
      exact fun c hc => isPlain_of_isFunctionName hname hc
    · cases hread
  | _ =>
    rw [hv] at hread
    cases hread

namespace Pipeline

def unnamed (p : Pipeline) : Pipeline :=
  { p with options := { p.options with showGroupNames := false } }

theorem filledLines_strip_callOf {p : Pipeline} (hnames : p.options.showGroupNames = true)
    (hpreset : p.options.commentTemplate ∈ commentPresets.map Prod.snd)
    (hfunction : ∀ c ∈ p.options.utilityFunction, Code.isPlain c = true) {g : Grouping}
    (hg : g.nonEmpty ≠ [])
    (hconfined : ∀ group ∈ g.nonEmpty, isConfined p.options.commentTemplate group.name = true)
    (earlier : List Text) :
    Text.filledLines (Code.strip .code (p.callOf earlier g)) =
      Text.filledLines (p.unnamed.callOf earlier g) := by
  have hstyle : p.options.style.showGroupNames = true := hnames
  have htemplate : p.options.style.commentTemplate ∈ commentPresets.map Prod.snd := hpreset
  have hzip : ∀ s ∈ g.nonEmpty.zip ((p.arranged earlier g.nonEmpty).map joinOriginals),
      isConfined p.options.style.commentTemplate s.1.name = true :=
    fun s hs => hconfined s.1 (List.of_mem_zip hs).1
  refine Style.filledLines_strip_call hstyle htemplate hzip hfunction fun hnil => ?_
  have hstrings : ((p.arranged earlier g.nonEmpty).map joinOriginals).length = g.nonEmpty.length := by
    rw [List.length_map, p.length_arranged]
  rcases List.zip_eq_nil_iff.mp hnil with hnil | hnil
  · exact hg hnil
  · rw [hnil] at hstrings
    exact hg (List.length_eq_zero_iff.mp hstrings.symm)

/-- With a preset for the comments and names that stay inside them, naming the groups changes nothing
but comments: without these, the call has the lines of the call that names no groups, and blank
lines. -/
theorem transform_strip {o : Options} (ho : o.Accepted) (hnames : o.showGroupNames = true)
    (hpreset : o.commentTemplate ∈ commentPresets.map Prod.snd) (oracle : Option Oracle)
    (collator : Collator) (launch : Launcher) :
    ∃ p q, ofOptions o oracle collator launch = .ok p ∧
      ofOptions { o with showGroupNames := false } oracle collator launch = .ok q ∧
      ∀ threshold classString trace g call,
        (p.transform threshold classString).result trace = .ok (.transformed g call) →
        (∀ group ∈ g.nonEmpty, isConfined o.commentTemplate group.name = true) →
          ∃ bare, (q.transform threshold classString).result trace = .ok (.transformed g bare) ∧
            Text.filledLines (Code.strip .code call) = Text.filledLines bare := by
  obtain ⟨given, hchecked⟩ := ho.checked
  have hbare : ({ o with showGroupNames := false } : Options).rules.Valid := ho.rules_valid
  obtain ⟨p, hp, rfl, hclassifier, hwell⟩ :=
    ofOptions_eq_ok ho.rules_valid oracle collator launch
  refine ⟨p, p.unnamed, hp, ?_, ?_⟩
  · rw [ofOptions_eq ho.rules_valid] at hp
    rw [ofOptions_eq hbare, ← Except.ok.inj hp]
    rfl
  · intro threshold classString trace g call hresult hconfined
    obtain ⟨hne, hmet, rfl, rfl⟩ := (transformed_iff hwell).mp hresult
    have hgroups : (p.grouping classString).nonEmpty ≠ [] := nonEmpty_partition_ne_nil hwell hne
    have hwell : p.unnamed.classifier.WellFormed := hwell
    exact ⟨_, (transformed_iff hwell).mpr ⟨hne, hmet, rfl, rfl⟩,
      filledLines_strip_callOf hnames hpreset hchecked.isPlain_utilityFunction hgroups hconfined _⟩

/-- In a block, a name may go on in another line, look like a comment of a line or end in a star. -/
theorem transform_strip_jsdoc :
    let raw : Value := .object [
      (.text "groupOrder", .list [.text "Size\n// \"", .text "Rest*"]),
      (.text "mapping", .object [
        (.text "Size\n// \"", .list [.text "w-*"]), (.text "Rest*", .list [])]),
      (.text "fallbackGroup", .text "Rest*"), (.text "commentTemplate", .text "jsdoc")]
    let launch : Launcher := fun _ _ => .notFound
    let call : Text :=
      "clsx(\n  /** Size\n// \" */\n  \"w-4\",\n  /** Rest* */\n  \"/*\"\n)"
    let bare : Text := "clsx(\n  \"w-4\",\n  \"/*\"\n)"
    ∃ o p q g, (Options.read raw).result {} = .ok o ∧ o.showGroupNames = true ∧
      o.commentTemplate ∈ commentPresets.map Prod.snd ∧ ofOptions o none .excerpt launch = .ok p ∧
      ofOptions { o with showGroupNames := false } none .excerpt launch = .ok q ∧
      (p.transform .null "/* w-4").result {} = .ok (.transformed g call) ∧
      (∀ group ∈ g.nonEmpty, isConfined o.commentTemplate group.name = true) ∧
      (q.transform .null "/* w-4").result {} = .ok (.transformed g bare) ∧
      Text.filledLines (Code.strip .code call) = Text.filledLines bare := by
  intro raw launch call bare
  have hrun : ((Options.read raw).result {} >>= fun o =>
      ofOptions o none .excerpt launch >>= fun p =>
      (p.transform .null "/* w-4").result {} >>= fun outcome =>
        .ok (o.showGroupNames && decide (o.commentTemplate ∈ commentPresets.map Prod.snd) &&
          outcome.grouping?.any fun g =>
            g.nonEmpty.all fun group => isConfined o.commentTemplate group.name,
          outcome.call?)).toOption = some (true, some call) := by
    decide +kernel
  have hbare : ((Options.read raw).result {} >>= fun o =>
      ofOptions { o with showGroupNames := false } none .excerpt launch >>= fun q =>
      (q.transform .null "/* w-4").result {} >>= fun outcome =>
        .ok outcome.call?).toOption = some (some bare) := by
    decide +kernel
  rw [toOption_eq_some_iff, bind_eq_ok_iff] at hrun hbare
  obtain ⟨o, ho, hrun⟩ := hrun
  obtain ⟨p, hp, hrun⟩ := bind_eq_ok_iff.mp hrun
  obtain ⟨outcome, houtcome, hrun⟩ := bind_eq_ok_iff.mp hrun
  obtain ⟨hchecks, hcall⟩ := Prod.mk.inj (Except.ok.inj hrun)
  simp only [Bool.and_eq_true, decide_eq_true_eq] at hchecks
  obtain ⟨⟨hnames, hpreset⟩, hconfined⟩ := hchecks
  obtain ⟨p', q, hp', hq, hstrip⟩ := transform_strip ⟨raw, {}, ho⟩ hnames hpreset none .excerpt launch
  obtain rfl : p = p' := Except.ok.inj (hp.symm.trans hp')
  obtain ⟨g, rfl⟩ := Outcome.call?_eq_some_iff.mp hcall
  have hgroups : ∀ group ∈ g.nonEmpty, isConfined o.commentTemplate group.name = true :=
    List.all_eq_true.mp hconfined
  obtain ⟨text, htext, hlines⟩ := hstrip .null _ {} g _ houtcome hgroups
  obtain ⟨o', ho', hbare⟩ := hbare
  obtain rfl : o = o' := Except.ok.inj (ho.symm.trans ho')
  rw [hq, ok_bind, htext, ok_bind] at hbare
  obtain rfl : text = bare := Option.some.inj (Except.ok.inj hbare)
  exact ⟨o, p, q, g, ho, hnames, hpreset, hp, hq, houtcome, hgroups, htext, hlines⟩

/-- A name with a line feed leaves a comment of a line, and one with a closing mark leaves a block. The
code then differs in more than blanks. -/
theorem strip_transform_leaks :
    let raw (template name : Text) : Value := .object [
      (.text "groupOrder", .list [.text name]), (.text "mapping", .object [(.text name, .list [])]),
      (.text "fallbackGroup", .text name), (.text "commentTemplate", .text template)]
    let launch : Launcher := fun _ _ => .notFound
    ∀ given ∈ [raw "line" "A\nB", raw "block" "*/B"],
      ∃ o p q g call bare, (Options.read given).result {} = .ok o ∧ o.showGroupNames = true ∧
        o.commentTemplate ∈ commentPresets.map Prod.snd ∧ ofOptions o none .excerpt launch = .ok p ∧
        ofOptions { o with showGroupNames := false } none .excerpt launch = .ok q ∧
        (p.transform .null "flex").result {} = .ok (.transformed g call) ∧
        (q.transform .null "flex").result {} = .ok (.transformed g bare) ∧
        (Code.strip .code call).filter (!Text.isBlank ·) ≠ bare.filter (!Text.isBlank ·) := by
  intro raw launch given hgiven
  have hrun : ∀ given ∈ [raw "line" "A\nB", raw "block" "*/B"],
      ((Options.read given).result {} >>= fun o =>
      ofOptions o none .excerpt launch >>= fun p =>
      ofOptions { o with showGroupNames := false } none .excerpt launch >>= fun q =>
      (p.transform .null "flex").result {} >>= fun named =>
      (q.transform .null "flex").result {} >>= fun unnamed =>
        .ok (o.showGroupNames && decide (o.commentTemplate ∈ commentPresets.map Prod.snd) &&
          named.shouldTransform && unnamed.shouldTransform && named.grouping? = unnamed.grouping? &&
          (named.call?.map fun call => (Code.strip .code call).filter (!Text.isBlank ·)) !=
            unnamed.call?.map fun bare => bare.filter (!Text.isBlank ·))).toOption = some true := by
    decide +kernel
  have hrun := toOption_eq_some_iff.mp (hrun given hgiven)
  obtain ⟨o, ho, hrun⟩ := bind_eq_ok_iff.mp hrun
  obtain ⟨p, hp, hrun⟩ := bind_eq_ok_iff.mp hrun
  obtain ⟨q, hq, hrun⟩ := bind_eq_ok_iff.mp hrun
  obtain ⟨named, hnamed, hrun⟩ := bind_eq_ok_iff.mp hrun
  obtain ⟨unnamed, hunnamed, hrun⟩ := bind_eq_ok_iff.mp hrun
  have hchecks := Except.ok.inj hrun
  simp only [Bool.and_eq_true, decide_eq_true_eq, bne_iff_ne] at hchecks
  obtain ⟨⟨⟨⟨⟨hnames, hpreset⟩, hcall⟩, hbare⟩, hgroups⟩, hdiffer⟩ := hchecks
  obtain ⟨call, hcall⟩ := Option.isSome_iff_exists.mp hcall
  obtain ⟨bare, hbare⟩ := Option.isSome_iff_exists.mp hbare
  obtain ⟨g, rfl⟩ := Outcome.call?_eq_some_iff.mp hcall
  obtain ⟨h, rfl⟩ := Outcome.call?_eq_some_iff.mp hbare
  obtain rfl : g = h := Option.some.inj hgroups
  exact ⟨o, p, q, g, call, bare, ho, hnames, hpreset, hp, hq, hnamed, hunnamed,
    fun he => hdiffer (congrArg some he)⟩

end Pipeline

end ClassList
