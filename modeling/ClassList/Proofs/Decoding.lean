import Mathlib.Data.List.Forall2
import ClassList.Collation.Excerpt
import ClassList.Proofs.Literal
import ClassList.Proofs.Transform

/-! A call without group names reads back: its literals decode to the classes of the groups, in the
order in which they were sorted. -/

namespace ClassList

namespace Literal

/-- The characters that end a line of code and so cannot stand in a literal. -/
def lineTerminators : List Char := ['\n', '\r', '\u2028', '\u2029']

/-- The body of a literal stays on its line, ends at its own closing quote whatever follows, and
decodes to a text with the given words. -/
def Shows (body : Text) (names : List Text) : Prop :=
  (∀ c ∈ body, c ∉ lineTerminators) ∧
    ∃ text, (∀ rest, scan? (body ++ '"' :: rest) = some (text, rest)) ∧ Text.words text = names

theorem isBlank_of_mem_lineTerminators {c : Char} (h : c ∈ lineTerminators) :
    Text.isBlank c = true := by
  rw [lineTerminators, List.mem_cons, List.mem_cons, List.mem_cons, List.mem_singleton] at h
  rcases h with rfl | rfl | rfl | rfl <;> rfl

/-- No word holds a line terminator, since all of these are blank. -/
theorem shows_escape {names : List Text} (h : ∀ w ∈ names, Text.IsWord w) :
    Shows (escape (List.intercalate " " names)) names := by
  refine ⟨?_, _, scan?_escape _, Text.words_intercalate_of_isWord h⟩
  intro c hc hend
  rcases mem_of_mem_escape hc with hc | rfl
  · rcases Text.mem_intercalate hc with hc | ⟨w, hw, hc⟩
    · obtain rfl := List.mem_singleton.mp hc
      exact absurd hend (by decide)
    · have hblank := isBlank_of_mem_lineTerminators hend
      rw [(h w hw).unbroken c hc] at hblank
      cases hblank
  · exact absurd hend (by decide)

/-- Literals with the given bodies, one on a line, with a comma after all but the last. -/
def quotedLines (indent : Nat) : (bodies : List Text) → List Text
  | [] => []
  | body :: rest =>
    (Text.spaces indent ++ ('"' :: body ++ ['"']) ++ if rest.isEmpty then [] else [',']) ::
      quotedLines indent rest

end Literal

theorem Style.lines_eq_quotedLines {style : Style} (h : style.showGroupNames = false) (index : Nat)
    (shown : List (Group × Text)) :
    style.lines index shown =
      Literal.quotedLines style.indentWidth.toNat (shown.map fun s => Literal.escape s.2) := by
  induction shown generalizing index with
  | nil => rfl
  | cons s rest ih =>
    obtain ⟨g, classString⟩ := s
    have hlast : (rest.map fun s => Literal.escape s.2).isEmpty = rest.isEmpty := by
      cases rest <;> rfl
    rw [lines, h, List.map_cons, Literal.quotedLines, hlast, ih (index + 1)]
    simp only [Bool.false_eq_true, if_false, List.nil_append, literalLine, Literal.quote]

namespace Pipeline

section

variable {p : Pipeline} (hnames : p.options.showGroupNames = false)
include hnames

theorem callOf_eq_quotedLines (earlier : List Text) (g : Grouping) :
    p.callOf earlier g = p.options.utilityFunction ++ "(\n" ++
      List.intercalate "\n" (Literal.quotedLines p.options.indentWidth
        ((p.arranged earlier g.nonEmpty).map fun tokens => Literal.escape (joinOriginals tokens))) ++
      "\n" ++ Text.spaces (p.options.indentWidth - 2) ++ ")" := by
  have hlength : g.nonEmpty.length = ((p.arranged earlier g.nonEmpty).map joinOriginals).length := by
    rw [List.length_map, p.length_arranged]
  have hstyle : p.options.style.showGroupNames = false := hnames
  have hindent : ((p.options.indentWidth : Int) - 2).toNat = p.options.indentWidth - 2 := by omega
  rw [callOf, Style.call, Style.lines_eq_quotedLines hstyle]
  have hbodies : ((g.nonEmpty.zip ((p.arranged earlier g.nonEmpty).map joinOriginals)).map
      fun s => Literal.escape s.2) =
        (p.arranged earlier g.nonEmpty).map fun tokens => Literal.escape (joinOriginals tokens) := by
    calc
      _ = ((g.nonEmpty.zip ((p.arranged earlier g.nonEmpty).map joinOriginals)).map Prod.snd).map
            Literal.escape := (List.map_map ..).symm
      _ = ((p.arranged earlier g.nonEmpty).map joinOriginals).map Literal.escape := by
        rw [List.map_snd_zip (Nat.le_of_eq hlength.symm)]
      _ = _ := List.map_map ..
  rw [hbodies]
  simp only [Options.style, hindent, Int.toNat_natCast]

end

theorem callOf_ne_emptyExpression (p : Pipeline) (earlier : List Text) (g : Grouping) :
    p.callOf earlier g ≠ Grouping.emptyExpression := by
  intro he
  have hparen : '(' ∈ p.callOf earlier g := by
    simp [callOf, Style.call]
  rw [he] at hparen
  exact absurd hparen (by decide)

/-- Whatever the oracle answers, a call without group names has one literal for each group that is not
empty. The literals decode to the classes of these groups as they are sorted, which together are the
different classes of the class string. -/
theorem transform_decodes {o : Options} (ho : o.Accepted) (hnames : o.showGroupNames = false)
    (oracle : Option Oracle) (collator : Collator) (launch : Launcher) :
    ∃ p, ofOptions o oracle collator launch = .ok p ∧
      ∀ threshold classString trace g call,
        (p.transform threshold classString).result trace = .ok (.transformed g call) →
          ∃ lists bodies, (p.sortGroups g.nonEmpty).result trace = .ok lists ∧
            lists.length = g.nonEmpty.length ∧ 0 < lists.length ∧
            List.Forall₂ (fun body tokens => Literal.Shows body (tokens.map Token.original))
              bodies lists ∧
            call = o.utilityFunction ++ "(\n" ++
              List.intercalate "\n" (Literal.quotedLines o.indentWidth bodies) ++ "\n" ++
              Text.spaces (o.indentWidth - 2) ++ ")" ∧
            call ≠ Grouping.emptyExpression ∧
            (lists.flatten.map Token.original).Perm (deduplicate (splitNames classString)) := by
  obtain ⟨p, hp, rfl, -, hwell⟩ := ofOptions_eq_ok ho.rules_valid oracle collator launch
  refine ⟨p, hp, fun threshold classString trace g call hresult => ?_⟩
  obtain ⟨hne, -, rfl, rfl⟩ := (transformed_iff hwell).mp hresult
  have hperm := arranged_grouping_perm hwell trace.questions classString
  have hlength := p.length_arranged trace.questions (p.grouping classString).nonEmpty
  have hshown := nonEmpty_partition_ne_nil hwell hne
  have hwords : ∀ tokens ∈ p.arranged trace.questions (p.grouping classString).nonEmpty,
      ∀ w ∈ tokens.map Token.original, Text.IsWord w := by
    intro tokens htokens w hw
    obtain ⟨t, ht, rfl⟩ := List.mem_map.mp hw
    exact (of_mem_tokensOf (hperm.mem_iff.mp (List.mem_flatten_of_mem htokens ht))).1
  refine ⟨_, _, p.sortGroups_result (fun _ h => Grouping.classes_ne_nil_of_mem_nonEmpty h) trace,
    hlength, ?_, ?_, callOf_eq_quotedLines hnames trace.questions _,
    callOf_ne_emptyExpression p trace.questions _, ?_⟩
  · rw [hlength]
    exact List.length_pos_of_ne_nil hshown
  · rw [List.forall₂_map_left_iff, List.forall₂_same]
    exact fun tokens htokens => Literal.shows_escape (hwords tokens htokens)
  · rw [← map_original_tokensOf]
    exact hperm.map Token.original

/-- An oracle makes up a class, and the classes that it puts last end in a backslash. -/
theorem transform_decodes_backslash :
    let raw : Value := .object [
      (.text "groupOrder", .list [.text "Size", .text "Rest"]),
      (.text "mapping", .object [(.text "Size", .list [.text "w-*"]), (.text "Rest", .list [])]),
      (.text "fallback_group", .text "Rest"), (.text "order", .text "official"),
      (.text "indentWidth", .int 1), (.text "showGroupNames", .bool false)]
    let oracle := Oracle.ofFunction fun _ => .value (.text "a\"b gone a\"b")
    let launch : Launcher := fun _ _ => .timedOut
    let shown : Text := "clsx(\n \"w-4\",\n \"a\\\"b c\\\\\"\n)"
    ∃ o p g lists bodies, (Options.read raw).result {} = .ok o ∧ o.showGroupNames = false ∧
      ofOptions o (some oracle) .excerpt launch = .ok p ∧
      (p.transform .null "c\\ w-4 a\"b c\\").result {} = .ok (.transformed g shown) ∧
      (p.sortGroups g.nonEmpty).result {} = .ok lists ∧
      List.Forall₂ (fun body tokens => Literal.Shows body (tokens.map Token.original))
        bodies lists ∧
      (lists.flatten.map Token.original).Perm ["c\\".toList, "w-4".toList, "a\"b".toList] := by
  intro raw oracle launch shown
  have hrun : ((Options.read raw).result {} >>= fun o =>
      ofOptions o (some oracle) .excerpt launch >>= fun p =>
        (p.transform .null "c\\ w-4 a\"b c\\").result {} >>= fun outcome =>
          .ok (o.showGroupNames, outcome.call?)).toOption = some (false, some shown) := by
    decide +kernel
  rw [toOption_eq_some_iff, bind_eq_ok_iff] at hrun
  obtain ⟨o, ho, hrun⟩ := hrun
  obtain ⟨p, hp, hrun⟩ := bind_eq_ok_iff.mp hrun
  obtain ⟨outcome, houtcome, hrun⟩ := bind_eq_ok_iff.mp hrun
  obtain ⟨hnames, hcall⟩ := Prod.mk.inj (Except.ok.inj hrun)
  obtain ⟨q, hq, hdecodes⟩ := transform_decodes ⟨raw, {}, ho⟩ hnames (some oracle) .excerpt launch
  obtain rfl : p = q := Except.ok.inj (hp.symm.trans hq)
  cases outcome with
  | noClasses => cases hcall
  | belowThreshold g => cases hcall
  | transformed g call =>
    obtain rfl : call = shown := Option.some.inj hcall
    obtain ⟨lists, bodies, hlists, -, -, hbodies, -, -, hperm⟩ := hdecodes .null _ {} g _ houtcome
    refine ⟨o, p, g, lists, bodies, ho, hnames, hp, houtcome, hlists, hbodies, ?_⟩
    exact hperm.trans (List.Perm.of_eq (by decide +kernel))

end Pipeline

end ClassList
