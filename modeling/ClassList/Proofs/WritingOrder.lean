import Mathlib.Data.List.Forall2
import ClassList.Collation.Excerpt
import ClassList.Proofs.Idempotence
import ClassList.Proofs.Sorting.Alphabetical

/-! Class strings that hold the same names, in another order or with other repetitions. Their groups
hold the same classes. Sorting by collation keys forgets the order in which the classes of a group are
written, unless two of them have the same key, so it shows them in the same call. -/

namespace ClassList

/-- Whether a collator gives different classes of a group different collation keys. -/
def Group.KeysDiffer (g : Group) (collator : Collator) : Prop :=
  ∀ t ∈ g.classes, ∀ u ∈ g.classes, t.collationKey collator = u.collationKey collator →
    t.original = u.original

instance (g : Group) (collator : Collator) : Decidable (g.KeysDiffer collator) :=
  inferInstanceAs (Decidable (∀ t ∈ g.classes, ∀ u ∈ g.classes, _))

namespace Grouping

/-- The same groups in the same order, each with the same classes in whatever order. -/
def Rearranges (g h : Grouping) : Prop :=
  List.Forall₂ (fun group other => group.name = other.name ∧ group.classes.Perm other.classes)
    g.groups h.groups

end Grouping

namespace Pipeline

theorem steady_of_isAlphabetical {p : Pipeline} (horder : p.options.order.IsAlphabetical) :
    p.Steady := by
  intro hcanonical
  rcases horder with h | h
  · cases hcanonical.symm.trans h
  · cases hcanonical.symm.trans h

section SameNames

variable (p : Pipeline) {classString other : Text}
  (hnames : ∀ name, name ∈ splitNames classString ↔ name ∈ splitNames other)
include hnames

theorem tokensOf_eq_nil_congr : tokensOf classString = [] ↔ tokensOf other = [] := by
  rw [← List.length_eq_zero_iff, (tokensOf_perm hnames).length_eq, List.length_eq_zero_iff]

theorem isDue_congr (limit : Number) : isDue limit classString = isDue limit other := by
  simp only [isDue, ne_eq, tokensOf_eq_nil_congr hnames, (tokensOf_perm hnames).length_eq]

theorem grouping_rearranges : (p.grouping classString).Rearranges (p.grouping other) := by
  unfold Grouping.Rearranges grouping Classifier.partition
  rw [List.forall₂_map_left_iff, List.forall₂_map_right_iff, List.forall₂_same]
  exact fun name _ => ⟨rfl, (tokensOf_perm hnames).filter _⟩

theorem grouping?_outcomeOf_rearranges (earlier later : List Text) (limit : Number) :
    Option.Rel Grouping.Rearranges (p.outcomeOf earlier limit classString).grouping?
      (p.outcomeOf later limit other).grouping? := by
  rw [grouping?_outcomeOf, grouping?_outcomeOf]
  by_cases h : tokensOf classString = []
  · rw [if_pos h, if_pos ((tokensOf_eq_nil_congr hnames).mp h)]
    exact .none
  · rw [if_neg h, if_neg fun h' => h ((tokensOf_eq_nil_congr hnames).mpr h')]
    exact .some (p.grouping_rearranges hnames)

variable {p} (horder : p.options.order.IsAlphabetical)
include horder

section KeysDiffer

variable (hkeys : ∀ group ∈ (p.grouping classString).groups, group.KeysDiffer p.collator)
include hkeys

/-- Sorted by keys that differ, the groups are the same. -/
theorem settled_grouping_eq :
    p.settled (p.grouping classString) = p.settled (p.grouping other) := by
  unfold settled grouping Classifier.partition
  rw [List.map_map, List.map_map]
  refine congrArg Grouping.mk (List.map_congr_left fun name hname => congrArg (Group.mk name) ?_)
  refine horder.arrange_eq ((tokensOf_perm hnames).filter _) (fun t ht u hu hkey => ?_) ..
  have horiginal := hkeys _ (List.mem_map_of_mem hname) t ht u hu hkey
  rw [(of_mem_tokensOf (List.mem_of_mem_filter ht)).2, horiginal,
    ← (of_mem_tokensOf (List.mem_of_mem_filter hu)).2]

theorem callOf_grouping_eq (earlier later : List Text) :
    p.callOf earlier (p.grouping classString) = p.callOf later (p.grouping other) := by
  have hsteady := steady_of_isAlphabetical horder
  rw [← hsteady.callOf_settled earlier later, settled_grouping_eq hnames horder hkeys,
    hsteady.callOf_settled later later]

end KeysDiffer

theorem call?_outcomeOf_congr (earlier later : List Text) (limit : Number)
    (hkeys : ∀ g, (p.outcomeOf earlier limit classString).grouping? = some g →
      ∀ group ∈ g.groups, group.KeysDiffer p.collator) :
    (p.outcomeOf earlier limit classString).call? = (p.outcomeOf later limit other).call? := by
  rw [call?_outcomeOf, call?_outcomeOf, shouldTransform_outcomeOf, shouldTransform_outcomeOf,
    ← isDue_congr hnames]
  split
  · rename_i hcall
    rw [isDue, Bool.and_eq_true, decide_eq_true_iff] at hcall
    have hgroups := hkeys _ ((grouping?_outcomeOf_eq_some_iff ..).mpr ⟨hcall.1, rfl⟩)
    rw [callOf_grouping_eq hnames horder hgroups earlier later]
  · rfl

end SameNames

/-- In alphabetical order, class strings of the same names are transformed alike, whatever the collator and
the threshold: both or neither of them come out as a call, their groups hold the same classes, and if the
classes of each group have different keys, the two calls are the same. A width that is no index stops both
transformations in the same way or neither, and so does a threshold that is no number. -/
theorem transform_rearranged {o : Options} (ho : o.Accepted) (horder : o.order.IsAlphabetical)
    (oracle : Option Oracle) (collator : Collator) (launch : Launcher) :
    ∃ p, ofOptions o oracle collator launch = .ok p ∧
      ∀ threshold classString other,
        (∀ name, name ∈ splitNames classString ↔ name ∈ splitNames other) → ∀ trace later,
          (threshold = .null ∨ threshold.number?.isSome →
            (∃ outcome outcome',
              (p.transform threshold classString).result trace = .ok outcome ∧
              (p.transform threshold other).result later = .ok outcome' ∧
              outcome.shouldTransform = outcome'.shouldTransform ∧
              Option.Rel Grouping.Rearranges outcome.grouping? outcome'.grouping? ∧
              ((∀ g, outcome.grouping? = some g → ∀ group ∈ g.groups, group.KeysDiffer collator) →
                outcome.call? = outcome'.call?)) ∨
            Text.largestIndex < o.indentWidth ∧
              (p.transform threshold classString).result trace = .error (.notIndex o.indentWidth) ∧
              (p.transform threshold other).result later = .error (.notIndex o.indentWidth)) ∧
          (threshold ≠ .null → threshold.number? = none →
            (p.transform threshold classString).result trace =
              (p.transform threshold other).result later) := by
  obtain ⟨p, hp, rfl, -, hwell⟩ := ofOptions_eq_ok ho.rules_valid oracle collator launch
  have hcollator : p.collator = collator := by
    rw [ofOptions_eq ho.rules_valid] at hp
    exact (congrArg Pipeline.collator (Except.ok.inj hp)).symm
  refine ⟨p, hp, fun threshold classString other hnames trace later => ?_⟩
  constructor
  · intro hthreshold
    obtain ⟨limit, hlimit⟩ := p.options.exists_inForce hthreshold
    have hfirst := transform_of_inForce hwell hlimit classString trace
    have hsecond := transform_of_inForce hwell hlimit other later
    rw [← isDue_congr hnames] at hsecond
    split at hfirst
    · rename_i hstops
      rw [if_pos hstops] at hsecond
      exact .inr ⟨hstops.2, hfirst, hsecond⟩
    · rename_i hends
      rw [if_neg hends] at hsecond
      refine .inl ⟨_, _, hfirst, hsecond, ?_, p.grouping?_outcomeOf_rearranges hnames .., fun hkeys => ?_⟩
      · rw [shouldTransform_outcomeOf, shouldTransform_outcomeOf, isDue_congr hnames]
      · exact call?_outcomeOf_congr hnames horder _ _ limit (hcollator ▸ hkeys)
  · intro hnull hnumber
    have hthreshold : p.threshold threshold = threshold := by
      cases threshold with
      | null => exact absurd rfl hnull
      | _ => rfl
    simp only [transform_result hwell, hthreshold, hnumber, tokensOf_eq_nil_congr hnames]

/-- Four classes against a threshold of four. The key of one of them begins that of another. -/
theorem transform_rearranged_repeated :
    let raw : Value := .object [
      (.text "groupOrder", .list [.text "Rest", .text "Size"]),
      (.text "mapping", .object [(.text "Size", .list [.text "w-*"]), (.text "Rest", .list [])]),
      (.text "fallbackGroup", .text "Rest"), (.text "order", .text " Desc")]
    let launch : Launcher := fun _ _ => .timedOut
    let classString : Text := "grid w-2 flex-1 flex w-2"
    let other : Text := "\tflex\nflex-1 grid w-2 flex "
    let groups (rest : List String) : Grouping :=
      ⟨[⟨"Rest", rest.map fun s => Token.ofText s.toList⟩, ⟨"Size", [Token.ofText "w-2"]⟩]⟩
    let g := groups ["grid", "flex-1", "flex"]
    let g' := groups ["flex", "flex-1", "grid"]
    ∃ o p call, (Options.read raw).result {} = .ok o ∧ o.order.IsAlphabetical ∧
      ofOptions o none .excerpt launch = .ok p ∧
      (∀ name, name ∈ splitNames classString ↔ name ∈ splitNames other) ∧
      (∀ group ∈ g.groups, group.KeysDiffer .excerpt) ∧ g.Rearranges g' ∧
      (p.transform (.int 4) classString).result {} = .ok (.transformed g call) ∧
      (p.transform (.int 4) other).result {} = .ok (.transformed g' call) := by
  intro raw launch classString other groups g g'
  have hrun : ((Options.read raw).result {} >>= fun o =>
      ofOptions o none .excerpt launch >>= fun p =>
      (p.transform (.int 4) classString).result {} >>= fun outcome =>
        (p.transform (.int 4) other).result {} >>= fun outcome' =>
          .ok (o.order, outcome.shouldTransform, outcome.grouping?, outcome'.grouping?)).toOption =
      some (.descending, true, some g, some g') := by
    decide +kernel
  have hnames : ∀ name, name ∈ splitNames classString ↔ name ∈ splitNames other := by
    have hmem : ∀ name ∈ splitNames classString, name ∈ splitNames other := by decide +kernel
    have hmem' : ∀ name ∈ splitNames other, name ∈ splitNames classString := by decide +kernel
    exact fun name => ⟨hmem name, hmem' name⟩
  have hkeys : ∀ group ∈ g.groups, group.KeysDiffer .excerpt := by decide +kernel
  obtain ⟨o, ho, hrun⟩ := bind_eq_ok_iff.mp (toOption_eq_some_iff.mp hrun)
  obtain ⟨p, hp, hrun⟩ := bind_eq_ok_iff.mp hrun
  obtain ⟨outcome, houtcome, hrun⟩ := bind_eq_ok_iff.mp hrun
  obtain ⟨outcome', houtcome', hrun⟩ := bind_eq_ok_iff.mp hrun
  simp only [Except.ok.injEq, Prod.mk.injEq] at hrun
  obtain ⟨horder, hshould, hgrouping, hgrouping'⟩ := hrun
  obtain ⟨p', hp', hall⟩ := transform_rearranged ⟨raw, {}, ho⟩ (.inr horder) none .excerpt launch
  obtain rfl : p = p' := Except.ok.inj (hp.symm.trans hp')
  obtain ⟨_, _, hfirst, hsecond, -, hrearranges, hcalls⟩ | ⟨-, hstops, -⟩ :=
    (hall (.int 4) classString other hnames {} {}).1 (.inr rfl)
  case inr => cases houtcome.symm.trans hstops
  obtain rfl := Except.ok.inj (houtcome.symm.trans hfirst)
  obtain rfl := Except.ok.inj (houtcome'.symm.trans hsecond)
  rw [hgrouping, hgrouping'] at hrearranges
  obtain ⟨call, hcall⟩ := Option.isSome_iff_exists.mp hshould
  have hcall' : outcome'.call? = some call := by
    rw [← hcalls fun h hh => Option.some.inj (hgrouping.symm.trans hh) ▸ hkeys, hcall]
  obtain ⟨_, rfl⟩ := Outcome.call?_eq_some_iff.mp hcall
  obtain ⟨_, rfl⟩ := Outcome.call?_eq_some_iff.mp hcall'
  cases hgrouping
  cases hgrouping'
  cases hrearranges with
  | some hrearranges =>
    exact ⟨o, p, call, ho, .inr horder, hp, hnames, hkeys, hrearranges, houtcome, houtcome'⟩

end Pipeline

end ClassList
