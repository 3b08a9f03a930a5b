import ClassList.Collation.Excerpt
import ClassList.Proofs.Transform

/-! Formatting is idempotent: the classes that a call shows, in the order in which it shows them, are
transformed into the same call. -/

namespace ClassList

/-- The names that the oracle answers with do not depend on the order in which it is given the classes,
nor on the questions before. All failures to answer with a text count as the same. -/
def Oracle.IgnoresOrder (oracle : Oracle) : Prop :=
  ∀ earlier later question other, (Text.words question).Perm (Text.words other) →
    (oracle.answer earlier question).text.toOption = (oracle.answer later other).text.toOption

theorem words_joinOriginals_perm {tokens others : List Token} (h : tokens.Perm others) :
    (Text.words (joinOriginals tokens)).Perm (Text.words (joinOriginals others)) := by
  rw [joinOriginals, joinOriginals, Text.words_intercalate, Text.words_intercalate]
  exact (h.map Token.original).flatMap_right Text.words

namespace Pipeline

/-- Canonical order follows an oracle that ignores the order of the classes. -/
def Steady (p : Pipeline) : Prop :=
  p.options.order = .canonical → ∀ oracle, p.oracle = some oracle → oracle.IgnoresOrder

/-- The group with its classes in the order in which they are sorted. -/
def settle (p : Pipeline) (g : Group) : Group := { g with classes := p.sorted g [] }

@[simp] theorem settle_name (p : Pipeline) (g : Group) : (p.settle g).name = g.name := rfl

theorem settle_perm (p : Pipeline) (g : Group) : (p.settle g).classes.Perm g.classes :=
  Order.arrange_perm ..

theorem settle_size (p : Pipeline) (g : Group) : (p.settle g).size = g.size :=
  (p.settle_perm g).length_eq

theorem settle_isEmpty (p : Pipeline) (g : Group) : (p.settle g).isEmpty = g.isEmpty :=
  (p.settle_perm g).isEmpty_eq

section Steady

variable {p : Pipeline} (h : p.Steady)
include h

/-- The same classes are sorted by the same names, in whatever order they are given. -/
theorem Steady.arrange_eq {tokens others : List Token} (hperm : tokens.Perm others)
    (earlier later : List Text) (items : List Token) :
    p.options.order.arrange p.collator (Order.names? p.oracle earlier tokens) items =
      p.options.order.arrange p.collator (Order.names? p.oracle later others) items := by
  cases horder : p.options.order with
  | canonical =>
    have hnames : Order.names? p.oracle earlier tokens = Order.names? p.oracle later others := by
      cases horacle : p.oracle with
      | none => rfl
      | some oracle =>
        have hanswer := h horder oracle horacle earlier later _ _ (words_joinOriginals_perm hperm)
        exact congrArg (Option.map Text.words) hanswer
    rw [hnames]
  | _ => rfl

theorem Steady.sorted_eq (g : Group) (earlier : List Text) :
    p.sorted g earlier = (p.settle g).classes :=
  h.arrange_eq (List.Perm.refl _) earlier [] g.classes

theorem Steady.settle_settle (g : Group) : p.settle (p.settle g) = p.settle g := by
  have hclasses : (p.settle (p.settle g)).classes = (p.settle g).classes := by
    calc
      (p.settle (p.settle g)).classes =
          p.options.order.arrange p.collator (Order.names? p.oracle [] g.classes) (p.settle g).classes :=
        h.arrange_eq (p.settle_perm g) [] [] _
      _ = (p.settle g).classes := Order.arrange_arrange ..
  exact congrArg (Group.mk g.name) hclasses

theorem Steady.arranged_eq (earlier : List Text) (groups : List Group) :
    p.arranged earlier groups = groups.map fun g => (p.settle g).classes :=
  threaded_eq_map (fun g _ => h.sorted_eq g) earlier

end Steady

/-- The grouping with all its groups in the order in which they are sorted. -/
def settled (p : Pipeline) (g : Grouping) : Grouping := ⟨g.groups.map p.settle⟩

theorem nonEmpty_settled (p : Pipeline) (g : Grouping) :
    (p.settled g).nonEmpty = g.nonEmpty.map p.settle :=
  Grouping.nonEmpty_map p.settle_isEmpty g

/-- Classes that are sorted group by group go back to their groups and keep their order there. -/
theorem partition_settled {p : Pipeline} (h : p.classifier.WellFormed) (tokens : List Token) :
    p.classifier.partition (p.settled (p.classifier.partition tokens)).allClasses =
      p.settled (p.classifier.partition tokens) := by
  have hbuckets : ∀ name ∈ p.classifier.groupOrder,
      ∀ t ∈ (p.settle ⟨name, tokens.filter fun t => p.classifier.groupOf t = name⟩).classes,
        p.classifier.groupOf t = name := by
    intro name _ t ht
    have hkept := (List.mem_filter.mp ((p.settle_perm _).mem_iff.mp ht)).2
    exact of_decide_eq_true hkept
  simp only [settled, Classifier.partition, Grouping.allClasses, List.map_map, List.flatMap_map]
  refine congrArg Grouping.mk (List.map_congr_left fun name hname => ?_)
  exact congrArg (Group.mk name) (filter_flatMap_buckets h.nodup hbuckets hname)

section Steady

variable {p : Pipeline} (h : p.Steady)
include h

theorem Steady.flatten_arranged (earlier : List Text) (g : Grouping) :
    (p.arranged earlier g.nonEmpty).flatten = (p.settled g).allClasses := by
  have hempty : ∀ group : Group, group.classes = [] → (p.settle group).classes = [] := by
    intro group hgroup
    exact List.Perm.eq_nil (hgroup ▸ p.settle_perm group)
  rw [h.arranged_eq, settled, Grouping.allClasses, List.flatMap_map,
    ← Grouping.flatMap_nonEmpty hempty]
  rfl

/-- The call of a grouping is that of the grouping in sorted order. -/
theorem Steady.callOf_settled (earlier later : List Text) (g : Grouping) :
    p.callOf later (p.settled g) = p.callOf earlier g := by
  have hclasses : (g.nonEmpty.map p.settle).map (fun g => (p.settle g).classes) =
      g.nonEmpty.map fun g => (p.settle g).classes := by
    rw [List.map_map]
    exact List.map_congr_left fun g _ => congrArg Group.classes (h.settle_settle g)
  rw [callOf, callOf, nonEmpty_settled, h.arranged_eq, h.arranged_eq, hclasses, List.zip_map_left]
  refine Style.call_congr _ ?_
  rw [List.map_map]
  refine List.map_congr_left fun s _ => ?_
  rw [Function.comp_apply, Style.shows, Style.shows, Prod.map_fst, Prod.map_snd, p.settle_name,
    p.settle_size, id_eq]

end Steady

/-- The classes that a call shows, joined in the order in which it shows them, are transformed into the
same call, whatever the oracle was asked before. -/
theorem transform_idempotent {o : Options} (ho : o.Accepted) (oracle : Option Oracle)
    (collator : Collator) (launch : Launcher) :
    ∃ p, ofOptions o oracle collator launch = .ok p ∧
      (p.Steady → ∀ threshold classString trace g call,
        (p.transform threshold classString).result trace = .ok (.transformed g call) →
          ∃ lists, (p.sortGroups g.nonEmpty).result trace = .ok lists ∧
            ∀ later, ∃ g', (p.transform threshold (joinOriginals lists.flatten)).result later =
              .ok (.transformed g' call)) := by
  obtain ⟨p, hp, rfl, -, hwell⟩ := ofOptions_eq_ok ho.rules_valid oracle collator launch
  refine ⟨p, hp, fun hsteady threshold classString trace g call hresult => ?_⟩
  obtain ⟨hne, hmet, rfl, rfl⟩ := (transformed_iff hwell).mp hresult
  refine ⟨_, p.sortGroups_result (fun _ h => Grouping.classes_ne_nil_of_mem_nonEmpty h) trace,
    fun later => ⟨p.settled (p.grouping classString), ?_⟩⟩
  have hperm := arranged_grouping_perm hwell trace.questions classString
  have hread := tokensOf_joinOriginals hperm
  -- The second run meets the classes group by group, so its groups come out in sorted order.
  have hgrouping : p.grouping (joinOriginals
      (p.arranged trace.questions (p.grouping classString).nonEmpty).flatten) =
        p.settled (p.grouping classString) := by
    rw [grouping, hread, hsteady.flatten_arranged]
    exact partition_settled hwell _
  refine (transformed_iff hwell).mpr ⟨?_, ?_, hgrouping.symm, ?_⟩
  · rw [hread]
    exact fun hnil => hne (List.Perm.nil_eq (hnil ▸ hperm)).symm
  · rw [hread, hperm.length_eq]
    exact hmet
  · exact (hsteady.callOf_settled _ _ _).symm

/-- An oracle drops classes and makes one up. The classes of the second call are given in another order
than those of the first. -/
theorem transform_idempotent_dropped :
    let raw : Value := .object [
      (.text "groupOrder", .list [.text "Size", .text "Rest"]),
      (.text "mapping", .object [(.text "Size", .list [.text "w-*"]), (.text "Rest", .list [])]),
      (.text "fallback_group", .text "Rest"), (.text "order", .text "official")]
    let oracle := Oracle.ofFunction fun _ => .value (.text "flex gone w-4")
    let launch : Launcher := fun _ _ => .timedOut
    let shown : Text :=
      "clsx(\n  // Size\n  \"w-4 w-2\",\n  // Rest\n  \"flex grid\"\n)"
    ∃ o p g g' lists, (Options.read raw).result {} = .ok o ∧
      ofOptions o (some oracle) .excerpt launch = .ok p ∧ p.Steady ∧
      (p.transform .null "grid w-2 flex w-4").result {} = .ok (.transformed g shown) ∧
      (p.sortGroups g.nonEmpty).result {} = .ok lists ∧
      joinOriginals lists.flatten = "w-4 w-2 flex grid".toList ∧
      (p.transform .null (joinOriginals lists.flatten)).result {} = .ok (.transformed g' shown) := by
  intro raw oracle launch shown
  have hrun : ((Options.read raw).result {} >>= fun o =>
      ofOptions o (some oracle) .excerpt launch >>= fun p =>
        (p.transform .null "grid w-2 flex w-4").result {} >>= fun outcome =>
          (p.sortGroups (outcome.grouping?.elim [] Grouping.nonEmpty)).result {} >>= fun lists =>
            .ok (outcome.call?, joinOriginals lists.flatten)).toOption =
              some (some shown, "w-4 w-2 flex grid".toList) := by
    decide +kernel
  obtain ⟨o, ho, hrun⟩ := bind_eq_ok_iff.mp (toOption_eq_some_iff.mp hrun)
  obtain ⟨p, hp, hidempotent⟩ := transform_idempotent ⟨raw, {}, ho⟩ (some oracle) .excerpt launch
  rw [hp, ok_bind] at hrun
  obtain ⟨outcome, houtcome, hrun⟩ := bind_eq_ok_iff.mp hrun
  obtain ⟨lists, hlists, hrun⟩ := bind_eq_ok_iff.mp hrun
  obtain ⟨hcall, hjoined⟩ := Prod.mk.inj (Except.ok.inj hrun)
  have hsteady : p.Steady := by
    intro _ asked hasked
    rw [oracle_of_ofOptions hp] at hasked
    cases hasked
    exact fun _ _ _ _ _ => rfl
  cases outcome with
  | noClasses => cases hcall
  | belowThreshold g => cases hcall
  | transformed g call =>
    obtain rfl : call = shown := Option.some.inj hcall
    obtain ⟨others, hothers, hagain⟩ := hidempotent hsteady .null _ {} g _ houtcome
    obtain rfl : others = lists := Except.ok.inj (hothers.symm.trans hlists)
    obtain ⟨g', hg'⟩ := hagain {}
    exact ⟨o, p, g, g', others, ho, hp, hsteady, houtcome, hothers, hjoined, hg'⟩

end Pipeline

end ClassList
