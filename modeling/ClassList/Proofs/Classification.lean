import ClassList.Proofs.Positions
import ClassList.Proofs.Rules

/-! Classification: every class goes to a group of the group order, and the grouping of a list of
tokens holds, under each name of the order, the tokens of that group in the order of the list. -/

namespace ClassList

section Buckets

variable {α β : Type} [DecidableEq β] {key : α → β}

/-- The buckets of a list, one for each key, hold what the list holds. -/
theorem flatMap_filter_perm {keys : List β} (hkeys : keys.Nodup) {items : List α}
    (h : ∀ a ∈ items, key a ∈ keys) :
    (keys.flatMap fun k => items.filter fun a => key a = k).Perm items := by
  induction keys generalizing items with
  | nil =>
    cases items with
    | nil => exact List.Perm.refl _
    | cons a items => exact absurd (h a (List.mem_cons_self ..)) List.not_mem_nil
  | cons k keys ih =>
    obtain ⟨hk, hkeys⟩ := List.nodup_cons.mp hkeys
    have hothers : ∀ a ∈ items.filter (fun a => !decide (key a = k)), key a ∈ keys := by
      intro a ha
      obtain ⟨hmem, hne⟩ := List.mem_filter.mp ha
      have hne : key a ≠ k := by simpa using hne
      exact (List.mem_cons.mp (h a hmem)).resolve_left hne
    have hbuckets : (keys.flatMap fun k' => items.filter fun a => key a = k') =
        keys.flatMap fun k' => (items.filter fun a => !decide (key a = k)).filter
          fun a => key a = k' := by
      refine congrArg List.flatten (List.map_congr_left fun k' hk' => ?_)
      rw [List.filter_filter]
      refine List.filter_congr fun a _ => ?_
      by_cases ha : key a = k'
      · have hne : ¬k' = k := fun e => hk (e ▸ hk')
        simp [ha, hne]
      · simp [ha]
    rw [List.flatMap_cons, hbuckets]
    exact ((ih hkeys hothers).append_left _).trans (List.filter_append_perm _ _)

/-- The bucket of a key in a list that is put together from buckets. -/
theorem filter_flatMap_buckets {keys : List β} (hkeys : keys.Nodup) {bucket : β → List α}
    (h : ∀ k ∈ keys, ∀ a ∈ bucket k, key a = k) {k : β} (hk : k ∈ keys) :
    ((keys.flatMap bucket).filter fun a => key a = k) = bucket k := by
  induction keys with
  | nil => exact absurd hk List.not_mem_nil
  | cons k' keys ih =>
    obtain ⟨hnot, hkeys⟩ := List.nodup_cons.mp hkeys
    have hrest : ∀ k ∈ keys, ∀ a ∈ bucket k, key a = k := fun k hk =>
      h k (List.mem_cons_of_mem _ hk)
    have hfirst := h k' (List.mem_cons_self ..)
    rw [List.flatMap_cons, List.filter_append]
    rcases List.mem_cons.mp hk with rfl | hk
    · rw [List.filter_eq_self.mpr fun a ha => decide_eq_true (hfirst a ha),
        List.filter_eq_nil_iff.mpr, List.append_nil]
      intro a ha
      obtain ⟨k', hk', ha⟩ := List.mem_flatMap.mp ha
      have hne : k' ≠ k := fun e => hnot (e ▸ hk')
      simpa [hrest k' hk' a ha] using hne
    · rw [List.filter_eq_nil_iff.mpr, List.nil_append, ih hkeys hrest hk]
      intro a ha
      have hne : k' ≠ k := fun e => hnot (e ▸ hk)
      simpa [hfirst a ha] using hne

end Buckets

namespace Assignments

theorem push_map {names : List Text} (hnames : names.Nodup) {name : Text} (hname : name ∈ names)
    (assigned : Text → List Token) (t : Token) :
    push name t (names.map fun n => (n, assigned n)) =
      names.map fun n => (n, assigned n ++ if name = n then [t] else []) := by
  induction names with
  | nil => exact absurd hname List.not_mem_nil
  | cons n names ih =>
    obtain ⟨hn, hnames⟩ := List.nodup_cons.mp hnames
    rw [List.map_cons, List.map_cons, push]
    by_cases h : n = name
    · subst h
      rw [if_pos rfl, if_pos rfl, List.cons.injEq]
      refine ⟨rfl, List.map_congr_left fun m hm => ?_⟩
      have hne : n ≠ m := fun e => hn (e ▸ hm)
      rw [if_neg hne, List.append_nil]
    · rw [if_neg h, if_neg fun e => h e.symm, List.append_nil,
        ih hnames ((List.mem_cons.mp hname).resolve_left fun e => h e.symm)]

theorem lookup_map {names : List Text} {name : Text} (hname : name ∈ names)
    (assigned : Text → List Token) :
    (names.map fun n => (n, assigned n)).lookup name = some (assigned name) := by
  induction names with
  | nil => exact absurd hname List.not_mem_nil
  | cons n names ih =>
    rw [List.map_cons, List.lookup_cons]
    by_cases h : name = n
    · subst h
      rw [beq_self_eq_true]
    · rw [beq_eq_false_iff_ne.mpr h]
      exact ih ((List.mem_cons.mp hname).resolve_left h)

end Assignments

theorem Group.ofName_text {name : Text} (h : Text.isBlankText name = false) (tokens : List Token) :
    ofName (.text name) tokens = .ok ⟨name, tokens⟩ := by
  rw [ofName, h]
  rfl

namespace Grouping

theorem size_eq_length (g : Grouping) : g.size = g.allClasses.length := by
  rw [size, allClasses]
  induction g.groups with
  | nil => rfl
  | cons group rest ih =>
    rw [List.foldr_cons, ih, List.flatMap_cons, List.length_append, Group.size]

/-- Tokens assigned to different names that are not blank make a grouping under these names. -/
theorem ofAssignments_map {names : List Text} (hnames : names.Nodup)
    (hnamed : ∀ name ∈ names, Text.isBlankText name = false) (assigned : Text → List Token) :
    ofAssignments (.tuple (names.map Value.text)) (names.map fun n => (n, assigned n)) =
      .ok ⟨names.map fun n => ⟨n, assigned n⟩⟩ := by
  have hunknown : unknownNames (.tuple (names.map Value.text))
      (names.map fun n => (n, assigned n)) = .ok [] := by
    rw [unknownNames, filterM_eq_ok fun _ => false]
    · simp
    · intro name hname
      have hmem : name ∈ names := by simpa using hname
      have hknown : (names.map Value.text).any (Value.isText name) = true := by
        rw [List.any_eq_true]
        exact ⟨.text name, List.mem_map_of_mem hmem, Rules.isText_iff.mpr rfl⟩
      simp only [Value.hasText?, hknown]
      rfl
  have hgroups : (names.map Value.text).mapM
      (assignedGroup (names.map fun n => (n, assigned n))) =
        .ok (names.map fun n => ⟨n, assigned n⟩) := by
    rw [List.mapM_map]
    refine mapM_eq_ok fun name hname => ?_
    show Failure.ofConfig (Group.ofName (.text name)
      (((names.map fun n => (n, assigned n)).lookup name).getD [])) = _
    rw [Assignments.lookup_map hname, Group.ofName_text (hnamed name hname)]
    rfl
  simp only [ofAssignments, hunknown, ok_bind, List.isEmpty_nil, if_true, Value.elements?,
    Value.items?, hgroups, ofGroups_map hnames]
  rfl

end Grouping

namespace Classifier

/-- A classifier over different named groups, among which are the fallback and all eligible ones. -/
structure WellFormed (c : Classifier) : Prop where
  nodup : c.groupOrder.Nodup
  named : ∀ name ∈ c.groupOrder, Text.isBlankText name = false
  eligible_mem : ∀ entry ∈ c.eligible, entry.1 ∈ c.groupOrder
  fallback_mem : c.fallback ∈ c.groupOrder

theorem wellFormed_ofRules {rules : Rules} (h : rules.Valid) : (ofRules rules).WellFormed where
  nodup := h.nodup
  named _ hname := h.order_named hname
  eligible_mem entry hentry := by
    have hkept := (Bool.and_eq_true_iff.mp (List.mem_filter.mp hentry).2).2
    exact List.contains_iff_mem.mp hkept
  fallback_mem := h.fallback_mem

/-- The grouping in which each group has the tokens that belong to it, in the order of the list. -/
def partition (c : Classifier) (tokens : List Token) : Grouping :=
  ⟨c.groupOrder.map fun name => ⟨name, tokens.filter fun t => c.groupOf t = name⟩⟩

section WellFormed

variable {c : Classifier} (h : c.WellFormed)
include h

theorem WellFormed.groupOf_mem (t : Token) : c.groupOf t ∈ c.groupOrder := by
  unfold groupOf
  split
  · rename_i hmatch
    obtain ⟨entry, hentry, hfirst⟩ := List.exists_of_findSome?_eq_some hmatch
    obtain ⟨_, _, he⟩ := Option.map_eq_some_iff.mp hfirst
    cases he
    exact h.eligible_mem entry hentry
  · exact h.fallback_mem

theorem WellFormed.foldl_push (tokens : List Token) (assigned : Text → List Token) :
    tokens.foldl (fun assignments t => Assignments.push (c.groupOf t) t assignments)
        (c.groupOrder.map fun n => (n, assigned n)) =
      c.groupOrder.map fun n => (n, assigned n ++ tokens.filter fun t => c.groupOf t = n) := by
  induction tokens generalizing assigned with
  | nil => simp
  | cons t tokens ih =>
    rw [List.foldl_cons, Assignments.push_map h.nodup (h.groupOf_mem t), ih]
    refine List.map_congr_left fun n _ => ?_
    by_cases hn : c.groupOf t = n
    · simp [hn]
    · simp [hn]

/-- Classification of a list of tokens succeeds and is the partition. -/
theorem WellFormed.classify_eq (tokens : List Token) : c.classify tokens = .ok (c.partition tokens) := by
  have hassign : c.assign tokens =
      c.groupOrder.map fun n => (n, tokens.filter fun t => c.groupOf t = n) :=
    h.foldl_push tokens fun _ => []
  rw [classify, hassign, Grouping.ofAssignments_map h.nodup h.named]
  rfl

theorem WellFormed.allClasses_perm (tokens : List Token) :
    (c.partition tokens).allClasses.Perm tokens := by
  rw [Grouping.allClasses, partition, List.flatMap_map]
  exact flatMap_filter_perm h.nodup fun t _ => h.groupOf_mem t

theorem WellFormed.size_partition (tokens : List Token) :
    (c.partition tokens).size = tokens.length := by
  rw [Grouping.size_eq_length, (h.allClasses_perm tokens).length_eq]

end WellFormed

end Classifier

end ClassList
