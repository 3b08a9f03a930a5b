import ClassList.Proofs.FunctionNames
import ClassList.Proofs.Number
import ClassList.Proofs.Options.Keys
import ClassList.Proofs.Transform

/-! The checks of options one by one: what each of them asks of the values of the fields, what it makes
of them, and how it fails. Options are read off a value just when its keys are right and every check
passes, and otherwise the first check that does not pass decides the failure. -/

namespace ClassList

namespace Order

theorem ofName?_eq_some_iff {s : Text} {order : Order} :
    ofName? s = some order ↔ order.NamedBy (Text.lower (Text.strip s)) := by
  rw [ofName?]
  generalize Text.lower (Text.strip s) = key
  constructor
  · intro h
    cases halias : aliases.lookup key with
    | some other =>
      simp only [halias, Option.some.injEq] at h
      obtain ⟨front, back, hsplit, -⟩ := List.lookup_eq_some_iff.mp halias
      exact namedBy_of_mem_aliases (by rw [hsplit, h]; simp)
    | none =>
      simp only [halias] at h
      have hname := List.find?_some (p := fun o : Order => decide (o.name = key)) h
      exact of_decide_eq_true hname ▸ order.namedBy_name
  · intro h
    cases order with
    | unsorted =>
      simp only [NamedBy, keys, List.mem_cons, List.not_mem_nil, or_false] at h
      rcases h with rfl | rfl | rfl <;> rfl
    | ascending =>
      simp only [NamedBy, keys, List.mem_cons, List.not_mem_nil, or_false] at h
      rcases h with rfl | rfl <;> rfl
    | descending =>
      simp only [NamedBy, keys, List.mem_cons, List.not_mem_nil, or_false] at h
      rcases h with rfl | rfl <;> rfl
    | canonical =>
      simp only [NamedBy, keys, List.mem_cons, List.not_mem_nil, or_false] at h
      rcases h with rfl | rfl <;> rfl

theorem read_text (s : Text) :
    read (.text s) =
      match ofName? s with
      | some order => .ok order
      | none => .error (.unknownOrder s) := rfl

theorem read_of_ne {v : Value} (h : ∀ s, v ≠ .text s) : read v = .error (.orderNotText v) := by
  cases v with
  | text s => exact absurd rfl (h s)
  | _ => rfl

theorem read_of_not_named {s : Text}
    (h : ∀ order : Order, ¬order.NamedBy (Text.lower (Text.strip s))) :
    read (.text s) = .error (.unknownOrder s) := by
  have hnone : ofName? s = none := by
    rw [Option.eq_none_iff_forall_ne_some]
    exact fun order hsome => h order (ofName?_eq_some_iff.mp hsome)
  rw [read_text, hnone]

theorem read_eq_ok_iff {v : Value} {order : Order} :
    read v = .ok order ↔ ∃ s, v = .text s ∧ order.NamedBy (Text.lower (Text.strip s)) := by
  constructor
  · intro h
    by_cases htext : ∃ s, v = .text s
    · obtain ⟨s, rfl⟩ := htext
      rw [read_text] at h
      split at h
      · rename_i hname
        cases h
        exact ⟨s, rfl, ofName?_eq_some_iff.mp hname⟩
      · cases h
    · rw [read_of_ne (not_exists.mp htext)] at h
      cases h
  · rintro ⟨s, rfl, h⟩
    rw [read_text, ofName?_eq_some_iff.mpr h]

end Order

namespace Options

/-- The checks of the fields. Group order, mapping and fallback are checked together. -/
inductive Check where
  | threshold
  | indentWidth
  | showGroupNames
  | utilityFunction
  | commentTemplate
  | groups
  | order

namespace Check

/-- All checks, in the order in which they are made. -/
def all : List Check :=
  [.threshold, .indentWidth, .showGroupNames, .utilityFunction, .commentTemplate, .groups, .order]

/-- The values of the fields pass a check, which makes of them what the options hold. -/
def Yields (value : Field → Value) (o : Options) : Check → Prop
  | .threshold => value .threshold = o.threshold.toValue ∧ ∃ x, o.threshold.Valued x ∧ 0 ≤ x
  | .indentWidth => value .indentWidth = .int o.indentWidth
  | .showGroupNames => value .showGroupNames = .bool o.showGroupNames
  | .utilityFunction => value .utilityFunction = .text o.utilityFunction ∧
      ∃ name ∈ functionNames, o.utilityFunction = name ∨ o.utilityFunction = name ++ ['\n']
  | .commentTemplate => ∃ s, value .commentTemplate = .text s ∧ Resolves s o.commentTemplate
  | .groups => Rules.read (value .groupOrder) (value .mapping) (value .fallbackGroup) = .ok o.rules ∧
      o.rules.SpelledBy (value .groupOrder) (value .mapping) (value .fallbackGroup)
  | .order => ∃ s, value .order = .text s ∧ o.order.NamedBy (Text.lower (Text.strip s))

def Passes (value : Field → Value) (c : Check) : Prop := ∃ o, c.Yields value o

/-- How a check fails. -/
inductive Raises (value : Field → Value) : Check → Failure → Prop
  | notNumber : (∀ n : Number, value .threshold ≠ n.toValue) →
      Raises value .threshold (.configuration (.unexpected .threshold .number (value .threshold)))
  | notFinite {n : Number} : value .threshold = n.toValue → (∀ x, ¬n.Valued x) →
      Raises value .threshold (.configuration (.notFinite .threshold (value .threshold)))
  | negative {n : Number} {x} : value .threshold = n.toValue → n.Valued x → x < 0 →
      Raises value .threshold (.configuration (.negative .threshold (value .threshold)))
  | notInteger : (∀ i, value .indentWidth ≠ .int i) →
      Raises value .indentWidth
        (.configuration (.unexpected .indentWidth .integer (value .indentWidth)))
  | negativeWidth {i} : value .indentWidth = .int i → i < 0 →
      Raises value .indentWidth (.configuration (.negative .indentWidth (value .indentWidth)))
  | notBoolean : (∀ b, value .showGroupNames ≠ .bool b) →
      Raises value .showGroupNames
        (.configuration (.unexpected .showGroupNames .boolean (value .showGroupNames)))
  | notName : (∀ name ∈ functionNames, value .utilityFunction ≠ .text name ∧
        value .utilityFunction ≠ .text (name ++ ['\n'])) →
      Raises value .utilityFunction (.configuration (.invalidFunctionName (value .utilityFunction)))
  | notTemplate : (∀ s, value .commentTemplate ≠ .text s) →
      Raises value .commentTemplate
        (.configuration (.unexpected .commentTemplate .string (value .commentTemplate)))
  | groups {f} :
      Rules.read (value .groupOrder) (value .mapping) (value .fallbackGroup) = .error f →
      Raises value .groups f
  | orderNotText : (∀ s, value .order ≠ .text s) →
      Raises value .order (.configuration (.orderNotText (value .order)))
  | unknownOrder {s} : value .order = .text s →
      (∀ order : Order, ¬order.NamedBy (Text.lower (Text.strip s))) →
      Raises value .order (.configuration (.unknownOrder s))

end Check

/-- The failure of the first of the checks that does not pass. -/
inductive FirstFailure (value : Field → Value) : List Check → Failure → Prop
  | here {c checks f} : c.Raises value f → FirstFailure value (c :: checks) f
  | later {c checks f} : c.Passes value → FirstFailure value checks f →
      FirstFailure value (c :: checks) f

/-! ### Each check by itself -/

section Reads

variable {v : Value}

theorem readThreshold_of_ne (h : ∀ n : Number, v ≠ n.toValue) :
    readThreshold v = .error (.unexpected .threshold .number v) := by
  cases v with
  | int i => exact absurd rfl (h (.int i))
  | float x => exact absurd rfl (h (.float x))
  | _ => rfl

section Threshold

variable {n : Number}

theorem readThreshold_toValue (n : Number) :
    readThreshold n.toValue =
      if !n.isFinite then .error (.notFinite .threshold n.toValue)
      else if n.lt (.int 0) then .error (.negative .threshold n.toValue) else .ok n := by
  cases n <;> rfl

theorem readThreshold_of_not_valued (h : ∀ x, ¬n.Valued x) :
    readThreshold n.toValue = .error (.notFinite .threshold n.toValue) := by
  have hfinite : n.isFinite = false := by
    rw [← Bool.not_eq_true, Number.isFinite_iff]
    exact not_exists.mpr h
  simp [readThreshold_toValue, hfinite]

section Valued

variable {x : ℚ} (h : n.Valued x)
include h

theorem lt_zero_eq_false_iff : n.lt (.int 0) = false ↔ 0 ≤ x := by
  rw [Number.lt_eq_false_iff (Number.isFinite_iff.mpr ⟨x, h⟩) rfl, h.zero_le_iff]

theorem readThreshold_of_neg (hx : x < 0) :
    readThreshold n.toValue = .error (.negative .threshold n.toValue) := by
  have hlt : n.lt (.int 0) = true := by
    rw [← Bool.not_eq_false, lt_zero_eq_false_iff h]
    exact not_le.mpr hx
  simp [readThreshold_toValue, Number.isFinite_iff.mpr ⟨x, h⟩, hlt]

theorem readThreshold_of_nonneg (hx : 0 ≤ x) : readThreshold n.toValue = .ok n := by
  simp [readThreshold_toValue, Number.isFinite_iff.mpr ⟨x, h⟩, (lt_zero_eq_false_iff h).mpr hx]

end Valued

end Threshold

theorem readThreshold_eq_ok_iff {n : Number} :
    readThreshold v = .ok n ↔ v = n.toValue ∧ ∃ x, n.Valued x ∧ 0 ≤ x := by
  constructor
  · intro h
    by_cases hnumber : ∃ m : Number, v = m.toValue
    · obtain ⟨m, rfl⟩ := hnumber
      by_cases hvalued : ∃ x, m.Valued x
      · obtain ⟨x, hx⟩ := hvalued
        rcases lt_or_ge x 0 with hneg | hle
        · rw [readThreshold_of_neg hx hneg] at h
          cases h
        · rw [readThreshold_of_nonneg hx hle] at h
          cases h
          exact ⟨rfl, x, hx, hle⟩
      · rw [readThreshold_of_not_valued (not_exists.mp hvalued)] at h
        cases h
    · rw [readThreshold_of_ne (not_exists.mp hnumber)] at h
      cases h
  · rintro ⟨rfl, x, hx, hle⟩
    exact readThreshold_of_nonneg hx hle

theorem readIndentWidth_of_ne (h : ∀ i, v ≠ .int i) :
    readIndentWidth v = .error (.unexpected .indentWidth .integer v) := by
  cases v with
  | int i => exact absurd rfl (h i)
  | _ => rfl

theorem readIndentWidth_of_neg {i : Int} (h : i < 0) :
    readIndentWidth (.int i) = .error (.negative .indentWidth (.int i)) := by
  cases i with
  | ofNat n => exact absurd h (by simp)
  | negSucc n => rfl

theorem readIndentWidth_eq_ok_iff {n : Nat} : readIndentWidth v = .ok n ↔ v = .int n := by
  constructor
  · intro h
    by_cases hint : ∃ i, v = .int i
    · obtain ⟨i, rfl⟩ := hint
      cases i with
      | ofNat m =>
        cases h
        rfl
      | negSucc m => cases h
    · rw [readIndentWidth_of_ne (not_exists.mp hint)] at h
      cases h
  · rintro rfl
    rfl

theorem readShowGroupNames_of_ne (h : ∀ b, v ≠ .bool b) :
    readShowGroupNames v = .error (.unexpected .showGroupNames .boolean v) := by
  cases v with
  | bool b => exact absurd rfl (h b)
  | _ => rfl

theorem readShowGroupNames_eq_ok_iff {b : Bool} : readShowGroupNames v = .ok b ↔ v = .bool b := by
  cases v <;> simp [readShowGroupNames]

theorem readUtilityFunction_eq_ok_iff {s : Text} :
    readUtilityFunction v = .ok s ↔ v = .text s ∧ isFunctionName s = true := by
  cases v with
  | text t =>
    rw [readUtilityFunction]
    split
    · rename_i hname
      constructor
      · rintro ⟨⟩
        exact ⟨rfl, hname⟩
      · rintro ⟨⟨⟩, -⟩
        rfl
    · rename_i hname
      constructor
      · rintro ⟨⟩
      · rintro ⟨⟨⟩, h⟩
        exact absurd h hname
  | _ => simp [readUtilityFunction]

theorem readUtilityFunction_of_ne (h : ∀ s, isFunctionName s = true → v ≠ .text s) :
    readUtilityFunction v = .error (.invalidFunctionName v) := by
  cases v with
  | text s => exact if_neg fun hname => h s hname rfl
  | _ => rfl

theorem readCommentTemplate_of_ne (h : ∀ s, v ≠ .text s) :
    readCommentTemplate v = .error (.unexpected .commentTemplate .string v) := by
  cases v with
  | text s => exact absurd rfl (h s)
  | _ => rfl

theorem readCommentTemplate_eq_ok_iff {s : Text} : readCommentTemplate v = .ok s ↔ v = .text s := by
  cases v <;> simp [readCommentTemplate]

end Reads

namespace Check

variable {value : Field → Value} {o : Options}

/-- Whether values pass a check or how they fail it decides a result. -/
structure Decides {α : Type} (value : Field → Value) (c : Check) (r : Except Failure α) : Prop where
  raises_iff : ∀ f, r = .error f ↔ c.Raises value f
  passes_iff : (∃ a, r = .ok a) ↔ c.Passes value

/-- The cases of a check have to cover all values. -/
theorem Decides.of_cover {α : Type} {c : Check} {r : Except Failure α}
    (hraises : ∀ f, c.Raises value f → r = .error f) (hpasses : c.Passes value → ∃ a, r = .ok a)
    (hcover : c.Passes value ∨ ∃ f, c.Raises value f) : Decides value c r where
  raises_iff f := by
    refine ⟨fun h => ?_, hraises f⟩
    rcases hcover with hpass | ⟨g, hg⟩
    · obtain ⟨a, ha⟩ := hpasses hpass
      cases h.symm.trans ha
    · cases h.symm.trans (hraises g hg)
      exact hg
  passes_iff := by
    refine ⟨fun ⟨a, h⟩ => ?_, hpasses⟩
    refine hcover.resolve_right fun ⟨g, hg⟩ => ?_
    cases h.symm.trans (hraises g hg)

theorem decides_threshold :
    Decides value .threshold (Failure.ofConfig (readThreshold (value .threshold))) := by
  refine Decides.of_cover (fun f h => ?_) (fun ⟨o, h⟩ => ?_) ?_
  · cases h with
    | notNumber h =>
      rw [readThreshold_of_ne h]
      rfl
    | notFinite hn h =>
      rw [hn, readThreshold_of_not_valued h]
      rfl
    | negative hn hx hneg =>
      rw [hn, readThreshold_of_neg hx hneg]
      rfl
  · exact ⟨o.threshold, Failure.ofConfig_eq_ok_iff.mpr (readThreshold_eq_ok_iff.mpr h)⟩
  · by_cases hnumber : ∃ n : Number, value .threshold = n.toValue
    · obtain ⟨n, hn⟩ := hnumber
      by_cases hvalued : ∃ x, n.Valued x
      · obtain ⟨x, hx⟩ := hvalued
        rcases lt_or_ge x 0 with hneg | hle
        · exact .inr ⟨_, .negative hn hx hneg⟩
        · exact .inl ⟨{ byDefault with threshold := n }, hn, x, hx, hle⟩
      · exact .inr ⟨_, .notFinite hn (not_exists.mp hvalued)⟩
    · exact .inr ⟨_, .notNumber (not_exists.mp hnumber)⟩

theorem decides_indentWidth :
    Decides value .indentWidth (Failure.ofConfig (readIndentWidth (value .indentWidth))) := by
  refine Decides.of_cover (fun f h => ?_) (fun ⟨o, h⟩ => ?_) ?_
  · cases h with
    | notInteger h =>
      rw [readIndentWidth_of_ne h]
      rfl
    | negativeWidth hi h =>
      rw [hi, readIndentWidth_of_neg h]
      rfl
  · exact ⟨o.indentWidth, Failure.ofConfig_eq_ok_iff.mpr (readIndentWidth_eq_ok_iff.mpr h)⟩
  · by_cases hint : ∃ i, value .indentWidth = .int i
    · obtain ⟨i, hi⟩ := hint
      rcases lt_or_ge i 0 with hneg | hle
      · exact .inr ⟨_, .negativeWidth hi hneg⟩
      · obtain ⟨n, rfl⟩ := Int.eq_ofNat_of_zero_le hle
        exact .inl ⟨{ byDefault with indentWidth := n }, hi⟩
    · exact .inr ⟨_, .notInteger (not_exists.mp hint)⟩

theorem decides_showGroupNames :
    Decides value .showGroupNames (Failure.ofConfig (readShowGroupNames (value .showGroupNames))) := by
  refine Decides.of_cover (fun f h => ?_) (fun ⟨o, h⟩ => ?_) ?_
  · cases h with
    | notBoolean h =>
      rw [readShowGroupNames_of_ne h]
      rfl
  · exact ⟨o.showGroupNames, Failure.ofConfig_eq_ok_iff.mpr (readShowGroupNames_eq_ok_iff.mpr h)⟩
  · by_cases hbool : ∃ b, value .showGroupNames = .bool b
    · obtain ⟨b, hb⟩ := hbool
      exact .inl ⟨{ byDefault with showGroupNames := b }, hb⟩
    · exact .inr ⟨_, .notBoolean (not_exists.mp hbool)⟩

theorem decides_utilityFunction :
    Decides value .utilityFunction
      (Failure.ofConfig (readUtilityFunction (value .utilityFunction))) := by
  refine Decides.of_cover (fun f h => ?_) (fun ⟨o, h⟩ => ?_) ?_
  · cases h with
    | notName h =>
      have hne : ∀ s, isFunctionName s = true → value .utilityFunction ≠ .text s := by
        intro s hs
        obtain ⟨name, hname, rfl | rfl⟩ := isFunctionName_iff.mp hs
        · exact (h s hname).1
        · exact (h name hname).2
      rw [readUtilityFunction_of_ne hne]
      rfl
  · have hname := And.imp_right isFunctionName_iff.mpr h
    exact ⟨o.utilityFunction, Failure.ofConfig_eq_ok_iff.mpr (readUtilityFunction_eq_ok_iff.mpr hname)⟩
  · by_cases hname : ∃ s, value .utilityFunction = .text s ∧ isFunctionName s = true
    · obtain ⟨s, hs, hname⟩ := hname
      exact .inl ⟨{ byDefault with utilityFunction := s }, hs, isFunctionName_iff.mp hname⟩
    · refine .inr ⟨_, .notName fun name hmem => ?_⟩
      refine ⟨fun hs => hname ⟨_, hs, ?_⟩, fun hs => hname ⟨_, hs, ?_⟩⟩
      · exact isFunctionName_iff.mpr ⟨name, hmem, .inl rfl⟩
      · exact isFunctionName_iff.mpr ⟨name, hmem, .inr rfl⟩

theorem decides_commentTemplate :
    Decides value .commentTemplate
      (Failure.ofConfig (readCommentTemplate (value .commentTemplate))) := by
  refine Decides.of_cover (fun f h => ?_) (fun ⟨o, s, h, _⟩ => ?_) ?_
  · cases h with
    | notTemplate h =>
      rw [readCommentTemplate_of_ne h]
      rfl
  · exact ⟨s, Failure.ofConfig_eq_ok_iff.mpr (readCommentTemplate_eq_ok_iff.mpr h)⟩
  · by_cases htext : ∃ s, value .commentTemplate = .text s
    · obtain ⟨s, hs⟩ := htext
      exact .inl ⟨{ byDefault with commentTemplate := resolveTemplate s }, s, hs,
        resolves_resolveTemplate s⟩
    · exact .inr ⟨_, .notTemplate (not_exists.mp htext)⟩

theorem decides_groups :
    Decides value .groups
      (Rules.read (value .groupOrder) (value .mapping) (value .fallbackGroup)) := by
  refine Decides.of_cover (fun f h => ?_) (fun ⟨o, h, _⟩ => ⟨o.rules, h⟩) ?_
  · cases h with
    | groups h => exact h
  · cases hread : Rules.read (value .groupOrder) (value .mapping) (value .fallbackGroup) with
    | error f => exact .inr ⟨f, .groups hread⟩
    | ok rules =>
      let o : Options := { byDefault with
        groupOrder := rules.groupOrder, mapping := rules.mapping, fallbackGroup := rules.fallback }
      exact .inl ⟨o, hread, Rules.read_spelled hread⟩

theorem decides_order :
    Decides value .order (Failure.ofConfig (Order.read (value .order))) := by
  refine Decides.of_cover (fun f h => ?_) (fun ⟨o, h⟩ => ?_) ?_
  · cases h with
    | orderNotText h =>
      rw [Order.read_of_ne h]
      rfl
    | unknownOrder hs h =>
      rw [hs, Order.read_of_not_named h]
      rfl
  · exact ⟨o.order, Failure.ofConfig_eq_ok_iff.mpr (Order.read_eq_ok_iff.mpr h)⟩
  · by_cases htext : ∃ s, value .order = .text s
    · obtain ⟨s, hs⟩ := htext
      by_cases hname : ∃ order : Order, order.NamedBy (Text.lower (Text.strip s))
      · obtain ⟨order, hname⟩ := hname
        exact .inl ⟨{ byDefault with order := order }, s, hs, hname⟩
      · exact .inr ⟨_, .unknownOrder hs (not_exists.mp hname)⟩
    · exact .inr ⟨_, .orderNotText (not_exists.mp htext)⟩

end Check

/-! ### All checks in turn -/

section FirstFailure

variable {value : Field → Value} {c : Check} {checks : List Check} {f : Failure}

theorem not_firstFailure_nil : ¬FirstFailure value [] f := nofun

theorem firstFailure_cons_iff :
    FirstFailure value (c :: checks) f ↔
      c.Raises value f ∨ c.Passes value ∧ FirstFailure value checks f := by
  constructor
  · intro h
    cases h with
    | here h => exact .inl h
    | later hpass h => exact .inr ⟨hpass, h⟩
  · rintro (h | ⟨hpass, h⟩)
    · exact .here h
    · exact .later hpass h

theorem FirstFailure.bind_iff {α β : Type} {r : Except Failure α} {rest : α → Except Failure β}
    (h : c.Decides value r)
    (hrest : ∀ a f, rest a = .error f ↔ FirstFailure value checks f) (f : Failure) :
    (r >>= rest) = .error f ↔ FirstFailure value (c :: checks) f := by
  rw [bind_eq_error_iff, firstFailure_cons_iff, h.raises_iff, ← h.passes_iff]
  refine or_congr_right ⟨fun ⟨a, ha, hf⟩ => ?_, fun ⟨⟨a, ha⟩, hf⟩ => ?_⟩
  · exact ⟨⟨a, ha⟩, (hrest a f).mp hf⟩
  · exact ⟨a, ha, (hrest a f).mpr hf⟩

end FirstFailure

theorem ofGiven_eq_error_iff {given : Given} {f : Failure} :
    ofGiven given = .error f ↔ FirstFailure given.value Check.all f := by
  refine FirstFailure.bind_iff Check.decides_threshold (fun _ f => ?_) f
  refine FirstFailure.bind_iff Check.decides_indentWidth (fun _ f => ?_) f
  refine FirstFailure.bind_iff Check.decides_showGroupNames (fun _ f => ?_) f
  refine FirstFailure.bind_iff Check.decides_utilityFunction (fun _ f => ?_) f
  refine FirstFailure.bind_iff Check.decides_commentTemplate (fun _ f => ?_) f
  refine FirstFailure.bind_iff Check.decides_groups (fun _ f => ?_) f
  refine FirstFailure.bind_iff Check.decides_order (fun _ f => ?_) f
  constructor
  · intro h
    cases h
  · exact fun h => absurd h not_firstFailure_nil

theorem checked_iff {given : Given} {o : Options} :
    Checked given o ↔ ∀ c : Check, c.Yields given.value o := by
  constructor
  · intro h c
    cases c with
    | threshold => exact readThreshold_eq_ok_iff.mp h.threshold
    | indentWidth => exact readIndentWidth_eq_ok_iff.mp h.indentWidth
    | showGroupNames => exact readShowGroupNames_eq_ok_iff.mp h.showGroupNames
    | utilityFunction =>
      exact And.imp_right isFunctionName_iff.mp (readUtilityFunction_eq_ok_iff.mp h.utilityFunction)
    | commentTemplate =>
      obtain ⟨s, hs, hresolved⟩ := h.commentTemplate
      exact ⟨s, readCommentTemplate_eq_ok_iff.mp hs, resolves_iff.mpr hresolved⟩
    | groups => exact ⟨h.rules, Rules.read_spelled h.rules⟩
    | order => exact Order.read_eq_ok_iff.mp h.order
  · intro h
    obtain ⟨s, hs, hresolves⟩ := h .commentTemplate
    exact {
      threshold := readThreshold_eq_ok_iff.mpr (h .threshold)
      indentWidth := readIndentWidth_eq_ok_iff.mpr (h .indentWidth)
      showGroupNames := readShowGroupNames_eq_ok_iff.mpr (h .showGroupNames)
      utilityFunction :=
        readUtilityFunction_eq_ok_iff.mpr (And.imp_right isFunctionName_iff.mpr (h .utilityFunction))
      commentTemplate := ⟨s, readCommentTemplate_eq_ok_iff.mpr hs, resolves_iff.mp hresolves⟩
      rules := (h .groups).1
      order := Order.read_eq_ok_iff.mpr (h .order) }

theorem read_eq_error_iff {raw : Value} {trace : Trace} {f : Failure} :
    (read raw).result trace = .error f ↔
      (∃ e, Given.Defect raw e ∧ f = .configuration e) ∨
        ∃ given, Given.ReadOff raw given ∧ FirstFailure given.value Check.all f := by
  rw [read_result, ofValue]
  simp only [bind_eq_error_iff, Failure.ofConfig_eq_error_iff, Failure.ofConfig_eq_ok_iff,
    Given.ofValue_eq_ok_iff, Given.ofValue_eq_error_iff, ofGiven_eq_error_iff]

/-- Options are read off a value just when its keys are right and the values of the fields, those given merged
over the defaults, pass all checks, which determine what the options hold. Otherwise the first key that is
wrong decides the failure, or if there is none the first check that does not pass. -/
theorem read_decided (raw : Value) (trace : Trace) :
    (∀ o, (read raw).result trace = .ok o ↔
      ∃ given value, Given.ReadOff raw given ∧ Given.Merges given value ∧
        ∀ c : Check, c.Yields value o) ∧
    ∀ f, (read raw).result trace = .error f ↔
      (∃ e, Given.Defect raw e ∧ f = .configuration e) ∨
        ∃ given value, Given.ReadOff raw given ∧ Given.Merges given value ∧
          FirstFailure value Check.all f := by
  have hmerged : ∀ P : (Field → Value) → Prop, (∃ given, Given.ReadOff raw given ∧ P given.value) ↔
      ∃ given value, Given.ReadOff raw given ∧ Given.Merges given value ∧ P value := by
    intro P
    constructor
    · rintro ⟨given, hgiven, h⟩
      exact ⟨given, _, hgiven, (Given.merges_iff hgiven.nodup).mpr rfl, h⟩
    · rintro ⟨given, value, hgiven, hmerges, h⟩
      exact ⟨given, hgiven, (Given.merges_iff hgiven.nodup).mp hmerges ▸ h⟩
  refine ⟨fun o => ?_, fun f => ?_⟩
  · rw [read_eq_ok_iff, ← hmerged fun value => ∀ c : Check, c.Yields value o]
    simp only [checked_iff]
  · rw [read_eq_error_iff, hmerged fun value => FirstFailure value Check.all f]

/-- A preset under its name in snake case, with defaults for all other fields. Of three defects in another
value, the one whose check comes first is named, though its key comes last. -/
theorem read_decided_preset :
    let raw : Value := .object [(.text "comment_template", .text "numbered")]
    let defective : Value := .object [(.text "order", .int 1), (.text "groupOrder", .null),
      (.text "indent_width", .int (-1))]
    (∃ o given value, (read raw).result {} = .ok o ∧ Given.ReadOff raw given ∧
      Given.Merges given value ∧ (∀ c : Check, c.Yields value o) ∧
      o.commentTemplate = "// \x7bindex\x7d. \x7bgroupName\x7d".toList) ∧
    ∃ given value, (read defective).result {} =
        .error (.configuration (.negative .indentWidth (.int (-1)))) ∧
      Given.ReadOff defective given ∧ Given.Merges given value ∧
      FirstFailure value Check.all (.configuration (.negative .indentWidth (.int (-1)))) := by
  intro raw defective
  have hread : (read raw).result {} =
      .ok { byDefault with commentTemplate := "// \x7bindex\x7d. \x7bgroupName\x7d" } := by rfl
  have hfails : (read defective).result {} =
      .error (.configuration (.negative .indentWidth (.int (-1)))) := by rfl
  obtain ⟨given, value, hgiven, hmerges, hyields⟩ := ((read_decided raw {}).1 _).mp hread
  refine ⟨⟨_, given, value, hread, hgiven, hmerges, hyields, rfl⟩, ?_⟩
  rcases ((read_decided defective {}).2 _).mp hfails with ⟨e, hdefect, he⟩ | ⟨given, value, h⟩
  · cases he
    generalize defective = v at hdefect
    cases hdefect
  · exact ⟨given, value, hfails, h⟩

end Options

end ClassList
