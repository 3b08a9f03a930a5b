import ClassList.Proofs.Objects
import ClassList.Proofs.Options.Checks

/-! Verdicts on configurations: a check accepts or it names a defect. One check does more. The fallback
is looked up before its kind is known, which stops the reading where the value cannot be looked up. -/

namespace ClassList

/-- A result is a verdict on a configuration if it accepts or names a defect. -/
def IsVerdict {α : Type} (r : Except Failure α) : Prop :=
  (∃ a, r = .ok a) ∨ ∃ e, r = .error (.configuration e)

theorem isVerdict_or_notKey {α : Type} {r : Except Failure α}
    (h : ∀ f, r = .error f → (∃ e, f = .configuration e) ∨ ∃ v, f = .notKey v) :
    IsVerdict r ∨ ∃ v, r = .error (.notKey v) := by
  cases r with
  | ok a => exact .inl (.inl ⟨a, rfl⟩)
  | error f =>
    rcases h f rfl with ⟨e, rfl⟩ | ⟨v, rfl⟩
    · exact .inl (.inr ⟨e, rfl⟩)
    · exact .inr ⟨v, rfl⟩

theorem not_isVerdict_notKey {α : Type} {r : Except Failure α} {v : Value}
    (h : r = .error (.notKey v)) : ¬IsVerdict r := by
  rintro (⟨a, ha⟩ | ⟨e, he⟩)
  · cases h.symm.trans ha
  · cases h.symm.trans he

namespace Rules

variable {groupOrder mapping fallback : Value}

theorem readFallback_eq_error {names : List Text} {f : Failure}
    (h : readFallback names fallback = .error f) :
    (∃ e, f = .configuration e) ∨ fallback.isKey = false ∧ f = .notKey fallback := by
  rw [readFallback] at h
  split at h
  · split at h
    · cases h
    · cases h
      exact .inl ⟨_, rfl⟩
  · rename_i hkey
    cases h
    exact .inr ⟨Bool.eq_false_iff.mpr hkey, rfl⟩

theorem readFallback_of_not_key (h : fallback.isKey = false) (names : List Text) :
    readFallback names fallback = .error (.notKey fallback) := by
  rw [readFallback, h]
  rfl

/-- The check of a configuration fails with a defect, or at the fallback once all else has passed. -/
theorem read_eq_error {f : Failure} (h : read groupOrder mapping fallback = .error f) :
    (∃ e, f = .configuration e) ∨ fallback.isKey = false ∧ f = .notKey fallback := by
  rcases groupsRead_or_error groupOrder mapping with ⟨names, entries, hgroups⟩ | ⟨e, he⟩
  · rw [hgroups.read_eq, map_eq_error_iff] at h
    exact readFallback_eq_error h
  · rw [he] at h
    cases h
    exact .inl ⟨e, rfl⟩

theorem read_eq_notKey_iff {v : Value} :
    read groupOrder mapping fallback = .error (.notKey v) ↔
      fallback = v ∧ v.isKey = false ∧
        ∃ names entries, GroupsRead groupOrder mapping names entries := by
  constructor
  · intro h
    rcases groupsRead_or_error groupOrder mapping with hgroups | ⟨e, he⟩
    · obtain ⟨e, he⟩ | ⟨hkey, hv⟩ := read_eq_error h
      · cases he
      · cases hv
        exact ⟨rfl, hkey, hgroups⟩
    · cases (he fallback).symm.trans h
  · rintro ⟨rfl, hkey, names, entries, hgroups⟩
    rw [hgroups.read_eq, map_eq_error_iff]
    exact readFallback_of_not_key hkey names

end Rules

namespace Options

namespace Check

variable {value : Field → Value} {v : Value}

/-- The checks that are made before that of the groups. -/
def beforeGroups : List Check :=
  [.threshold, .indentWidth, .showGroupNames, .utilityFunction, .commentTemplate]

theorem raises_notKey_iff {c : Check} :
    c.Raises value (.notKey v) ↔ c = .groups ∧
      Rules.read (value .groupOrder) (value .mapping) (value .fallbackGroup) = .error (.notKey v) := by
  constructor
  · intro h
    cases h with
    | groups h => exact ⟨rfl, h⟩
  · rintro ⟨rfl, h⟩
    exact .groups h

theorem Raises.configuration_or_notKey {c : Check} {f : Failure} (h : c.Raises value f) :
    (∃ e, f = .configuration e) ∨ ∃ v, f = .notKey v := by
  cases h with
  | groups h => exact (Rules.read_eq_error h).imp_right fun ⟨_, hf⟩ => ⟨_, hf⟩
  | _ => exact .inl ⟨_, rfl⟩

end Check

variable {value : Field → Value} {v : Value}

theorem FirstFailure.raises {checks : List Check} {f : Failure} (h : FirstFailure value checks f) :
    ∃ c : Check, c.Raises value f := by
  induction h with
  | here h => exact ⟨_, h⟩
  | later _ _ ih => exact ih

theorem firstFailure_notKey_iff :
    FirstFailure value Check.all (.notKey v) ↔ (∀ c ∈ Check.beforeGroups, c.Passes value) ∧
      Rules.read (value .groupOrder) (value .mapping) (value .fallbackGroup) = .error (.notKey v) := by
  simp [Check.all, Check.beforeGroups, firstFailure_cons_iff, not_firstFailure_nil,
    Check.raises_notKey_iff, and_assoc]

theorem read_eq_error {raw : Value} {trace : Trace} {f : Failure}
    (h : (read raw).result trace = .error f) :
    (∃ e, f = .configuration e) ∨ ∃ v, f = .notKey v := by
  rcases read_eq_error_iff.mp h with ⟨e, -, rfl⟩ | ⟨given, -, hfirst⟩
  · exact .inl ⟨e, rfl⟩
  · obtain ⟨c, hraises⟩ := hfirst.raises
    exact hraises.configuration_or_notKey

theorem read_eq_notKey_iff {raw : Value} {trace : Trace} :
    (read raw).result trace = .error (.notKey v) ↔
      ∃ given, Given.ReadOff raw given ∧ (∀ c ∈ Check.beforeGroups, c.Passes given.value) ∧
        given.value .fallbackGroup = v ∧ v.isKey = false ∧
        ∃ names entries,
          Rules.GroupsRead (given.value .groupOrder) (given.value .mapping) names entries := by
  simp only [read_eq_error_iff, firstFailure_notKey_iff, Rules.read_eq_notKey_iff]
  simp

/-- Reading options off a value comes to a verdict, and so does the check of groups by itself, but for
a fallback that cannot be looked up, where everything in front of it passes. -/
theorem read_verdict (raw : Value) (trace : Trace) :
    (IsVerdict ((read raw).result trace) ∨ ∃ v, (read raw).result trace = .error (.notKey v)) ∧
    (∀ v, (read raw).result trace = .error (.notKey v) ↔
      ∃ given, Given.ReadOff raw given ∧ (∀ c ∈ Check.beforeGroups, c.Passes given.value) ∧
        given.value .fallbackGroup = v ∧ v.isKey = false ∧
        ∃ names entries,
          Rules.GroupsRead (given.value .groupOrder) (given.value .mapping) names entries) ∧
    ∀ groupOrder mapping fallback,
      (IsVerdict (Rules.read groupOrder mapping fallback) ∨
        ∃ v, Rules.read groupOrder mapping fallback = .error (.notKey v)) ∧
      ∀ v, Rules.read groupOrder mapping fallback = .error (.notKey v) ↔
        fallback = v ∧ v.isKey = false ∧
          ∃ names entries, Rules.GroupsRead groupOrder mapping names entries := by
  refine ⟨isVerdict_or_notKey fun _ h => read_eq_error h, fun v => read_eq_notKey_iff,
    fun groupOrder mapping fallback => ⟨isVerdict_or_notKey fun _ h => ?_, fun v => ?_⟩⟩
  · exact (Rules.read_eq_error h).imp_right fun ⟨_, hf⟩ => ⟨_, hf⟩
  · exact Rules.read_eq_notKey_iff

/-- A list is looked up as a fallback although it cannot be. -/
theorem read_list_fallback :
    let raw : Value := .object [(.text "fallbackGroup", .list [])]
    raw.isWellFormed = true ∧ (read raw).result {} = .error (.notKey (.list [])) ∧
      ¬IsVerdict ((read raw).result {}) := by
  intro raw
  have hread : (read raw).result {} = .error (.notKey (.list [])) := by rfl
  exact ⟨rfl, hread, not_isVerdict_notKey hread⟩

end Options

end ClassList
