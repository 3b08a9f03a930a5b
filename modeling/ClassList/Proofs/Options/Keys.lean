import Mathlib.Data.List.Forall2
import ClassList.Proofs.Options.Documented

/-! The keys of options: which fields an object gives, and which of its keys is the first that is wrong.
The fields can be given in any order and under either of their names. -/

namespace ClassList

namespace Field

theorem mem_all (field : Field) : field ∈ all := by
  cases field <;> decide

theorem ofKey?_eq_some_iff {key : Value} {field : Field} :
    ofKey? key = some field ↔ field.NamedBy key := by
  constructor
  · intro h
    have hfound :=
      List.find?_some (p := fun f : Field => key.isText f.optionName || key.isText f.name) h
    rw [Bool.or_eq_true, Rules.isText_iff, Rules.isText_iff] at hfound
    exact namedBy_iff.mpr hfound
  · intro h
    rcases namedBy_iff.mp h with rfl | rfl
    · cases field <;> rfl
    · cases field <;> rfl

theorem ofKey?_eq_none_iff {key : Value} : ofKey? key = none ↔ ∀ field : Field, ¬field.NamedBy key := by
  rw [Option.eq_none_iff_forall_ne_some]
  exact forall_congr' fun field => not_congr ofKey?_eq_some_iff

/-- No two fields share a name. -/
theorem NamedBy.unique {field other : Field} {key : Value} (h : field.NamedBy key)
    (hother : other.NamedBy key) : field = other :=
  Option.some.inj ((ofKey?_eq_some_iff.mpr h).symm.trans (ofKey?_eq_some_iff.mpr hother))

end Field

namespace Options.Given

/-- What an entry gives: the field that its key names, and its item. -/
def Gives (entry : Value × Value) (given : Field × Value) : Prop :=
  given.1.NamedBy entry.1 ∧ given.2 = entry.2

/-- What the entries of an object give, in their order: each of them gives a field, and no two of them
the same one. -/
structure Lists (entries : List (Value × Value)) (given : Given) : Prop where
  gives : List.Forall₂ Gives entries given
  nodup : (given.map Prod.fst).Nodup

/-- What a value gives: nothing for null, and for an object what its entries give. -/
def ReadOff (raw : Value) (given : Given) : Prop :=
  (raw = .null ∧ given = []) ∨ ∃ entries, raw = .object entries ∧ Lists entries given

theorem ReadOff.nodup {raw : Value} {given : Given} (h : ReadOff raw given) :
    (given.map Prod.fst).Nodup := by
  rcases h with ⟨-, rfl⟩ | ⟨entries, -, hlists⟩
  · exact List.nodup_nil
  · exact hlists.nodup

/-- What is wrong with the keys of a value. It is no object, or one of its keys, after others that are
right, names no field or a field that was named before. -/
inductive Defect : Value → ConfigError → Prop
  | notObject {raw} : raw ≠ .null → (∀ entries, raw ≠ .object entries) →
      Defect raw (.optionsNotObject raw)
  | unknown {front back given key item} : Lists front given → (∀ field : Field, ¬field.NamedBy key) →
      Defect (.object (front ++ (key, item) :: back)) (.unknownOption key)
  | repeated {front back given key item field} : Lists front given → field.NamedBy key →
      field ∈ given.map Prod.fst →
      Defect (.object (front ++ (key, item) :: back)) (.repeatedOption key)

section

variable {seen : List Field} {entries front back : List (Value × Value)} {given : Given}
  {key item : Value} {field : Field}

theorem ofEntries_of_none (h : Field.ofKey? key = none) :
    ofEntries seen ((key, item) :: entries) = .error (.unknownOption key) := by
  rw [ofEntries, h]

theorem ofEntries_of_mem (h : Field.ofKey? key = some field) (hseen : field ∈ seen) :
    ofEntries seen ((key, item) :: entries) = .error (.repeatedOption key) := by
  simp only [ofEntries, h, if_pos hseen]

theorem ofEntries_of_not_mem (h : Field.ofKey? key = some field) (hseen : field ∉ seen) :
    ofEntries seen ((key, item) :: entries) =
      (ofEntries (field :: seen) entries).map ((field, item) :: ·) := by
  simp only [ofEntries, h, if_neg hseen]
  rfl

theorem ofEntries_cons_eq_ok_iff :
    ofEntries seen ((key, item) :: entries) = .ok given ↔
      ∃ field rest, Field.ofKey? key = some field ∧ field ∉ seen ∧
        ofEntries (field :: seen) entries = .ok rest ∧ (field, item) :: rest = given := by
  cases hkey : Field.ofKey? key with
  | none => simp [ofEntries_of_none hkey]
  | some field =>
    by_cases hseen : field ∈ seen
    · simp [ofEntries_of_mem hkey hseen, hseen]
    · simp [ofEntries_of_not_mem hkey hseen, map_eq_ok_iff, hseen]

theorem lists_nil_iff : Lists [] given ↔ given = [] := by
  constructor
  · exact fun h => List.forall₂_nil_left_iff.mp h.gives
  · rintro rfl
    exact ⟨.nil, List.nodup_nil⟩

theorem lists_cons_iff :
    Lists ((key, item) :: entries) given ↔ ∃ (field : Field) (rest : Given), field.NamedBy key ∧
      Lists entries rest ∧ field ∉ rest.map Prod.fst ∧ (field, item) :: rest = given := by
  constructor
  · rintro ⟨hgives, hnodup⟩
    obtain ⟨⟨field, v⟩, rest, ⟨hnamed, rfl⟩, hrest, rfl⟩ := List.forall₂_cons_left_iff.mp hgives
    obtain ⟨hfield, hnodup⟩ := List.nodup_cons.mp hnodup
    exact ⟨field, rest, hnamed, ⟨hrest, hnodup⟩, hfield, rfl⟩
  · rintro ⟨field, rest, hnamed, hrest, hfield, rfl⟩
    exact ⟨.cons ⟨hnamed, rfl⟩ hrest.gives, List.nodup_cons.mpr ⟨hfield, hrest.nodup⟩⟩

theorem Lists.items_eq (h : Lists entries given) : given.map Prod.snd = entries.map Prod.snd := by
  induction entries generalizing given with
  | nil =>
    rw [lists_nil_iff.mp h]
    rfl
  | cons entry entries ih =>
    obtain ⟨field, rest, -, hrest, -, rfl⟩ := lists_cons_iff.mp h
    rw [List.map_cons, List.map_cons, ih hrest]

/-- The keys of entries are read if they name different fields, none of them named before. -/
theorem ofEntries_eq_ok_iff :
    ofEntries seen entries = .ok given ↔
      Lists entries given ∧ ∀ field ∈ given.map Prod.fst, field ∉ seen := by
  induction entries generalizing seen given with
  | nil =>
    rw [lists_nil_iff, ofEntries, Except.ok.injEq, eq_comm]
    constructor
    · rintro rfl
      exact ⟨rfl, by simp⟩
    · exact fun h => h.1
  | cons entry entries ih =>
    obtain ⟨key, item⟩ := entry
    rw [lists_cons_iff, ofEntries_cons_eq_ok_iff]
    constructor
    · rintro ⟨field, rest, hkey, hseen, hrest, rfl⟩
      obtain ⟨hlists, hnew⟩ := ih.mp hrest
      refine ⟨⟨field, rest, Field.ofKey?_eq_some_iff.mp hkey, hlists, fun hmem => ?_, rfl⟩,
        fun other hother => ?_⟩
      · exact hnew field hmem (List.mem_cons_self ..)
      · rcases List.mem_cons.mp hother with rfl | hother
        · exact hseen
        · exact fun hmem => hnew other hother (List.mem_cons_of_mem _ hmem)
    · rintro ⟨⟨field, rest, hnamed, hlists, hfield, rfl⟩, hnew⟩
      refine ⟨field, rest, Field.ofKey?_eq_some_iff.mpr hnamed, hnew field (List.mem_cons_self ..),
        ih.mpr ⟨hlists, fun other hother => ?_⟩, rfl⟩
      rw [List.mem_cons, not_or]
      exact ⟨fun heq => hfield (heq ▸ hother), hnew other (List.mem_cons_of_mem _ hother)⟩

/-- Entries behind others whose keys are read. -/
theorem ofEntries_append (h : ofEntries seen front = .ok given) :
    ofEntries seen (front ++ back) =
      (ofEntries ((given.map Prod.fst).reverse ++ seen) back).map (given ++ ·) := by
  induction front generalizing seen given with
  | nil =>
    cases h
    cases hback : ofEntries seen back <;> simp [hback, Except.map]
  | cons entry front ih =>
    obtain ⟨key, item⟩ := entry
    obtain ⟨field, rest, hkey, hseen, hrest, rfl⟩ := ofEntries_cons_eq_ok_iff.mp h
    rw [List.cons_append, ofEntries_of_not_mem hkey hseen, ih hrest, List.map_cons, List.reverse_cons,
      List.append_assoc, List.singleton_append]
    cases ofEntries ((rest.map Prod.fst).reverse ++ field :: seen) back <;> rfl

theorem ofEntries_cons_eq_error_iff {e : ConfigError} :
    ofEntries seen ((key, item) :: entries) = .error e ↔
      (Field.ofKey? key = none ∧ .unknownOption key = e) ∨ ∃ field, Field.ofKey? key = some field ∧
        if field ∈ seen then .repeatedOption key = e
        else ofEntries (field :: seen) entries = .error e := by
  cases hkey : Field.ofKey? key with
  | none => simp [ofEntries_of_none hkey]
  | some field =>
    by_cases hseen : field ∈ seen
    · simp [ofEntries_of_mem hkey hseen, hseen]
    · simp [ofEntries_of_not_mem hkey hseen, map_eq_error_iff, hseen]

/-- Reading the keys of entries fails at the first one that names no field, or a field named before. -/
theorem ofEntries_eq_error_iff {e : ConfigError} :
    ofEntries seen entries = .error e ↔ ∃ front key item back given,
      entries = front ++ (key, item) :: back ∧ ofEntries seen front = .ok given ∧
        ((Field.ofKey? key = none ∧ .unknownOption key = e) ∨ ∃ field, Field.ofKey? key = some field ∧
          field ∈ (given.map Prod.fst).reverse ++ seen ∧ .repeatedOption key = e) := by
  constructor
  · intro h
    induction entries generalizing seen with
    | nil => cases h
    | cons entry entries ih =>
      obtain ⟨key, item⟩ := entry
      rcases ofEntries_cons_eq_error_iff.mp h with hunknown | ⟨field, hkey, h⟩
      · exact ⟨[], key, item, entries, [], rfl, rfl, .inl hunknown⟩
      · by_cases hseen : field ∈ seen
        · rw [if_pos hseen] at h
          exact ⟨[], key, item, entries, [], rfl, rfl, .inr ⟨field, hkey, hseen, h⟩⟩
        · rw [if_neg hseen] at h
          obtain ⟨front, key', item', back, given, rfl, hfront, hwrong⟩ := ih h
          refine ⟨(key, item) :: front, key', item', back, (field, item) :: given, rfl, ?_, ?_⟩
          · exact ofEntries_cons_eq_ok_iff.mpr ⟨field, given, hkey, hseen, hfront, rfl⟩
          · simpa [or_assoc, or_comm, or_left_comm] using hwrong
  · rintro ⟨front, key, item, back, given, rfl, hfront, hwrong⟩
    rw [ofEntries_append hfront, map_eq_error_iff, ofEntries_cons_eq_error_iff]
    rcases hwrong with hunknown | ⟨field, hkey, hseen, he⟩
    · exact .inl hunknown
    · exact .inr ⟨field, hkey, by rwa [if_pos hseen]⟩

end

variable {raw : Value} {given : Given}

theorem ofEntries_nil_eq_ok_iff {entries : List (Value × Value)} :
    ofEntries [] entries = .ok given ↔ Lists entries given := by
  rw [ofEntries_eq_ok_iff]
  exact and_iff_left fun _ _ => List.not_mem_nil

/-- The fields that a value gives are those that can be read off it. -/
theorem ofValue_eq_ok_iff : ofValue raw = .ok given ↔ ReadOff raw given := by
  cases raw with
  | null => simp [ofValue, ReadOff, eq_comm]
  | object entries => simp [ofValue, ReadOff, ofEntries_nil_eq_ok_iff]
  | _ => simp [ofValue, ReadOff]

theorem readOff_object_iff {entries : List (Value × Value)} :
    ReadOff (.object entries) given ↔ Lists entries given := by
  simp [ReadOff]

theorem ofValue_object_eq_error_iff {entries : List (Value × Value)} {e : ConfigError} :
    ofValue (.object entries) = .error e ↔ Defect (.object entries) e := by
  rw [ofValue, ofEntries_eq_error_iff]
  constructor
  · rintro ⟨front, key, item, back, given, rfl, hfront, ⟨hkey, rfl⟩ | ⟨field, hkey, hmem, rfl⟩⟩
    · exact .unknown (ofEntries_nil_eq_ok_iff.mp hfront) (Field.ofKey?_eq_none_iff.mp hkey)
    · rw [List.append_nil, List.mem_reverse] at hmem
      exact .repeated (ofEntries_nil_eq_ok_iff.mp hfront) (Field.ofKey?_eq_some_iff.mp hkey) hmem
  · intro h
    generalize hraw : Value.object entries = raw at h
    cases h with
    | notObject hnull hobject => exact absurd hraw.symm (hobject entries)
    | @unknown front back given key item hfront hkey =>
      cases hraw
      exact ⟨front, key, item, back, given, rfl, ofEntries_nil_eq_ok_iff.mpr hfront,
        .inl ⟨Field.ofKey?_eq_none_iff.mpr hkey, rfl⟩⟩
    | @repeated front back given key item field hfront hkey hmem =>
      cases hraw
      refine ⟨front, key, item, back, given, rfl, ofEntries_nil_eq_ok_iff.mpr hfront,
        .inr ⟨field, Field.ofKey?_eq_some_iff.mpr hkey, ?_, rfl⟩⟩
      rwa [List.append_nil, List.mem_reverse]

theorem ofValue_of_not_object (hnull : raw ≠ .null) (hobject : ∀ entries, raw ≠ .object entries) :
    ofValue raw = .error (.optionsNotObject raw) := by
  cases raw with
  | null => exact absurd rfl hnull
  | object entries => exact absurd rfl (hobject entries)
  | _ => rfl

/-- Reading the fields off a value fails with what is wrong with its keys first. -/
theorem ofValue_eq_error_iff {e : ConfigError} : ofValue raw = .error e ↔ Defect raw e := by
  constructor
  · intro h
    by_cases hobject : ∃ entries, raw = .object entries
    · obtain ⟨entries, rfl⟩ := hobject
      exact ofValue_object_eq_error_iff.mp h
    · have hnull : raw ≠ .null := by
        rintro rfl
        cases h
      have hobject : ∀ entries, raw ≠ .object entries := not_exists.mp hobject
      rw [ofValue_of_not_object hnull hobject] at h
      cases h
      exact .notObject hnull hobject
  · intro h
    cases h with
    | notObject hnull hobject => exact ofValue_of_not_object hnull hobject
    | unknown hfront hkey => exact ofValue_object_eq_error_iff.mpr (.unknown hfront hkey)
    | repeated hfront hkey hmem => exact ofValue_object_eq_error_iff.mpr (.repeated hfront hkey hmem)

end Options.Given

/-- Options are read off a value if the fields that it gives pass all checks. -/
theorem Options.read_eq_ok_iff {raw : Value} {trace : Trace} {o : Options} :
    (read raw).result trace = .ok o ↔ ∃ given, Given.ReadOff raw given ∧ Checked given o := by
  rw [read_result, ofValue]
  simp only [bind_eq_ok_iff, Failure.ofConfig_eq_ok_iff, Given.ofValue_eq_ok_iff, ofGiven_eq_ok_iff]

end ClassList
