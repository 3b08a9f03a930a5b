import ClassList.Proofs.Options.Keys

/-! Well-formed values, in whose objects no key is given twice: the mapping that is read off such a
value declares no group twice. -/

namespace ClassList

namespace Value

mutual

/-- Whether no object in the value has two entries with the same key. -/
def isWellFormed : Value → Bool
  | .list items => areWellFormed items
  | .tuple items => areWellFormed items
  | .object entries => entriesWellFormed entries
  | _ => true

def areWellFormed : List Value → Bool
  | [] => true
  | item :: items => isWellFormed item && areWellFormed items

def entriesWellFormed : List (Value × Value) → Bool
  | [] => true
  | (key, item) :: entries =>
    !entries.any (fun e => key.sameKey e.1) && isWellFormed item && entriesWellFormed entries

end

theorem sameKey_text (s t : Text) : (text s).sameKey (text t) = decide (s = t) := rfl

theorem isWellFormed_of_mem {entries : List (Value × Value)} (h : entriesWellFormed entries = true)
    {entry : Value × Value} (hentry : entry ∈ entries) : entry.2.isWellFormed = true := by
  induction entries with
  | nil => cases hentry
  | cons first entries ih =>
    obtain ⟨key, item⟩ := first
    simp only [entriesWellFormed, Bool.and_eq_true] at h
    rcases List.mem_cons.mp hentry with rfl | hentry
    · exact h.1.2
    · exact ih h.2 hentry

theorem nodup_of_keys {names : List Text} {entries : List (Value × Value)}
    (h : entriesWellFormed entries = true) (hkeys : entries.map Prod.fst = names.map Value.text) :
    names.Nodup := by
  induction names generalizing entries with
  | nil => exact List.nodup_nil
  | cons name names ih =>
    cases entries with
    | nil => cases hkeys
    | cons first entries =>
      obtain ⟨key, item⟩ := first
      obtain ⟨rfl, hrest⟩ := List.cons.inj hkeys
      simp only [entriesWellFormed, Bool.and_eq_true, Bool.not_eq_true'] at h
      refine List.nodup_cons.mpr ⟨fun hmem => ?_, ih h.2 hrest⟩
      have hkey : Value.text name ∈ entries.map Prod.fst := hrest ▸ List.mem_map_of_mem hmem
      obtain ⟨entry, hentry, hname⟩ := List.mem_map.mp hkey
      have hdiffer := List.any_eq_false.mp h.1.1 entry hentry
      rw [hname, sameKey_text] at hdiffer
      exact hdiffer (decide_eq_true rfl)

end Value

namespace Rules

theorem SpelledBy.nodup {rules : Rules} {groupOrder mapping fallback : Value}
    (h : rules.SpelledBy groupOrder mapping fallback) (hmapping : mapping.isWellFormed = true) :
    (rules.mapping.map Prod.fst).Nodup := by
  obtain ⟨entries, rfl, hentries⟩ := h.mapping_entries
  have hkeys := congrArg (List.map Prod.fst) hentries
  simp only [List.map_map, Function.comp_def] at hkeys
  refine Value.nodup_of_keys hmapping (hkeys.symm.trans ?_)
  rw [List.map_map]
  rfl

end Rules

namespace Options

namespace Given

theorem ReadOff.wellFormed {raw : Value} {given : Given} (h : ReadOff raw given)
    (hraw : raw.isWellFormed = true) : ∀ x ∈ given, x.2.isWellFormed = true := by
  rcases h with ⟨rfl, rfl⟩ | ⟨entries, rfl, hlists⟩
  · simp
  · intro x hx
    have hitem : x.2 ∈ entries.map Prod.snd := hlists.items_eq ▸ List.mem_map_of_mem hx
    obtain ⟨entry, hentry, heq⟩ := List.mem_map.mp hitem
    exact heq ▸ Value.isWellFormed_of_mem hraw hentry

theorem value_wellFormed {given : Given} (h : ∀ x ∈ given, x.2.isWellFormed = true) (field : Field) :
    (given.value field).isWellFormed = true := by
  rw [value]
  cases hlookup : given.lookup field with
  | none => cases field <;> rfl
  | some v =>
    obtain ⟨front, back, rfl, -⟩ := List.lookup_eq_some_iff.mp hlookup
    exact h (field, v) (by simp)

end Given

/-- The options can be read off a well-formed value. -/
def Parsed (o : Options) : Prop :=
  ∃ raw trace, raw.isWellFormed = true ∧ (read raw).result trace = .ok o

theorem Parsed.accepted {o : Options} (h : o.Parsed) : o.Accepted := by
  obtain ⟨raw, trace, -, h⟩ := h
  exact ⟨raw, trace, h⟩

theorem Parsed.mapping_nodup {o : Options} (h : o.Parsed) : (o.mapping.map Prod.fst).Nodup := by
  obtain ⟨raw, trace, hraw, h⟩ := h
  obtain ⟨given, hgiven, hchecked⟩ := read_eq_ok_iff.mp h
  have hmapping := Given.value_wellFormed (hgiven.wellFormed hraw) .mapping
  exact (Rules.read_spelled hchecked.rules).nodup hmapping

end Options

end ClassList
