import ClassList.Error

/-! Checks one after the other: what a check that passes says about its parts. -/

namespace ClassList

variable {ε α β : Type}

theorem ok_bind (a : α) (f : α → Except ε β) : (Except.ok a >>= f) = f a := rfl

theorem toOption_eq_some_iff {r : Except ε α} {a : α} :
    r.toOption = some a ↔ r = .ok a := by
  cases r <;> simp [Except.toOption]

theorem bind_eq_ok_iff {r : Except ε α} {f : α → Except ε β} {b : β} :
    (r >>= f) = .ok b ↔ ∃ a, r = .ok a ∧ f a = .ok b := by
  cases r with
  | error e =>
    constructor
    · intro h
      cases h
    · rintro ⟨a, ha, -⟩
      cases ha
  | ok a =>
    constructor
    · exact fun h => ⟨a, rfl, h⟩
    · rintro ⟨c, hc, h⟩
      cases hc
      exact h

theorem bind_eq_error_iff {r : Except ε α} {f : α → Except ε β} {e : ε} :
    (r >>= f) = .error e ↔ r = .error e ∨ ∃ a, r = .ok a ∧ f a = .error e := by
  cases r with
  | error e' =>
    constructor
    · exact fun h => .inl (congrArg Except.error (Except.error.inj h))
    · rintro (h | ⟨a, ha, -⟩)
      · rw [Except.error.inj h]
        rfl
      · cases ha
  | ok a =>
    constructor
    · exact fun h => .inr ⟨a, rfl, h⟩
    · rintro (h | ⟨b, hb, h⟩)
      · cases h
      · cases hb
        exact h

theorem map_eq_ok_iff {r : Except ε α} {f : α → β} {b : β} :
    r.map f = .ok b ↔ ∃ a, r = .ok a ∧ f a = b := by
  cases r <;> simp [Except.map]

theorem map_eq_error_iff {r : Except ε α} {f : α → β} {e : ε} :
    r.map f = .error e ↔ r = .error e := by
  cases r <;> simp [Except.map]

@[simp] theorem Failure.ofConfig_ok (a : α) : Failure.ofConfig (.ok a) = .ok a := rfl

theorem Failure.ofConfig_eq_ok_iff {r : Except ConfigError α} {a : α} :
    Failure.ofConfig r = .ok a ↔ r = .ok a := by
  constructor
  · intro h
    cases r with
    | error e => cases h
    | ok b =>
      cases h
      rfl
  · rintro rfl
    rfl

theorem Failure.ofConfig_eq_error_iff {r : Except ConfigError α} {f : Failure} :
    Failure.ofConfig r = .error f ↔ ∃ e, r = .error e ∧ f = .configuration e := by
  cases r with
  | error e =>
    constructor
    · intro h
      cases h
      exact ⟨e, rfl, rfl⟩
    · rintro ⟨e', he, rfl⟩
      cases he
      rfl
  | ok a =>
    constructor
    · intro h
      cases h
    · rintro ⟨e, he, -⟩
      cases he

theorem mapM_eq_ok {f : α → Except ε β} {g : α → β} {items : List α}
    (h : ∀ a ∈ items, f a = .ok (g a)) : items.mapM f = .ok (items.map g) := by
  induction items with
  | nil => rfl
  | cons a rest ih =>
    rw [List.mapM_cons, h a (List.mem_cons_self ..),
      ih fun b hb => h b (List.mem_cons_of_mem _ hb)]
    rfl

/-- Where checks can fail in one way only, they fail in that way together. -/
theorem mapM_eq_error {f : α → Except ε β} {e : ε} {items : List α}
    (h : ∀ a ∈ items, f a = .error e ∨ ∃ b, f a = .ok b) (hfails : ∃ a ∈ items, f a = .error e) :
    items.mapM f = .error e := by
  induction items with
  | nil =>
    obtain ⟨a, ha, -⟩ := hfails
    exact absurd ha List.not_mem_nil
  | cons a rest ih =>
    obtain ⟨ha, hrest⟩ := List.forall_mem_cons.mp h
    rw [List.mapM_cons]
    rcases ha with ha | ⟨b, hb⟩
    · rw [ha]
      rfl
    · obtain ⟨a', ha', hfails⟩ := hfails
      have hmem : a' ∈ rest := (List.mem_cons.mp ha').resolve_left fun he => by
        rw [he, hb] at hfails
        cases hfails
      rw [hb, ok_bind, ih hrest ⟨a', hmem, hfails⟩]
      rfl

theorem exists_of_mapM_eq_ok {f : α → Except ε β} {items : List α} {results : List β}
    (h : items.mapM f = .ok results) : ∀ b ∈ results, ∃ a ∈ items, f a = .ok b := by
  induction items generalizing results with
  | nil =>
    cases h
    simp
  | cons a rest ih =>
    rw [List.mapM_cons] at h
    obtain ⟨b, hb, h⟩ := bind_eq_ok_iff.mp h
    obtain ⟨others, hothers, h⟩ := bind_eq_ok_iff.mp h
    cases h
    intro c hc
    rcases List.mem_cons.mp hc with rfl | hc
    · exact ⟨a, List.mem_cons_self .., hb⟩
    · obtain ⟨d, hd, he⟩ := ih hothers c hc
      exact ⟨d, List.mem_cons_of_mem _ hd, he⟩

/-- What each check keeps of its item, all checks keep of the list. -/
theorem map_eq_of_mapM_eq_ok {γ : Type} {f : α → Except ε β} {before : α → γ} {after : β → γ}
    (keeps : ∀ a b, f a = .ok b → after b = before a) {items : List α} {results : List β}
    (h : items.mapM f = .ok results) : results.map after = items.map before := by
  induction items generalizing results with
  | nil =>
    cases h
    rfl
  | cons a rest ih =>
    rw [List.mapM_cons] at h
    obtain ⟨b, hb, h⟩ := bind_eq_ok_iff.mp h
    obtain ⟨others, hothers, h⟩ := bind_eq_ok_iff.mp h
    cases h
    rw [List.map_cons, List.map_cons, keeps a b hb, ih hothers]

theorem filterAuxM_eq_ok {f : α → Except ε Bool} (keep : α → Bool) {items : List α}
    (h : ∀ a ∈ items, f a = .ok (keep a)) (done : List α) :
    items.filterAuxM f done = .ok ((items.filter keep).reverse ++ done) := by
  induction items generalizing done with
  | nil => rfl
  | cons a rest ih =>
    rw [List.filterAuxM, h a (List.mem_cons_self ..)]
    show rest.filterAuxM f (cond (keep a) (a :: done) done) = _
    rw [ih fun b hb => h b (List.mem_cons_of_mem _ hb)]
    cases hkeep : keep a <;> simp [hkeep]

theorem filterM_eq_ok {f : α → Except ε Bool} (keep : α → Bool) {items : List α}
    (h : ∀ a ∈ items, f a = .ok (keep a)) : items.filterM f = .ok (items.filter keep) := by
  rw [List.filterM, filterAuxM_eq_ok keep h]
  simp [bind, Except.bind, pure, Except.pure]

theorem of_filterAuxM_eq_ok {f : α → Except ε Bool} {items done kept : List α}
    (h : items.filterAuxM f done = .ok kept) :
    (∀ a ∈ done, a ∈ kept) ∧ ∀ a ∈ items, f a = .ok false ∨ f a = .ok true ∧ a ∈ kept := by
  induction items generalizing done with
  | nil =>
    cases h
    simp
  | cons a rest ih =>
    obtain ⟨keep, hkeep, h⟩ := bind_eq_ok_iff.mp h
    obtain ⟨hdone, hrest⟩ := ih h
    cases keep with
    | false => exact ⟨hdone, List.forall_mem_cons.mpr ⟨.inl hkeep, hrest⟩⟩
    | true =>
      obtain ⟨ha, hdone⟩ := List.forall_mem_cons.mp hdone
      exact ⟨hdone, List.forall_mem_cons.mpr ⟨.inr ⟨hkeep, ha⟩, hrest⟩⟩

/-- A filter that keeps nothing has said no to every item. -/
theorem of_filterM_eq_ok_nil {f : α → Except ε Bool} {items : List α}
    (h : items.filterM f = .ok []) : ∀ a ∈ items, f a = .ok false := by
  obtain ⟨kept, hkept, h⟩ := bind_eq_ok_iff.mp h
  obtain rfl : kept = [] := by simpa [pure, Except.pure] using h
  intro a ha
  simpa using (of_filterAuxM_eq_ok hkept).2 a ha

end ClassList
