import ClassList.Proofs.AssignedClasses
import ClassList.Proofs.FirstMatch

/-! Groupings that are made at once of assigned classes, and groupings to which the same classes are added
one by one: they are the same in whatever order the groups take their turns. What stops the first kind is
a name that is not a group name, a blank name or a repeated one. -/

namespace ClassList

/-- A list or a tuple of texts. -/
def Value.Spells (v : Value) (names : List Text) : Prop :=
  v = .list (names.map .text) ∨ v = .tuple (names.map .text)

section Spells

variable {v : Value} {names : List Text} (h : v.Spells names)
include h

theorem Value.Spells.items?_eq : v.items? = some (names.map .text) := by
  rcases h with rfl | rfl <;> rfl

theorem Value.Spells.elements?_eq : v.elements? = some (names.map .text) := by
  rcases h with rfl | rfl <;> rfl

theorem Value.Spells.hasText?_eq (name : Text) : v.hasText? name = some (names.contains name) := by
  have hany : (names.map Value.text).any (Value.isText name) = names.contains name := by
    rw [Bool.eq_iff_iff, Value.any_isText rfl, List.contains_iff_mem]
  rcases h with rfl | rfl <;> exact congrArg some hany

end Spells

namespace Assignments

/-- Assigned classes one after the other, each with its name: at each step, the next class of any entry. -/
inductive Interleaved : Assignments → List (Text × Token) → Prop
  | done {assignments : Assignments} (h : ∀ entry ∈ assignments, entry.2 = []) :
      Interleaved assignments []
  | next {front back : Assignments} {name : Text} {t : Token} {tokens : List Token}
      {pairs : List (Text × Token)} (h : Interleaved (front ++ (name, tokens) :: back) pairs) :
      Interleaved (front ++ (name, t :: tokens) :: back) ((name, t) :: pairs)

/-- The assigned names that are no group names, as they are assigned. -/
def strangers (assignments : Assignments) (names : List Text) : List Text :=
  (assignments.map Prod.fst).filter fun name => !names.contains name

theorem strangers_eq_nil_iff {assignments : Assignments} {names : List Text} :
    assignments.strangers names = [] ↔ ∀ entry ∈ assignments, entry.1 ∈ names := by
  simp [strangers]

section Interleaved

variable {assignments : Assignments} {pairs : List (Text × Token)} (h : assignments.Interleaved pairs)
include h

theorem Interleaved.name_mem : ∀ pair ∈ pairs, pair.1 ∈ assignments.map Prod.fst := by
  induction h with
  | done => simp
  | next h ih =>
    refine List.forall_mem_cons.mpr ⟨by simp, fun pair hpair => ?_⟩
    simpa using ih pair hpair

/-- Between the classes of other names, those of each name come in the order in which they are assigned. -/
theorem Interleaved.filter_eq (hkeys : (assignments.map Prod.fst).Nodup) (name : Text) :
    (pairs.filter fun pair => pair.1 = name).map Prod.snd = (assignments.lookup name).getD [] := by
  induction h with
  | @done assignments h =>
    cases hlookup : assignments.lookup name with
    | none => rfl
    | some tokens => exact (h _ ((lookup_eq_some_iff_mem hkeys).mp hlookup)).symm
  | @next front back other t tokens pairs h ih =>
    have hkeys' : ((front ++ (other, tokens) :: back).map Prod.fst).Nodup := by simpa using hkeys
    by_cases hname : other = name
    · subst hname
      have hlong : (front ++ (other, t :: tokens) :: back).lookup other = some (t :: tokens) :=
        (lookup_eq_some_iff_mem hkeys).mpr (by simp)
      have hshort : (front ++ (other, tokens) :: back).lookup other = some tokens :=
        (lookup_eq_some_iff_mem hkeys').mpr (by simp)
      rw [List.filter_cons_of_pos (by simp), List.map_cons, ih hkeys', hlong, hshort]
      rfl
    · have hother : (name == other) = false := beq_eq_false_iff_ne.mpr (Ne.symm hname)
      rw [List.filter_cons_of_neg (by simpa using hname), ih hkeys']
      simp only [List.lookup_append, List.lookup_cons, hother]

end Interleaved

end Assignments

namespace Grouping

/-- The grouping to which named classes are added one after the other, from the empty groups on. -/
def addEach (names : Value) (pairs : List (Text × Token)) : Except Failure Grouping := do
  pairs.foldlM (fun g pair => g.add pair.1 pair.2) (← ofNames names)

/-- The groups of names, each with what is assigned to it. -/
def assigned (names : List Text) (assignments : Assignments) : Grouping :=
  ⟨names.map fun name => ⟨name, (assignments.lookup name).getD []⟩⟩

/-- How assigned classes fail to make a grouping under names: for strangers, all of them at once, then for a
blank name, then for the first name that has come before. -/
inductive Refused (names : List Text) (assignments : Assignments) : Failure → Prop
  | strangers (h : assignments.strangers names ≠ []) :
      Refused names assignments (.unknownGroups (assignments.strangers names))
  | blank (hknown : ∀ entry ∈ assignments, entry.1 ∈ names)
      (hblank : ∃ name ∈ names, Text.isBlankText name = true) :
      Refused names assignments (.configuration .blankGroupName)
  | repeated {front back : List Text} {name : Text}
      (hknown : ∀ entry ∈ assignments, entry.1 ∈ names)
      (hnamed : ∀ name ∈ names, Text.isBlankText name = false)
      (hnames : names = front ++ name :: back) (hfront : front.Nodup) (hname : name ∈ front) :
      Refused names assignments (.configuration (.repeatedGroup name))

/-- Group names under which assigned classes make a grouping. -/
structure Accepted (names : List Text) (assignments : Assignments) : Prop where
  known : ∀ entry ∈ assignments, entry.1 ∈ names
  named : ∀ name ∈ names, Text.isBlankText name = false
  nodup : names.Nodup

theorem accepted_iff {names : List Text} {assignments : Assignments} :
    Accepted names assignments ↔ (∀ entry ∈ assignments, entry.1 ∈ names) ∧
      (∀ name ∈ names, Text.isBlankText name = false) ∧ names.Nodup :=
  ⟨fun h => ⟨h.known, h.named, h.nodup⟩, fun ⟨known, named, nodup⟩ => ⟨known, named, nodup⟩⟩

theorem names_assigned (names : List Text) (assignments : Assignments) :
    (assigned names assignments).names = names :=
  names_map names _

/-- Names that are not accepted are refused for one of the three reasons. -/
theorem exists_refused {names : List Text} {assignments : Assignments}
    (h : ¬Accepted names assignments) : ∃ e, Refused names assignments e := by
  by_cases hknown : ∀ entry ∈ assignments, entry.1 ∈ names
  · by_cases hblank : ∃ name ∈ names, Text.isBlankText name = true
    · exact ⟨_, .blank hknown hblank⟩
    · have hnamed : ∀ name ∈ names, Text.isBlankText name = false := by simpa using hblank
      cases hmade : ofGroups (assigned names assignments).groups with
      | ok g =>
        have hnodup := (ofGroups_eq_ok_iff.mp hmade).1
        exact absurd ⟨hknown, hnamed, names_assigned names assignments ▸ hnodup⟩ h
      | error e =>
        obtain ⟨front, name, back, hnames, hfront, hname, -⟩ := ofGroups_eq_error_iff.mp hmade
        have hnames := (names_assigned names assignments).symm.trans hnames
        exact ⟨_, .repeated hknown hnamed hnames hfront hname⟩
  · exact ⟨_, .strangers (mt Assignments.strangers_eq_nil_iff.mp hknown)⟩

theorem assignedGroup_of_blank {name : Text} (h : Text.isBlankText name = true)
    (assignments : Assignments) :
    assignedGroup assignments (.text name) = .error (.configuration .blankGroupName) := by
  have hmade : Group.ofName (.text name) ((assignments.lookup name).getD []) = .error .blankGroupName := by
    rw [Group.ofName, if_pos h]
  exact congrArg Failure.ofConfig hmade

theorem assignedGroup_of_named {name : Text} (h : Text.isBlankText name = false)
    (assignments : Assignments) :
    assignedGroup assignments (.text name) = .ok ⟨name, (assignments.lookup name).getD []⟩ :=
  congrArg Failure.ofConfig (Group.ofName_text h _)

section Spells

variable {v : Value} {names : List Text} (h : v.Spells names) {assignments : Assignments}
include h

theorem unknownNames_eq : unknownNames v assignments = .ok (assignments.strangers names) := by
  rw [unknownNames, filterM_eq_ok fun name => !names.contains name]
  · rfl
  · intro name _
    rw [h.hasText?_eq]

theorem ofAssignments_of_strangers (hstrangers : assignments.strangers names ≠ []) :
    ofAssignments v assignments = .error (.unknownGroups (assignments.strangers names)) := by
  have hnot : (assignments.strangers names).isEmpty = false := by simpa using hstrangers
  simp only [ofAssignments, unknownNames_eq h, ok_bind, hnot]
  rfl

section Known

variable (hknown : ∀ entry ∈ assignments, entry.1 ∈ names)
include hknown

theorem ofAssignments_of_known :
    ofAssignments v assignments =
      (names.map Value.text).mapM (assignedGroup assignments) >>= fun groups =>
        Failure.ofConfig (ofGroups groups) := by
  have hnone : assignments.strangers names = [] := Assignments.strangers_eq_nil_iff.mpr hknown
  simp only [ofAssignments, unknownNames_eq h, ok_bind, hnone, h.elements?_eq]
  rfl

/-- The groups are made one by one before their names are compared. -/
theorem ofAssignments_of_blank (hblank : ∃ name ∈ names, Text.isBlankText name = true) :
    ofAssignments v assignments = .error (.configuration .blankGroupName) := by
  have hgroups : (names.map Value.text).mapM (assignedGroup assignments) =
      .error (.configuration .blankGroupName) := by
    refine mapM_eq_error ?_ ?_
    · refine List.forall_mem_map.mpr fun name _ => ?_
      cases hname : Text.isBlankText name with
      | true => exact .inl (assignedGroup_of_blank hname assignments)
      | false => exact .inr ⟨_, assignedGroup_of_named hname assignments⟩
    · obtain ⟨name, hname, hblank⟩ := hblank
      exact ⟨.text name, List.mem_map_of_mem hname, assignedGroup_of_blank hblank assignments⟩
  rw [ofAssignments_of_known h hknown, hgroups]
  rfl

theorem ofAssignments_of_named (hnamed : ∀ name ∈ names, Text.isBlankText name = false) :
    ofAssignments v assignments = Failure.ofConfig (ofGroups (assigned names assignments).groups) := by
  have hgroups : (names.map Value.text).mapM (assignedGroup assignments) =
      .ok (assigned names assignments).groups := by
    rw [List.mapM_map]
    exact mapM_eq_ok fun name hname => assignedGroup_of_named (hnamed name hname) assignments
  rw [ofAssignments_of_known h hknown, hgroups, ok_bind]

end Known

theorem Accepted.ofAssignments_eq (haccepted : Accepted names assignments) :
    ofAssignments v assignments = .ok (assigned names assignments) := by
  have hnodup : (assigned names assignments).names.Nodup :=
    (names_assigned names assignments).symm ▸ haccepted.nodup
  rw [ofAssignments_of_named h haccepted.known haccepted.named, ofGroups_eq_ok hnodup]
  rfl

theorem Refused.ofAssignments_eq {e : Failure} (he : Refused names assignments e) :
    ofAssignments v assignments = .error e := by
  cases he with
  | strangers hstrangers => exact ofAssignments_of_strangers h hstrangers
  | blank hknown hblank => exact ofAssignments_of_blank h hknown hblank
  | @repeated front back name hknown hnamed hnames hfront hname =>
    have hrepeated : (assigned names assignments).groups.map Group.name = front ++ name :: back :=
      (names_assigned names assignments).trans hnames
    rw [ofAssignments_of_named h hknown hnamed,
      ofGroups_eq_error_iff.mpr ⟨front, name, back, hrepeated, hfront, hname, rfl⟩]
    rfl

theorem ofAssignments_eq_ok_iff {g : Grouping} :
    ofAssignments v assignments = .ok g ↔
      Accepted names assignments ∧ g = assigned names assignments := by
  by_cases haccepted : Accepted names assignments
  · rw [haccepted.ofAssignments_eq h, and_iff_right haccepted, Except.ok.injEq, eq_comm]
  · obtain ⟨e, he⟩ := exists_refused haccepted
    simp [he.ofAssignments_eq h, haccepted]

theorem ofAssignments_eq_error_iff {e : Failure} :
    ofAssignments v assignments = .error e ↔ Refused names assignments e := by
  constructor
  · intro he
    have hnot : ¬Accepted names assignments := fun haccepted => by
      rw [haccepted.ofAssignments_eq h] at he
      cases he
    obtain ⟨e', he'⟩ := exists_refused hnot
    obtain rfl : e' = e := Except.error.inj ((he'.ofAssignments_eq h).symm.trans he)
    exact he'
  · exact fun he => he.ofAssignments_eq h

theorem exists_ofAssignments_eq_error_iff :
    (∃ e, ofAssignments v assignments = .error e) ↔
      (∃ entry ∈ assignments, entry.1 ∉ names) ∨
        (∃ name ∈ names, Text.isBlankText name = true) ∨ ¬names.Nodup := by
  have hsplit : ¬Accepted names assignments ↔ (∃ entry ∈ assignments, entry.1 ∉ names) ∨
      (∃ name ∈ names, Text.isBlankText name = true) ∨ ¬names.Nodup := by
    rw [accepted_iff, not_and_or, not_and_or]
    simp
  rw [← hsplit]
  constructor
  · rintro ⟨e, he⟩ haccepted
    rw [haccepted.ofAssignments_eq h] at he
    cases he
  · intro hnot
    obtain ⟨e, he⟩ := exists_refused hnot
    exact ⟨e, he.ofAssignments_eq h⟩

/-- The classes of accepted assignments can be added one by one, whichever group's turn it is. -/
theorem Accepted.addEach_eq (haccepted : Accepted names assignments)
    (hkeys : (assignments.map Prod.fst).Nodup) {pairs : List (Text × Token)}
    (hpairs : assignments.Interleaved pairs) :
    addEach v pairs = .ok (assigned names assignments) := by
  have hknown : ∀ pair ∈ pairs, pair.1 ∈ names := fun pair hpair => by
    obtain ⟨entry, hentry, hname⟩ := List.mem_map.mp (hpairs.name_mem pair hpair)
    exact hname ▸ haccepted.known entry hentry
  rw [addEach, ofNames_of_items h.items?_eq haccepted.nodup haccepted.named, ok_bind,
    foldlM_add haccepted.nodup Prod.fst Prod.snd hknown]
  simp only [List.nil_append, hpairs.filter_eq hkeys]
  rfl

end Spells

/-- Where classes that are assigned to names make a grouping under the names of a list or a tuple, so do the
same classes when they are added one by one, and it is the same grouping, whichever name has its turn as
long as the classes of each name keep their order. No grouping comes about just when something is assigned
to a stranger, which is reported first and with all strangers as they are assigned, or when a name is
blank, which is reported next, or when a name is repeated. -/
theorem ofAssignments_eq_addEach {v : Value} {names : List Text} (h : v.Spells names)
    {assignments : Assignments} (hkeys : (assignments.map Prod.fst).Nodup) :
    (∀ g, ofAssignments v assignments = .ok g →
      ∀ pairs, assignments.Interleaved pairs → addEach v pairs = .ok g) ∧
    (∀ e, ofAssignments v assignments = .error e ↔ Refused names assignments e) ∧
    ((∃ e, ofAssignments v assignments = .error e) ↔
      (∃ entry ∈ assignments, entry.1 ∉ names) ∨
        (∃ name ∈ names, Text.isBlankText name = true) ∨ ¬names.Nodup) := by
  refine ⟨fun g hg pairs hpairs => ?_, fun e => ofAssignments_eq_error_iff h,
    exists_ofAssignments_eq_error_iff h⟩
  obtain ⟨haccepted, rfl⟩ := (ofAssignments_eq_ok_iff h).mp hg
  exact haccepted.addEach_eq h hkeys hpairs

/-- The classes of two groups alternate. Something is assigned to two strangers in front of and behind a
group, one of them blank. -/
theorem ofAssignments_eq_addEach_alternating :
    let v : Value := .tuple [.text "A", .text "Rest", .text "B"]
    let x := Token.ofText "x"
    let y := Token.ofText "m:x"
    let assignments : Assignments := [("B", [x, y, x]), ("Rest", []), ("A", [y, x])]
    let pairs : List (Text × Token) := [("A", y), ("B", x), ("B", y), ("A", x), ("B", x)]
    let g : Grouping := ⟨[⟨"A", [y, x]⟩, ⟨"Rest", []⟩, ⟨"B", [x, y, x]⟩]⟩
    (assignments.map Prod.fst).Nodup ∧ assignments.Interleaved pairs ∧
      ofAssignments v assignments = .ok g ∧ addEach v pairs = .ok g ∧
      ofAssignments v [("C", []), ("B", [x]), (" ", [y])] =
        .error (.unknownGroups ["C".toList, " ".toList]) := by
  intro v x y assignments pairs g
  have hspells : v.Spells (Text.ofStrings ["A", "Rest", "B"]) := .inr rfl
  have hkeys : (assignments.map Prod.fst).Nodup := by decide
  have hmade : ofAssignments v assignments = .ok g := rfl
  have hpairs : assignments.Interleaved pairs := by
    refine @Assignments.Interleaved.next [("B", [x, y, x]), ("Rest", [])] [] "A" y [x] _ ?_
    refine @Assignments.Interleaved.next [] [("Rest", []), ("A", [x])] "B" x [y, x] _ ?_
    refine @Assignments.Interleaved.next [] [("Rest", []), ("A", [x])] "B" y [x] _ ?_
    refine @Assignments.Interleaved.next [("B", [x]), ("Rest", [])] [] "A" x [] _ ?_
    refine @Assignments.Interleaved.next [] [("Rest", []), ("A", [])] "B" x [] _ ?_
    exact .done (by decide)
  have hother : (([("C", []), ("B", [x]), (" ", [y])] : Assignments).map Prod.fst).Nodup := by decide
  obtain ⟨hadd, -⟩ := ofAssignments_eq_addEach hspells hkeys
  obtain ⟨-, hrefused, -⟩ := ofAssignments_eq_addEach hspells hother
  exact ⟨hkeys, hpairs, hmade, hadd g hmade pairs hpairs, (hrefused _).mpr (.strangers (by decide))⟩

end Grouping

end ClassList
