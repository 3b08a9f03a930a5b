import ClassList.Options
import ClassList.Proofs.Rules
import ClassList.Proofs.Trace

/-! Accepted options, which can be read off some value: what each of them passed. -/

namespace ClassList

namespace Options

/-- The options can be read off some value. -/
def Accepted (o : Options) : Prop := ∃ raw trace, (read raw).result trace = .ok o

def rules (o : Options) : Rules := ⟨o.groupOrder, o.mapping, o.fallbackGroup⟩

/-- What the checks of the fields say about the options that come out. -/
structure Checked (given : Given) (o : Options) : Prop where
  threshold : readThreshold (given.value .threshold) = .ok o.threshold
  indentWidth : readIndentWidth (given.value .indentWidth) = .ok o.indentWidth
  showGroupNames : readShowGroupNames (given.value .showGroupNames) = .ok o.showGroupNames
  utilityFunction : readUtilityFunction (given.value .utilityFunction) = .ok o.utilityFunction
  commentTemplate : ∃ template, readCommentTemplate (given.value .commentTemplate) = .ok template ∧
    o.commentTemplate = resolveTemplate template
  rules : Rules.read (given.value .groupOrder) (given.value .mapping) (given.value .fallbackGroup) =
    .ok o.rules
  order : Order.read (given.value .order) = .ok o.order

theorem ofGiven_eq_ok_iff {given : Given} {o : Options} :
    ofGiven given = .ok o ↔ Checked given o := by
  unfold ofGiven
  constructor
  · intro h
    obtain ⟨_, hthreshold, h⟩ := bind_eq_ok_iff.mp h
    obtain ⟨_, hindent, h⟩ := bind_eq_ok_iff.mp h
    obtain ⟨_, hshow, h⟩ := bind_eq_ok_iff.mp h
    obtain ⟨_, hfunction, h⟩ := bind_eq_ok_iff.mp h
    obtain ⟨template, htemplate, h⟩ := bind_eq_ok_iff.mp h
    obtain ⟨_, hrules, h⟩ := bind_eq_ok_iff.mp h
    obtain ⟨_, horder, h⟩ := bind_eq_ok_iff.mp h
    cases h
    rw [Failure.ofConfig_eq_ok_iff] at hthreshold hindent hshow hfunction htemplate horder
    exact ⟨hthreshold, hindent, hshow, hfunction, ⟨template, htemplate, rfl⟩, hrules, horder⟩
  · intro h
    obtain ⟨template, htemplate, hresolved⟩ := h.commentTemplate
    simp only [h.threshold, h.indentWidth, h.showGroupNames, h.utilityFunction, htemplate, h.rules,
      h.order, Failure.ofConfig_ok, ok_bind, ← hresolved]
    rfl

/-- Reading options off a value gives the result of the checks, whatever it reports. -/
theorem read_result (raw : Value) (trace : Trace) : (read raw).result trace = ofValue raw := by
  unfold read ofValue
  rw [Job.result_bind, Job.result_ofExcept]
  cases Failure.ofConfig (Given.ofValue raw) with
  | error e => rfl
  | ok given => cases raw <;> rfl

theorem Accepted.checked {o : Options} (h : o.Accepted) : ∃ given, Checked given o := by
  obtain ⟨raw, trace, h⟩ := h
  rw [read_result] at h
  obtain ⟨given, _, h⟩ := bind_eq_ok_iff.mp h
  exact ⟨given, ofGiven_eq_ok_iff.mp h⟩

theorem Accepted.rules_valid {o : Options} (h : o.Accepted) : o.rules.Valid := by
  obtain ⟨given, hchecked⟩ := h.checked
  exact Rules.read_valid hchecked.rules

end Options

end ClassList
