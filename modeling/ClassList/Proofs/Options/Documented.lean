import ClassList.Proofs.Options

/-! What is documented of options, written out apart from the tables that reading them goes by: the names
of the fields and of the orders, the defaults, and the presets for comments. Reading agrees with all of
it. -/

namespace ClassList

namespace Field

/-- The names of a field: one, or one in camel case and one in snake case. -/
def keys : Field → List Text
  | .threshold => ["threshold"]
  | .groupOrder => ["groupOrder", "group_order"]
  | .mapping => ["mapping"]
  | .utilityFunction => ["utilityFunction", "utility_function"]
  | .showGroupNames => ["showGroupNames", "show_group_names"]
  | .commentTemplate => ["commentTemplate", "comment_template"]
  | .order => ["order"]
  | .indentWidth => ["indentWidth", "indent_width"]
  | .fallbackGroup => ["fallbackGroup", "fallback_group"]

/-- Whether a key is a name of a field. -/
def NamedBy (field : Field) (key : Value) : Prop := ∃ name ∈ field.keys, key = .text name

theorem mem_keys_iff {field : Field} {key : Text} :
    key ∈ field.keys ↔ key = field.optionName ∨ key = field.name := by
  have single (name : Text) : key ∈ [name] ↔ key = name ∨ key = name := by
    rw [List.mem_singleton, or_self]
  have pair (camel snake : Text) : key ∈ [camel, snake] ↔ key = camel ∨ key = snake := by
    rw [List.mem_cons, List.mem_singleton]
  cases field with
  | threshold => exact single _
  | mapping => exact single _
  | order => exact single _
  | _ => exact pair _ _

theorem namedBy_iff {field : Field} {key : Value} :
    field.NamedBy key ↔ key = .text field.optionName ∨ key = .text field.name := by
  constructor
  · rintro ⟨name, hname, rfl⟩
    exact (mem_keys_iff.mp hname).imp (congrArg Value.text) (congrArg Value.text)
  · rintro (rfl | rfl)
    · exact ⟨_, mem_keys_iff.mpr (.inl rfl), rfl⟩
    · exact ⟨_, mem_keys_iff.mpr (.inr rfl), rfl⟩

theorem namedBy_optionName (field : Field) : field.NamedBy (.text field.optionName) :=
  namedBy_iff.mpr (.inl rfl)

theorem namedBy_name (field : Field) : field.NamedBy (.text field.name) :=
  namedBy_iff.mpr (.inr rfl)

/-- The value of a field that is not given. -/
inductive HasDefault : Field → Value → Prop
  | threshold : HasDefault .threshold (.int 0)
  | groupOrder : HasDefault .groupOrder (.tuple [.text "Size", .text "Layout", .text "Spacing",
      .text "Border", .text "Background", .text "Text", .text "Effects", .text "Others"])
  | mapping : HasDefault .mapping (.object (Defaults.mapping.map fun (name, patterns) =>
      (.text name, .tuple (patterns.map Value.text))))
  | utilityFunction : HasDefault .utilityFunction (.text "clsx")
  | showGroupNames : HasDefault .showGroupNames (.bool true)
  | commentTemplate : HasDefault .commentTemplate (.text "// \x7bgroupName\x7d")
  | order : HasDefault .order (.text "unsorted")
  | indentWidth : HasDefault .indentWidth (.int 2)
  | fallbackGroup : HasDefault .fallbackGroup (.text "Others")

theorem hasDefault_default (field : Field) : field.HasDefault field.default := by
  cases field with
  | threshold => exact .threshold
  | groupOrder => exact .groupOrder
  | mapping => exact .mapping
  | utilityFunction => exact .utilityFunction
  | showGroupNames => exact .showGroupNames
  | commentTemplate => exact .commentTemplate
  | order => exact .order
  | indentWidth => exact .indentWidth
  | fallbackGroup => exact .fallbackGroup

theorem HasDefault.eq_default {field : Field} {v : Value} (h : field.HasDefault v) :
    v = field.default := by
  cases h <;> rfl

end Field

namespace Options.Given

/-- What the fields hold when those that are given are merged over the defaults. -/
def Merges (given : Given) (value : Field → Value) : Prop :=
  ∀ field, (field, value field) ∈ given ∨
    field ∉ given.map Prod.fst ∧ field.HasDefault (value field)

section Merges

variable {given : Given} {field : Field} {v : Value} (hnodup : (given.map Prod.fst).Nodup)
include hnodup

theorem value_of_mem (h : (field, v) ∈ given) : given.value field = v := by
  induction given with
  | nil => cases h
  | cons first given ih =>
    obtain ⟨hfirst, hnodup⟩ := List.nodup_cons.mp hnodup
    rcases List.mem_cons.mp h with rfl | h
    · simp [value]
    · have hne : field ≠ first.1 := by
        rintro rfl
        exact hfirst (List.mem_map.mpr ⟨_, h, rfl⟩)
      rw [← ih hnodup h, value, value, List.lookup_cons, beq_eq_false_iff_ne.mpr hne]

omit hnodup in
theorem value_of_not_mem (h : field ∉ given.map Prod.fst) : given.value field = field.default := by
  have hnone : given.lookup field = none := by
    refine List.lookup_eq_none_iff.mpr fun entry hentry => ?_
    have hne : field ≠ entry.1 := fun heq => h (heq ▸ List.mem_map_of_mem hentry)
    exact bne_iff_ne.mpr hne
  rw [value, hnone]
  rfl

/-- Fields that are given once each have merged values in one way. -/
theorem merges_iff {value : Field → Value} : Merges given value ↔ value = given.value := by
  constructor
  · intro h
    funext field
    rcases h field with hgiven | ⟨hmissing, hdefault⟩
    · exact (value_of_mem hnodup hgiven).symm
    · rw [value_of_not_mem hmissing, hdefault.eq_default]
  · rintro rfl field
    by_cases hgiven : field ∈ given.map Prod.fst
    · obtain ⟨⟨_, v⟩, hentry, rfl⟩ := List.mem_map.mp hgiven
      rw [value_of_mem hnodup hentry]
      exact .inl hentry
    · rw [value_of_not_mem hgiven]
      exact .inr ⟨hgiven, field.hasDefault_default⟩

end Merges

end Options.Given

namespace Order

/-- The names of an order, its proper name first. -/
def keys : Order → List Text
  | .unsorted => ["unsorted", "no-sort", "none"]
  | .ascending => ["ascending", "asc"]
  | .descending => ["descending", "desc"]
  | .canonical => ["canonical", "official"]

/-- Whether a key is a name of an order. -/
def NamedBy (order : Order) (key : Text) : Prop := key ∈ order.keys

theorem namedBy_name (order : Order) : order.NamedBy order.name := by
  cases order <;> exact List.mem_cons_self ..

theorem namedBy_of_mem_aliases {order : Order} {key : Text} (h : (key, order) ∈ aliases) :
    order.NamedBy key := by
  have haliases : ∀ entry ∈ aliases, entry.1 ∈ entry.2.keys := by decide
  exact haliases _ h

end Order

/-- The template that a text stands for: that of a preset, or itself. -/
inductive Resolves : Text → Text → Prop
  | line : Resolves "line" "// \x7bgroupName\x7d"
  | block : Resolves "block" "/* \x7bgroupName\x7d */"
  | jsdoc : Resolves "jsdoc" "/** \x7bgroupName\x7d */"
  | bracket : Resolves "bracket" "// [\x7bgroupName\x7d]"
  | numbered : Resolves "numbered" "// \x7bindex\x7d. \x7bgroupName\x7d"
  | verbose : Resolves "verbose" "// \x7bgroupName\x7d (\x7bcount\x7d classes)"
  | template {s : Text} :
      s ∉ Text.ofStrings ["line", "block", "jsdoc", "bracket", "numbered", "verbose"] → Resolves s s

theorem resolveTemplate_of_not_mem {s : Text} (h : s ∉ commentPresets.map Prod.fst) :
    resolveTemplate s = s := by
  have hnone : commentPresets.lookup s = none := by
    refine List.lookup_eq_none_iff.mpr fun preset hpreset => ?_
    have hne : s ≠ preset.1 := fun heq => h (heq ▸ List.mem_map_of_mem hpreset)
    exact bne_iff_ne.mpr hne
  rw [resolveTemplate, hnone]
  rfl

theorem resolves_resolveTemplate (s : Text) : Resolves s (resolveTemplate s) := by
  by_cases hpreset : s ∈ commentPresets.map Prod.fst
  · simp only [commentPresets, List.map_cons, List.map_nil, List.mem_cons, List.not_mem_nil,
      or_false] at hpreset
    rcases hpreset with rfl | rfl | rfl | rfl | rfl | rfl
    · exact .line
    · exact .block
    · exact .jsdoc
    · exact .bracket
    · exact .numbered
    · exact .verbose
  · rw [resolveTemplate_of_not_mem hpreset]
    exact .template hpreset

theorem resolves_iff {s template : Text} : Resolves s template ↔ template = resolveTemplate s := by
  constructor
  · intro h
    cases h with
    | template hother => exact (resolveTemplate_of_not_mem hother).symm
    | _ => rfl
  · rintro rfl
    exact resolves_resolveTemplate s

end ClassList
