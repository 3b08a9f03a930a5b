import ClassList.Sorting

/-! Selections: names that pick tokens out of a stock neither lose, repeat nor exchange any, and the
same names pick the same tokens out of what they selected. -/

namespace ClassList

namespace Token

/-- The tokens written as a given text, in line. -/
def named (name : Text) (tokens : List Token) : List Token :=
  tokens.filter fun t => t.original = name

@[simp] theorem named_nil (name : Text) : named name [] = [] := rfl

theorem named_append (name : Text) (front back : List Token) :
    named name (front ++ back) = named name front ++ named name back :=
  List.filter_append ..

theorem named_cons_of_eq {t : Token} {name : Text} (h : t.original = name) (tokens : List Token) :
    named name (t :: tokens) = t :: named name tokens :=
  List.filter_cons_of_pos (by simpa using h)

theorem named_cons_of_ne {t : Token} {name : Text} (h : t.original ≠ name) (tokens : List Token) :
    named name (t :: tokens) = named name tokens :=
  List.filter_cons_of_neg (by simpa using h)

theorem takeFirst?_eq_some {name : Text} {stock rest : List Token} {t : Token}
    (h : takeFirst? name stock = some (t, rest)) :
    t.original = name ∧ ∃ front back, stock = front ++ t :: back ∧ rest = front ++ back ∧
      named name front = [] := by
  induction stock generalizing rest with
  | nil => simp [takeFirst?] at h
  | cons u stock ih =>
    rw [takeFirst?] at h
    split at h
    · rename_i hu
      obtain ⟨rfl, rfl⟩ := Prod.mk.inj (Option.some.inj h)
      exact ⟨hu, [], stock, rfl, rfl, rfl⟩
    · rename_i hu
      obtain ⟨⟨v, others⟩, hv, he⟩ := Option.map_eq_some_iff.mp h
      obtain ⟨rfl, rfl⟩ := Prod.mk.inj he
      obtain ⟨hname, front, back, rfl, rfl, hfront⟩ := ih hv
      exact ⟨hname, u :: front, back, rfl, rfl, (named_cons_of_ne hu front).trans hfront⟩

theorem takeFirst?_eq_none_iff {name : Text} {stock : List Token} :
    takeFirst? name stock = none ↔ named name stock = [] := by
  induction stock with
  | nil => simp [takeFirst?]
  | cons u stock ih =>
    rw [takeFirst?]
    by_cases hu : u.original = name
    · rw [if_pos hu, named_cons_of_eq hu]
      simp
    · rw [if_neg hu, Option.map_eq_none_iff, ih, named_cons_of_ne hu]

/-- A token that is taken and put in front keeps its place among its namesakes. -/
theorem named_takeFirst? {name : Text} {stock rest : List Token} {t : Token}
    (h : takeFirst? name stock = some (t, rest)) (x : Text) :
    named x (t :: rest) = named x stock := by
  obtain ⟨hname, front, back, rfl, rfl, hfront⟩ := takeFirst?_eq_some h
  by_cases hx : t.original = x
  · obtain rfl : name = x := hname.symm.trans hx
    rw [named_cons_of_eq hx, named_append, named_append, named_cons_of_eq hx, hfront]
    rfl
  · rw [named_cons_of_ne hx, named_append, named_append, named_cons_of_ne hx]

end Token

namespace Selection

open Token

theorem serve_of_some {name : Text} {stock rest : List Token} {t : Token}
    (h : takeFirst? name stock = some (t, rest)) (names : List Text) :
    serve stock (name :: names) =
      { serve rest names with found := t :: (serve rest names).found } := by
  rw [serve, h]

theorem serve_of_none {name : Text} {stock : List Token} (h : takeFirst? name stock = none)
    (names : List Text) :
    serve stock (name :: names) =
      { serve stock names with ignored := name :: (serve stock names).ignored } := by
  rw [serve, h]

/-- Of the tokens of each name, a selection has exactly those in stock, in stock order. -/
theorem named_result_serve (stock : List Token) (names : List Text) (x : Text) :
    named x (serve stock names).result = named x stock := by
  induction names generalizing stock with
  | nil => rfl
  | cons name names ih =>
    cases h : takeFirst? name stock with
    | none =>
      rw [serve_of_none h]
      exact ih stock
    | some taken =>
      obtain ⟨t, rest⟩ := taken
      rw [serve_of_some h, ← named_takeFirst? h x]
      show named x ([t] ++ (serve rest names).result) = named x ([t] ++ rest)
      rw [named_append, named_append, ih rest]

/-- Serving the same names again changes nothing, also where they ask for too much or too little. -/
theorem serve_result (stock : List Token) (names : List Text) :
    serve (serve stock names).result names = serve stock names := by
  induction names generalizing stock with
  | nil => rfl
  | cons name names ih =>
    cases h : takeFirst? name stock with
    | none =>
      have hnone : takeFirst? name (serve stock names).result = none := by
        rw [takeFirst?_eq_none_iff, named_result_serve]
        exact takeFirst?_eq_none_iff.mp h
      rw [serve_of_none h]
      show serve (serve stock names).result (name :: names) = _
      rw [serve_of_none hnone, ih stock]
    | some taken =>
      obtain ⟨t, rest⟩ := taken
      have hsome : takeFirst? name (t :: (serve rest names).result) =
          some (t, (serve rest names).result) := by
        rw [takeFirst?, if_pos (takeFirst?_eq_some h).1]
      rw [serve_of_some h]
      show serve (t :: (serve rest names).result) (name :: names) = _
      rw [serve_of_some hsome, ih rest]

end Selection

end ClassList
