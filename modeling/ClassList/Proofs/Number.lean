import ClassList.Number
import Mathlib.Algebra.Order.Field.Power
import Mathlib.Data.Rat.Cast.Order
import Mathlib.Tactic.NormNum

/-! The order of numbers by value: it is the order of the rationals between the two ends, so it is
transitive, and numbers of the same value are at most the same numbers. -/

namespace ClassList.Number

namespace Place

/-- A coefficient that is brought to a lower exponent keeps its value. -/
theorem scaled_eq (a : Int) {e least : Int} (h : least ≤ e) :
    ((a * Nat.pow 2 (e - least).toNat : Int) : ℚ) * 2 ^ least = a * 2 ^ e := by
  have hexponent : ((e - least).toNat : Int) + least = e := by omega
  rw [Nat.pow_eq, Int.cast_mul, Int.cast_natCast, Nat.cast_pow, Nat.cast_ofNat, mul_assoc,
    ← zpow_natCast, ← zpow_add₀ (by norm_num), hexponent]

theorem le_point_iff {a e b f : Int} :
    le (.point a e) (.point b f) = true ↔ (a : ℚ) * 2 ^ e ≤ b * 2 ^ f := by
  have hpos : (0 : ℚ) < 2 ^ min e f := zpow_pos (by norm_num) _
  rw [le, decide_eq_true_iff, ← scaled_eq a (min_le_left e f), ← scaled_eq b (min_le_right e f),
    mul_le_mul_iff_of_pos_right hpos, Int.cast_le]

/-- The place as a member of the line of the rationals with both ends. -/
def value : Place → WithBot (WithTop ℚ)
  | .bottom => ⊥
  | .point a e => ((a * 2 ^ e : ℚ) : WithTop ℚ)
  | .top => ⊤

theorem le_iff {p q : Place} : p.le q = true ↔ p.value ≤ q.value := by
  cases p with
  | bottom => exact iff_of_true rfl bot_le
  | top =>
    cases q with
    | top => exact iff_of_true rfl le_rfl
    | bottom => exact iff_of_false (fun h => by cases h) (not_le.mpr bot_lt_top)
    | point b f =>
      refine iff_of_false (fun h => by cases h) (not_le.mpr ?_)
      exact WithBot.coe_lt_coe.mpr (WithTop.coe_lt_top _)
  | point a e =>
    cases q with
    | top => exact iff_of_true rfl le_top
    | bottom => exact iff_of_false (fun h => by cases h) (not_le.mpr (WithBot.bot_lt_coe _))
    | point b f => rw [le_point_iff, value, value, WithBot.coe_le_coe, WithTop.coe_le_coe]

theorem le_trans {p q r : Place} (hpq : p.le q = true) (hqr : q.le r = true) : p.le r = true :=
  le_iff.mpr ((le_iff.mp hpq).trans (le_iff.mp hqr))

end Place

theorem le_eq_true_iff {a b : Number} :
    a.le b = true ↔ ∃ p q, a.place? = some p ∧ b.place? = some q ∧ p.le q = true := by
  rw [le]
  cases a.place? with
  | none => simp
  | some p =>
    cases b.place? with
    | none => simp
    | some q => simp

theorem le_trans {a b c : Number} (hab : a.le b = true) (hbc : b.le c = true) : a.le c = true := by
  obtain ⟨p, q, hp, hq, hpq⟩ := le_eq_true_iff.mp hab
  obtain ⟨q', r, hq', hr, hqr⟩ := le_eq_true_iff.mp hbc
  obtain rfl : q = q' := Option.some.inj (hq.symm.trans hq')
  exact le_eq_true_iff.mpr ⟨p, r, hp, hr, Place.le_trans hpq hqr⟩

/-- The exact value of a number, which may be one of the two ends. What is not a number has none. -/
def value? : Number → Option (WithBot (WithTop ℚ))
  | .int i => some ((i : ℚ) : WithTop ℚ)
  | .float .nan => none
  | .float (.infinity negative) => some (if negative then ⊥ else ⊤)
  | .float (.finite negative significand exponent) =>
    some (((if negative then -significand else significand : ℚ) * 2 ^ exponent : ℚ) : WithTop ℚ)

theorem value?_eq (n : Number) : n.value? = n.place?.map Place.value := by
  cases n with
  | int i => simp [value?, place?, Place.value]
  | float x =>
    cases x with
    | nan => rfl
    | infinity negative => cases negative <;> rfl
    | finite negative significand exponent =>
      cases negative <;> simp [value?, place?, Place.value]

/-- The order of numbers is that of their exact values. -/
theorem le_iff_value {a b : Number} :
    a.le b = true ↔ ∃ x y, a.value? = some x ∧ b.value? = some y ∧ x ≤ y := by
  rw [le_eq_true_iff, value?_eq, value?_eq]
  constructor
  · rintro ⟨p, q, hp, hq, hle⟩
    exact ⟨p.value, q.value, by rw [hp]; rfl, by rw [hq]; rfl, Place.le_iff.mp hle⟩
  · rintro ⟨x, y, hx, hy, hle⟩
    obtain ⟨p, hp, rfl⟩ := Option.map_eq_some_iff.mp hx
    obtain ⟨q, hq, rfl⟩ := Option.map_eq_some_iff.mp hy
    exact ⟨p, q, hp, hq, Place.le_iff.mpr hle⟩

/-- Whether a number has a value that is rational. -/
def Valued (n : Number) (x : ℚ) : Prop := n.value? = some ((x : WithTop ℚ) : WithBot (WithTop ℚ))

theorem isFinite_iff {n : Number} : n.isFinite = true ↔ ∃ x, n.Valued x := by
  cases n with
  | int i => exact iff_of_true rfl ⟨_, rfl⟩
  | float x =>
    cases x with
    | nan => exact iff_of_false (fun h => by cases h) fun ⟨_, h⟩ => by cases h
    | infinity negative =>
      refine iff_of_false (fun h => by cases h) fun ⟨_, h⟩ => ?_
      cases negative <;> simp [Valued, value?] at h
    | finite negative significand exponent => exact iff_of_true rfl ⟨_, rfl⟩

theorem Valued.zero_le_iff {n : Number} {x : ℚ} (h : n.Valued x) :
    Number.le (.int 0) n = true ↔ 0 ≤ x := by
  rw [le_iff_value]
  constructor
  · rintro ⟨zero, y, hzero, hy, hle⟩
    obtain rfl := Option.some.inj (h.symm.trans hy)
    cases hzero
    simpa using hle
  · exact fun hle => ⟨_, _, rfl, h, by simpa using hle⟩

theorem exists_place_of_isFinite {n : Number} (h : n.isFinite = true) :
    ∃ a e, n.place? = some (.point a e) := by
  cases n with
  | int i => exact ⟨i, 0, rfl⟩
  | float x =>
    cases x with
    | finite negative significand exponent => exact ⟨_, _, rfl⟩
    | _ => cases h

/-- Of two finite numbers, one is less just when the other is not at most the same. -/
theorem lt_eq_false_iff {a b : Number} (ha : a.isFinite = true) (hb : b.isFinite = true) :
    a.lt b = false ↔ b.le a = true := by
  obtain ⟨m, e, hm⟩ := exists_place_of_isFinite ha
  obtain ⟨n, f, hn⟩ := exists_place_of_isFinite hb
  have hle : a.le b = true ∨ b.le a = true := by
    simp only [le, hm, hn]
    rw [Place.le_point_iff, Place.le_point_iff]
    exact le_total _ _
  rw [lt, Bool.and_eq_false_iff, Bool.not_eq_false']
  constructor
  · rintro (hab | hba)
    · exact hle.resolve_left (by simp [hab])
    · exact hba
  · exact .inr

theorem le_eq_of_same {a b : Number} (h : a.same b = true) (c : Number) : a.le c = b.le c := by
  obtain ⟨hab, hba⟩ := Bool.and_eq_true_iff.mp h
  rw [Bool.eq_iff_iff]
  exact ⟨fun hac => le_trans hba hac, fun hbc => le_trans hab hbc⟩

end ClassList.Number
