import Mathlib.Algebra.Order.Floor.Ring
import Mathlib.Algebra.Order.Field.Power
import Mathlib.Data.Int.Log
import Mathlib.Data.Rat.Floor
import Mathlib.Tactic.FieldSimp
import Mathlib.Tactic.Linarith
import Mathlib.Tactic.Positivity
import Mathlib.Tactic.Ring

/-!
# Decimal rounding of rationals

The two roundings a decimal program meets, as computable functions on `ℚ`.

* `toDigits n x` keeps `n` significant digits and rounds half to even, as decimal floating-point
  contexts do.
* `toPlaces k x` keeps `k` digits after the point and rounds half away from zero, as fixed-point
  columns do.  `toPlaces_eq_iff` says which values a multiple of `10 ^ -k` absorbs, and `OnGrid` is
  the set of these multiples.
-/

namespace Rounding

/-- The nearest integer, a tie going to the even one. -/
def halfEven (x : ℚ) : ℤ :=
  let below := ⌊x⌋
  if x - below < 1 / 2 then below
  else if 1 / 2 < x - below then below + 1
  else if below % 2 = 0 then below else below + 1

/-- `x` rounded to `n` significant decimal digits, half to even. -/
def toDigits (n : ℕ) (x : ℚ) : ℚ :=
  if x = 0 then 0
  else
    let unit : ℚ := (10 : ℚ) ^ (Int.log 10 |x| - ((n : ℤ) - 1))
    halfEven (x / unit) * unit

/-- The nearest integer, a tie going away from zero. -/
def halfAway (x : ℚ) : ℤ := if 0 ≤ x then ⌊x + 1 / 2⌋ else -⌊-x + 1 / 2⌋

/-- `x` rounded to `k` digits after the point, half away from zero. -/
def toPlaces (k : ℕ) (x : ℚ) : ℚ := halfAway (x * 10 ^ k) / 10 ^ k

/-- `x` has at most `k` digits after the point. -/
def OnGrid (k : ℕ) (x : ℚ) : Prop := ∃ m : ℤ, x = m / 10 ^ k

/-! ## Signs -/

theorem halfEven_nonneg {x : ℚ} (nonneg : 0 ≤ x) : 0 ≤ halfEven x := by
  have floor : 0 ≤ ⌊x⌋ := Int.floor_nonneg.mpr nonneg
  unfold halfEven
  dsimp only
  split_ifs <;> omega

theorem toDigits_nonneg (n : ℕ) {x : ℚ} (nonneg : 0 ≤ x) : 0 ≤ toDigits n x := by
  unfold toDigits
  split_ifs with zero
  · exact le_rfl
  · have unit : (0 : ℚ) < (10 : ℚ) ^ (Int.log 10 |x| - ((n : ℤ) - 1)) :=
      zpow_pos (by norm_num) _
    have digits : (0 : ℚ) ≤ halfEven (x / (10 : ℚ) ^ (Int.log 10 |x| - ((n : ℤ) - 1))) := by
      exact_mod_cast halfEven_nonneg (div_nonneg nonneg unit.le)
    exact mul_nonneg digits unit.le

/-! ## The grid of a fixed-point column -/

theorem halfAway_intCast (m : ℤ) : halfAway m = m := by
  unfold halfAway
  have half : ∀ j : ℤ, ⌊(j : ℚ) + 1 / 2⌋ = j := by
    intro j
    rw [Int.floor_intCast_add]
    norm_num
  split_ifs with nonneg
  · exact half m
  · have negated := half (-m)
    push_cast at negated
    rw [negated, neg_neg]

theorem OnGrid.toPlaces_eq {k : ℕ} {x : ℚ} (grid : OnGrid k x) : toPlaces k x = x := by
  obtain ⟨m, rfl⟩ := grid
  have scale : (10 : ℚ) ^ k ≠ 0 := by positivity
  rw [toPlaces, div_mul_cancel₀ _ scale, halfAway_intCast]

theorem toPlaces_onGrid (k : ℕ) (x : ℚ) : OnGrid k (toPlaces k x) := ⟨_, rfl⟩

theorem toPlaces_eq_self_iff {k : ℕ} {x : ℚ} : toPlaces k x = x ↔ OnGrid k x :=
  ⟨fun fixed => fixed ▸ toPlaces_onGrid k x, OnGrid.toPlaces_eq⟩

@[simp] theorem toPlaces_toPlaces (k : ℕ) (x : ℚ) : toPlaces k (toPlaces k x) = toPlaces k x :=
  (toPlaces_onGrid k x).toPlaces_eq

theorem OnGrid.zero (k : ℕ) : OnGrid k 0 := ⟨0, by simp⟩

theorem OnGrid.add {k : ℕ} {x y : ℚ} (left : OnGrid k x) (right : OnGrid k y) :
    OnGrid k (x + y) := by
  obtain ⟨a, rfl⟩ := left
  obtain ⟨b, rfl⟩ := right
  exact ⟨a + b, by push_cast; ring⟩

theorem OnGrid.sum {k : ℕ} {xs : List ℚ} (grid : ∀ x ∈ xs, OnGrid k x) : OnGrid k xs.sum := by
  induction xs with
  | nil => exact .zero k
  | cons x xs ih =>
    rw [List.sum_cons]
    exact (grid x (by simp)).add (ih fun y mem => grid y (by simp [mem]))

/-- A nonnegative value rounds to the grid point `g` exactly when the error `g - x` is more than
minus half a unit and at most half a unit. -/
theorem toPlaces_eq_iff {k : ℕ} {x g : ℚ} (nonneg : 0 ≤ x) (grid : OnGrid k g) :
    toPlaces k x = g ↔ -(1 / 2 / 10 ^ k) < g - x ∧ g - x ≤ 1 / 2 / 10 ^ k := by
  obtain ⟨m, rfl⟩ := grid
  have scale : (0 : ℚ) < 10 ^ k := by positivity
  have scaled : 0 ≤ x * 10 ^ k := by positivity
  rw [toPlaces, halfAway, if_pos scaled, div_left_inj' scale.ne', Int.cast_inj, Int.floor_eq_iff]
  have lower : (m : ℚ) ≤ x * 10 ^ k + 1 / 2 ↔ (m : ℚ) / 10 ^ k - x ≤ 1 / 2 / 10 ^ k := by
    rw [sub_le_iff_le_add, div_le_iff₀ scale, add_mul, div_mul_cancel₀ _ scale.ne', add_comm]
  have upper : x * 10 ^ k + 1 / 2 < m + 1 ↔ -(1 / 2 / 10 ^ k) < (m : ℚ) / 10 ^ k - x := by
    rw [lt_sub_iff_add_lt, lt_div_iff₀ scale, add_mul, neg_mul, div_mul_cancel₀ _ scale.ne']
    constructor <;> intro h <;> linarith
  rw [lower, upper]
  exact and_comm

end Rounding
