import Mathlib.Algebra.Order.Field.Power
import Mathlib.Data.Int.Log
import Mathlib.Data.Rat.Floor
import Mathlib.Tactic.FieldSimp
import Mathlib.Tactic.Linarith
import Mathlib.Tactic.Positivity

/-! Numbers of 53 significant bits, for exact results in the range of the normal numbers. -/

namespace binary64

/-- The nearest integer, and of two the even one. -/
def nearest_int (x : ℚ) : ℤ :=
  let below := ⌊x⌋
  let part := x - below
  if part < 1 / 2 then below
  else if 1 / 2 < part then below + 1
  else if below % 2 = 0 then below else below + 1

/-- How far apart the numbers of 53 significant bits are that have the magnitude of `x`. -/
def spacing (x : ℚ) : ℚ := 2 ^ (Int.log 2 |x| - 52)

/-- The number of 53 significant bits nearest to `x`. -/
def ofRat (x : ℚ) : ℚ := nearest_int (x / spacing x) * spacing x

def add (x y : ℚ) : ℚ := ofRat (x + y)

def mul (x y : ℚ) : ℚ := ofRat (x * y)

def div (x y : ℚ) : ℚ := ofRat (x / y)

example : mul 1860 (add 1 (div 10 100)) = 2046 + 1 / 2 ^ 42 := by decide +kernel

theorem abs_nearest_int_sub_le (x : ℚ) : |(nearest_int x : ℚ) - x| ≤ 1 / 2 := by
  have hbelow := Int.floor_le x
  have habove := Int.lt_floor_add_one x
  simp only [nearest_int]
  rw [abs_le]
  split
  · constructor <;> linarith
  · split
    · push_cast
      constructor <;> linarith
    · split
      · constructor <;> linarith
      · push_cast
        constructor <;> linarith

theorem spacing_pos (x : ℚ) : 0 < spacing x := zpow_pos (by norm_num) _

/-- A number is at least 2 ^ 52 times the spacing of its magnitude. -/
theorem spacing_mul_le {x : ℚ} (hx : x ≠ 0) : spacing x * 2 ^ 52 ≤ |x| := by
  have hlog := Int.zpow_log_le_self (b := 2) (by decide) (abs_pos.mpr hx)
  have hspacing : spacing x * 2 ^ 52 = ((2 : ℕ) : ℚ) ^ Int.log 2 |x| := by
    rw [spacing, ← zpow_natCast, ← zpow_add₀ (by norm_num)]
    norm_num
  rwa [hspacing]

/-- Rounding errs by at most one part in 2 ^ 53. -/
theorem abs_ofRat_sub_le (x : ℚ) : |ofRat x - x| ≤ |x| / 2 ^ 53 := by
  by_cases hx : x = 0
  · subst hx
    decide +kernel
  have hpos := spacing_pos x
  have herror : ofRat x - x = (nearest_int (x / spacing x) - x / spacing x) * spacing x := by
    rw [ofRat, sub_mul, div_mul_cancel₀ _ hpos.ne']
  rw [herror, abs_mul, abs_of_pos hpos]
  calc |(nearest_int (x / spacing x) : ℚ) - x / spacing x| * spacing x
      ≤ 1 / 2 * spacing x := mul_le_mul_of_nonneg_right (abs_nearest_int_sub_le _) hpos.le
    _ = spacing x * 2 ^ 52 / 2 ^ 53 := by ring
    _ ≤ |x| / 2 ^ 53 := div_le_div_of_nonneg_right (spacing_mul_le hx) (by positivity)

/-- A rounded number loses at most one part in 2 ^ 53. -/
theorem le_ofRat {x : ℚ} (hx : 0 ≤ x) : x * (1 - 1 / 2 ^ 53) ≤ ofRat x := by
  have herror := (abs_le.mp (abs_ofRat_sub_le x)).1
  rw [abs_of_nonneg hx] at herror
  linarith

theorem ofRat_nonneg {x : ℚ} (hx : 0 ≤ x) : 0 ≤ ofRat x := by
  refine le_trans ?_ (le_ofRat hx)
  exact mul_nonneg hx (by norm_num)

end binary64
