import Mathlib.Algebra.Order.Floor.Semifield
import Mathlib.Data.Int.Log
import Mathlib.Data.Rat.Floor
import Mathlib.Tactic.FieldSimp
import Mathlib.Tactic.Linarith
import Mathlib.Tactic.Positivity
import Mathlib.Tactic.Ring

/-!
# Rounding to a number of binary digits

`nearest p x` is the number with at most `p` binary digits that is nearest to `x`, and of two such
the one whose last digit is zero. The exponent is not bounded, so nothing overflows or underflows.

Beside the relative error (`abs_nearest_sub_le`) there are two kinds of bounds, by which a comparison
of rounded numbers is decided from the numbers themselves: an integer of at most `p` digits stays on
its side (`intCast_le_nearest`, `nearest_le_intCast`), and any other bound moves by its own relative
error at most (`le_nearest`, `nearest_le`). Neither asks for a bound on the rounded number.
-/

namespace Rounding

variable {p : ℕ} {x y : ℚ} {m : ℤ}

/-! ## To an integer -/

/-- The integer nearest to `x`, and of two such the even one. -/
def toInteger (x : ℚ) : ℤ :=
  if x - ⌊x⌋ < 1 / 2 then ⌊x⌋
  else if 1 / 2 < x - ⌊x⌋ then ⌊x⌋ + 1
  else if ⌊x⌋ % 2 = 0 then ⌊x⌋
  else ⌊x⌋ + 1

/-- It is the integer below, or the integer above when that is no further away. -/
theorem toInteger_cases (x : ℚ) :
    toInteger x = ⌊x⌋ ∧ x - ⌊x⌋ ≤ 1 / 2 ∨ toInteger x = ⌊x⌋ + 1 ∧ 1 / 2 ≤ x - ⌊x⌋ := by
  unfold toInteger
  split_ifs with hbelow habove heven
  · exact .inl ⟨rfl, hbelow.le⟩
  · exact .inr ⟨rfl, habove.le⟩
  · exact .inl ⟨rfl, not_lt.1 habove⟩
  · exact .inr ⟨rfl, not_lt.1 hbelow⟩

/-- The error is at most one half. -/
theorem abs_toInteger_sub_le (x : ℚ) : |(toInteger x : ℚ) - x| ≤ 1 / 2 := by
  have hfloor := Int.floor_le x
  have hlt := Int.lt_floor_add_one x
  rw [abs_le]
  obtain ⟨heq, hle⟩ | ⟨heq, hle⟩ := toInteger_cases x
  · rw [heq]
    constructor <;> linarith
  · rw [heq]
    push_cast
    constructor <;> linarith

/-- An integer below `x` stays below. -/
theorem le_toInteger (h : (m : ℚ) ≤ x) : m ≤ toInteger x := by
  have hfloor : m ≤ ⌊x⌋ := Int.le_floor.2 h
  obtain ⟨heq, -⟩ | ⟨heq, -⟩ := toInteger_cases x
  · rwa [heq]
  · rw [heq]
    exact hfloor.trans (Int.le_add_one le_rfl)

/-- The sign does not matter. -/
@[simp] theorem toInteger_neg (x : ℚ) : toInteger (-x) = -toInteger x := by
  have hfloor := Int.floor_le x
  rcases hfloor.eq_or_lt with hint | hlt
  · -- An integer is rounded to itself.
    rw [← hint, toInteger, toInteger, ← Int.cast_neg, Int.floor_intCast, Int.floor_intCast,
      sub_self, sub_self, if_pos (by norm_num), if_pos (by norm_num)]
  · have hceil : ⌊-x⌋ = -⌊x⌋ - 1 := by
      rw [Int.floor_eq_iff]
      have habove := Int.lt_floor_add_one x
      push_cast
      constructor <;> linarith
    unfold toInteger
    rw [hceil]
    push_cast
    split_ifs <;> first | omega | linarith

/-- An integer above `x` stays above. -/
theorem toInteger_le (h : x ≤ m) : toInteger x ≤ m := by
  have hneg : -m ≤ toInteger (-x) := le_toInteger (by push_cast; exact neg_le_neg h)
  rw [toInteger_neg] at hneg
  exact neg_le_neg_iff.1 hneg

/-! ## To a number of digits -/

/-- The place of the last of the `p` digits of `x`. -/
def ulp (p : ℕ) (x : ℚ) : ℚ := 2 ^ (Int.log 2 |x| + 1 - p)

/-- `x` rounded to `p` digits. -/
def nearest (p : ℕ) (x : ℚ) : ℚ := toInteger (x / ulp p x) * ulp p x

theorem ulp_pos : 0 < ulp p x := zpow_pos (by norm_num) _

@[simp] theorem nearest_neg (p : ℕ) (x : ℚ) : nearest p (-x) = -nearest p x := by
  rw [nearest, nearest, ulp, ulp, abs_neg, neg_div, toInteger_neg, Int.cast_neg, neg_mul]

@[simp] theorem nearest_zero : nearest p 0 = 0 := by
  have hzero : toInteger 0 = 0 := le_antisymm (toInteger_le (by simp)) (le_toInteger (by simp))
  rw [nearest, zero_div, hzero, Int.cast_zero, zero_mul]

/-- A number that is not zero has its first digit `p - 1` places before the last. -/
theorem ulp_mul_le (hx : x ≠ 0) : 2 ^ p * ulp p x ≤ 2 * |x| := by
  have hlog := Int.zpow_log_le_self (b := 2) (by norm_num) (abs_pos.2 hx)
  push_cast at hlog
  have hulp : (2 ^ p * ulp p x : ℚ) = 2 * 2 ^ Int.log 2 |x| := by
    rw [ulp, ← zpow_natCast, ← zpow_add₀ two_ne_zero, ← zpow_one_add₀ two_ne_zero]
    congr 1
    ring
  rw [hulp]
  linarith

/-- A multiple of the last place below `x` stays below. -/
theorem mul_ulp_le_nearest (h : m * ulp p x ≤ x) : m * ulp p x ≤ nearest p x := by
  have hle : m ≤ toInteger (x / ulp p x) := le_toInteger ((le_div_iff₀ ulp_pos).2 h)
  exact mul_le_mul_of_nonneg_right (by exact_mod_cast hle) ulp_pos.le

/-- The relative error is at most half a place of the first digit. -/
theorem abs_nearest_sub_le (p : ℕ) (x : ℚ) : |nearest p x - x| ≤ |x| / 2 ^ p := by
  rcases eq_or_ne x 0 with rfl | hx
  · simp
  have hulp : 0 < ulp p x := ulp_pos
  have hsub : nearest p x - x = (toInteger (x / ulp p x) - x / ulp p x) * ulp p x := by
    rw [nearest]
    field_simp
  have hhalf := mul_le_mul_of_nonneg_right (abs_toInteger_sub_le (x / ulp p x)) hulp.le
  rw [hsub, abs_mul, abs_of_pos hulp, le_div_iff₀ (by positivity)]
  have hpow : (0 : ℚ) < 2 ^ p := by positivity
  nlinarith [ulp_mul_le (p := p) hx]

/-- An integer of at most `p` digits below `x` has a multiple of the last place between it and
`x`. -/
theorem exists_mul_ulp_between (hm : |m| ≤ 2 ^ p) (hp : p ≠ 0) (hx : x ≠ 0) (h : (m : ℚ) ≤ x) :
    ∃ k : ℤ, (m : ℚ) ≤ k * ulp p x ∧ k * ulp p x ≤ x := by
  have hm' : |(m : ℚ)| ≤ 2 ^ p := by exact_mod_cast hm
  obtain ⟨hlower, hupper⟩ := abs_le.1 hm'
  rcases le_or_gt (Int.log 2 |x| + 1 - p) 0 with hsmall | hlarge
  · -- The last place is a whole fraction of one, so `m` itself is a multiple.
    obtain ⟨k, hk⟩ := Int.eq_ofNat_of_zero_le (neg_nonneg.2 hsmall)
    have hulp : (2 : ℚ) ^ k * ulp p x = 1 := by
      rw [ulp, ← zpow_natCast, ← hk, ← zpow_add₀ two_ne_zero, neg_add_cancel, zpow_zero]
    refine ⟨m * 2 ^ k, ?_, ?_⟩
    · push_cast
      rw [mul_assoc, hulp, mul_one]
    · push_cast
      rwa [mul_assoc, hulp, mul_one]
  · -- The last place is at least two, and the first digit of `x` alone is past `m`.
    have htwo : 2 ≤ ulp p x := by
      have hpow := zpow_le_zpow_right₀ (one_le_two (α := ℚ)) (Int.add_one_le_of_lt hlarge)
      rwa [zero_add, zpow_one] at hpow
    obtain ⟨q, rfl⟩ := Nat.exists_eq_succ_of_ne_zero hp
    have hfirst := ulp_mul_le (p := q + 1) hx
    have hpow : (0 : ℚ) < 2 ^ q := by positivity
    rw [pow_succ] at hlower hupper hfirst
    have hpast : 2 ^ q * 2 ≤ 2 ^ q * ulp (q + 1) x := mul_le_mul_of_nonneg_left htwo hpow.le
    rcases lt_or_gt_of_ne hx with hneg | hpos
    · rw [abs_of_neg hneg] at hfirst
      refine ⟨-2 ^ q, ?_, ?_⟩
      · push_cast
        linarith
      · push_cast
        linarith
    · rw [abs_of_pos hpos] at hfirst
      refine ⟨2 ^ q, ?_, ?_⟩
      · push_cast
        linarith
      · push_cast
        linarith

/-- An integer of at most `p` digits below `x` stays below. -/
theorem intCast_le_nearest (hm : |m| ≤ 2 ^ p) (hp : p ≠ 0) (h : (m : ℚ) ≤ x) :
    (m : ℚ) ≤ nearest p x := by
  rcases eq_or_ne x 0 with rfl | hx
  · rwa [nearest_zero]
  obtain ⟨k, hle, hbelow⟩ := exists_mul_ulp_between hm hp hx h
  exact hle.trans (mul_ulp_le_nearest hbelow)

/-- An integer of at most `p` digits above `x` stays above. -/
theorem nearest_le_intCast (hm : |m| ≤ 2 ^ p) (hp : p ≠ 0) (h : x ≤ m) : nearest p x ≤ m := by
  have hneg := intCast_le_nearest (m := -m) (x := -x) (by rwa [abs_neg]) hp
    (by push_cast; exact neg_le_neg h)
  rw [nearest_neg, Int.cast_neg] at hneg
  exact neg_le_neg_iff.1 hneg

/-- An integer of at most `p` digits is not rounded. -/
theorem nearest_intCast (hm : |m| ≤ 2 ^ p) (hp : p ≠ 0) : nearest p m = m :=
  le_antisymm (nearest_le_intCast hm hp le_rfl) (intCast_le_nearest hm hp le_rfl)

/-- A bound from below moves by its own relative error at most. -/
theorem le_nearest (hp : p ≠ 0) (h : y ≤ x) : y - |y| / 2 ^ p ≤ nearest p x := by
  have hsmall : |y| / 2 ^ p ≤ |y| := div_le_self (abs_nonneg y) (one_le_pow₀ one_le_two)
  have herror := (abs_le.1 (abs_nearest_sub_le p x)).1
  have hpow : (0 : ℚ) < 2 ^ p := by positivity
  rcases le_or_gt 0 x with hx | hx
  · rw [abs_of_nonneg hx] at herror
    rcases le_or_gt 0 y with hy | hy
    · rw [abs_of_nonneg hy] at hsmall ⊢
      -- The larger of the two keeps more after its error.
      have hkeep : y * (1 - 1 / 2 ^ p) ≤ x * (1 - 1 / 2 ^ p) := by
        refine mul_le_mul_of_nonneg_right h (sub_nonneg.2 ?_)
        exact (div_le_one hpow).2 (one_le_pow₀ one_le_two)
      rw [mul_sub, mul_sub, mul_one_div, mul_one_div, mul_one, mul_one] at hkeep
      linarith
    · have hnonneg : ((0 : ℤ) : ℚ) ≤ nearest p x :=
        intCast_le_nearest (by positivity) hp (by exact_mod_cast hx)
      have hshare : 0 ≤ |y| / 2 ^ p := by positivity
      push_cast at hnonneg
      linarith
  · have hy : y < 0 := h.trans_lt hx
    rw [abs_of_neg hx] at herror
    rw [abs_of_neg hy] at hsmall ⊢
    have hshare : -x / 2 ^ p ≤ -y / 2 ^ p := div_le_div_of_nonneg_right (neg_le_neg h) hpow.le
    linarith

/-- A bound from above moves by its own relative error at most. -/
theorem nearest_le (hp : p ≠ 0) (h : x ≤ y) : nearest p x ≤ y + |y| / 2 ^ p := by
  have hneg := le_nearest hp (neg_le_neg h)
  rw [nearest_neg, abs_neg] at hneg
  linarith

end Rounding
