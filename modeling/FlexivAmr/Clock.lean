import FlexivAmr.Rounding.Nearest

/-!
# Times as floating-point numbers

The C++ and the Python programs count seconds in `double`, whose results are rounded to 53 binary
digits. `double` is this rounding. A `double` is taken to have any exponent: none of the numbers of
the programs comes near the smallest, and one past the largest is later than any clock either way.
-/

namespace FlexivAmr

variable {m : ℤ} {x y : ℚ}

/-- The `double` nearest to `x`, and of two such the even one. -/
def double (x : ℚ) : ℚ := Rounding.nearest 53 x

/-- `std::chrono::duration<double>` of a number of nanoseconds. -/
def seconds (nanoseconds : ℤ) : ℚ := double (double nanoseconds / 1000000000)

/-- `start + std::chrono::duration<double>(timeout_seconds)`: a `double` of nanoseconds. -/
def deadlineAt (start : ℤ) (timeout_seconds : ℚ) : ℚ :=
  double (double start + double (timeout_seconds * 1000000000))

/-- `now < deadline`, for a deadline that is a `double` of nanoseconds. -/
def isBefore (now : ℤ) (deadline : ℚ) : Bool := decide (double now < deadline)

@[simp] theorem isBefore_eq_true_iff {now : ℤ} {deadline : ℚ} :
    isBefore now deadline = true ↔ double now < deadline := decide_eq_true_iff

/-- An integer of at most 53 digits is a `double`. -/
theorem double_intCast (hm : |m| ≤ 2 ^ 53) : double m = m :=
  Rounding.nearest_intCast hm (by decide)

/-- A `double` does not round past an integer of at most 53 digits. -/
theorem intCast_le_double (hm : |m| ≤ 2 ^ 53) (h : (m : ℚ) ≤ x) : (m : ℚ) ≤ double x :=
  Rounding.intCast_le_nearest hm (by decide) h

/-- A `double` does not round past an integer of at most 53 digits. -/
theorem double_le_intCast (hm : |m| ≤ 2 ^ 53) (h : x ≤ m) : double x ≤ m :=
  Rounding.nearest_le_intCast hm (by decide) h

@[simp] theorem double_zero : double 0 = 0 := Rounding.nearest_zero

theorem double_pos (h : 0 < x) : 0 < double x := by
  have hkept := Rounding.le_nearest (p := 53) (by decide) (le_refl x)
  rw [abs_of_pos h] at hkept
  have hsmall : x / 2 ^ 53 < x := div_lt_self h (by norm_num)
  unfold double
  linarith

theorem double_nonpos_iff : double x ≤ 0 ↔ x ≤ 0 := by
  refine ⟨fun h => not_lt.1 fun hpos => (double_pos hpos).not_ge h, fun h => ?_⟩
  have hle : double x ≤ (0 : ℤ) := double_le_intCast (by decide) (by rwa [Int.cast_zero])
  rwa [Int.cast_zero] at hle

/-- A bound from above that rounds by at most `error`. -/
theorem double_le_add (error : ℚ) (h : x ≤ y) (hy : |y| ≤ error * 2 ^ 53) :
    double x ≤ y + error := by
  have hbound := Rounding.nearest_le (p := 53) (by decide) h
  have herror : |y| / 2 ^ 53 ≤ error := (div_le_iff₀ (by positivity)).2 hy
  exact hbound.trans (by linarith)

/-- A bound from below that rounds by at most `error`. -/
theorem sub_le_double (error : ℚ) (h : y ≤ x) (hy : |y| ≤ error * 2 ^ 53) :
    y - error ≤ double x := by
  have hbound := Rounding.le_nearest (p := 53) (by decide) h
  have herror : |y| / 2 ^ 53 ≤ error := (div_le_iff₀ (by positivity)).2 hy
  exact le_trans (by linarith) hbound

/-- At the reading 0 of the clock, every timeout is still to come. -/
theorem isBefore_deadlineAt_zero {timeout_seconds : ℚ} (h : 0 < timeout_seconds) :
    isBefore 0 (deadlineAt 0 timeout_seconds) = true := by
  rw [isBefore_eq_true_iff, deadlineAt, Int.cast_zero, double_zero, zero_add]
  exact double_pos (double_pos (mul_pos h (by norm_num)))

/-- The deadline is still to come while the clock has counted less than the timeout. -/
theorem isBefore_deadlineAt_eq_true (elapsed : ℤ) {start now : ℤ} {timeout_seconds : ℚ}
    (hstart : 0 ≤ start) (hnow : 0 ≤ now) (hbefore : now < start + elapsed) (helapsed : 0 ≤ elapsed)
    (hbound : start + elapsed ≤ 2 ^ 53) (htimeout : elapsed ≤ timeout_seconds * 1000000000) :
    isBefore now (deadlineAt start timeout_seconds) = true := by
  have hexact := double_intCast (m := start) (by rw [abs_of_nonneg hstart]; omega)
  have hexact' := double_intCast (m := now) (by rw [abs_of_nonneg hnow]; omega)
  have hrounded : (elapsed : ℚ) ≤ double (timeout_seconds * 1000000000) :=
    intCast_le_double (by rw [abs_of_nonneg helapsed]; omega) htimeout
  have hdeadline : ((start + elapsed : ℤ) : ℚ) ≤ deadlineAt start timeout_seconds := by
    refine intCast_le_double (by rw [abs_of_nonneg (by omega)]; omega) ?_
    push_cast
    rw [hexact]
    linarith
  rw [isBefore_eq_true_iff, hexact']
  exact (Int.cast_lt.2 hbefore).trans_le hdeadline

/-- The deadline has passed once the clock has counted the timeout, when it reads at most `2 ^ 53`
nanoseconds, whatever the timeout. -/
theorem isBefore_deadlineAt_eq_false {start elapsed now : ℤ} {timeout_seconds : ℚ}
    (hstart : 0 ≤ start) (hnow : now ≤ 2 ^ 53) (hpassed : start + elapsed ≤ now)
    (helapsed : 0 ≤ elapsed) (htimeout : timeout_seconds * 1000000000 ≤ elapsed) :
    isBefore now (deadlineAt start timeout_seconds) = false := by
  have hexact := double_intCast (m := start) (by rw [abs_of_nonneg hstart]; omega)
  have hexact' := double_intCast (m := now) (by rw [abs_of_nonneg (by omega)]; omega)
  have hrounded : double (timeout_seconds * 1000000000) ≤ elapsed :=
    double_le_intCast (by rw [abs_of_nonneg helapsed]; omega) htimeout
  have hdeadline : deadlineAt start timeout_seconds ≤ now := by
    refine double_le_intCast (by rw [abs_of_nonneg (by omega)]; omega) ?_
    have hsum : (start + elapsed : ℚ) ≤ now := by exact_mod_cast hpassed
    rw [hexact]
    linarith
  rw [isBefore, decide_eq_false_iff_not, not_lt, hexact']
  exact hdeadline

end FlexivAmr
