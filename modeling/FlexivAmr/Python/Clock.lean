import FlexivAmr.Python.Host

/-!
# The two languages' clocks

The C++ program compares `double` counts of nanoseconds, and the Python program compares `float`
counts of seconds. Both round, at different places: of one clock, the one may find a time to have
passed that the other does not. On a clock in range they find the same once the reading of one is
moved by three nanoseconds (`passed_of_isBefore_eq_false` and so on): each of the roundings on the way
moves a time by less than half a nanosecond (`asSeconds_le`, `le_asSeconds`), and there are at most
five.
-/

namespace FlexivAmr.Python

variable {t start now duration : ℤ} {timeout_seconds duration_seconds : ℚ}

/-- The readings of a clock in range, and those next to them. -/
def Readable (t : ℤ) : Prop := -10 ≤ t ∧ t ≤ clockLimit + 10

theorem Readable.cast (ht : Readable t) : (-10 : ℚ) ≤ t ∧ (t : ℚ) ≤ 4000000000000010 := by
  obtain ⟨hlower, hupper⟩ := ht
  unfold clockLimit at hupper
  exact ⟨by exact_mod_cast hlower, by exact_mod_cast hupper⟩

theorem Readable.double_eq (ht : Readable t) : double t = t := by
  obtain ⟨hlower, hupper⟩ := ht
  unfold clockLimit at hupper
  exact double_intCast (abs_le.2 ⟨by omega, by omega⟩)

/-- A reading in seconds is rounded once. -/
theorem asSeconds_eq (ht : Readable t) : asSeconds t = double (t / 1000000000) := by
  unfold asSeconds
  split_ifs with hwhole
  · obtain ⟨secs, rfl⟩ := Int.dvd_of_emod_eq_zero hwhole
    rw [Int.mul_ediv_cancel_left _ (by decide), Int.cast_mul, Int.cast_ofNat,
      mul_div_cancel_left₀ _ (by norm_num)]
  · rw [ht.double_eq]

theorem asSeconds_le (ht : Readable t) : asSeconds t ≤ (t + 45 / 100) / 1000000000 := by
  obtain ⟨hlower, hupper⟩ := ht.cast
  have hbound := double_le_add (45 / 100000000000) (le_refl (t / 1000000000 : ℚ))
    (abs_le.2 ⟨by linarith, by linarith⟩)
  rw [asSeconds_eq ht]
  linarith

theorem le_asSeconds (ht : Readable t) : (t - 45 / 100) / 1000000000 ≤ asSeconds t := by
  obtain ⟨hlower, hupper⟩ := ht.cast
  have hbound := sub_le_double (45 / 100000000000) (le_refl (t / 1000000000 : ℚ))
    (abs_le.2 ⟨by linarith, by linarith⟩)
  rw [asSeconds_eq ht]
  linarith

/-! ## Deadlines -/

/-- What a `float` deadline says of the clock that it is set by, once a reading has reached it. -/
theorem add_lt_of_deadline_le (hstart : Readable start) (hnow : Readable now)
    (hpassed : double (asSeconds start + duration_seconds) ≤ asSeconds now) :
    start + duration_seconds * 1000000000 < now + 145 / 100 := by
  obtain ⟨hlower, hupper⟩ := hnow.cast
  have hread := asSeconds_le hnow
  have hread' := le_asSeconds hstart
  by_contra hlate
  have hbound := sub_le_double (x := asSeconds start + duration_seconds) (45 / 100000000000)
    (y := (now + 1) / 1000000000) (by linarith) (abs_le.2 ⟨by linarith, by linarith⟩)
  linarith

/-- When a reading has reached a `float` deadline. -/
theorem deadline_le_of_add_le (hstart : Readable start) (hnow : Readable now)
    (hpassed : start + duration_seconds * 1000000000 ≤ now - 135 / 100) :
    double (asSeconds start + duration_seconds) ≤ asSeconds now := by
  obtain ⟨hlower, hupper⟩ := hnow.cast
  have hread := le_asSeconds hnow
  have hread' := asSeconds_le hstart
  have hbound := double_le_add (x := asSeconds start + duration_seconds) (45 / 100000000000)
    (y := (now - 9 / 10) / 1000000000) (by linarith) (abs_le.2 ⟨by linarith, by linarith⟩)
  linarith

/-- When a `double` deadline has passed. -/
theorem isBefore_eq_false_of_add_le (hstart : Readable start) (hnow : Readable now)
    (hpassed : start + timeout_seconds * 1000000000 ≤ now - 9 / 10) :
    isBefore now (deadlineAt start timeout_seconds) = false := by
  obtain ⟨hlower, hupper⟩ := hnow.cast
  obtain ⟨hlower', hupper'⟩ := hstart.cast
  have htimeout := double_le_add (x := timeout_seconds * 1000000000) (45 / 100)
    (y := now - start - 9 / 10) (by linarith) (abs_le.2 ⟨by linarith, by linarith⟩)
  have hdeadline := double_le_add (x := double start + double (timeout_seconds * 1000000000))
    (45 / 100) (y := now - 45 / 100) (by rw [hstart.double_eq]; linarith)
    (abs_le.2 ⟨by linarith, by linarith⟩)
  rw [isBefore, decide_eq_false_iff_not, hnow.double_eq, deadlineAt, not_lt]
  linarith

/-- What a `double` deadline says of the clock, once a reading has reached it. -/
theorem add_lt_of_isBefore_eq_false (hstart : Readable start) (hnow : Readable now)
    (hpassed : isBefore now (deadlineAt start timeout_seconds) = false) :
    start + timeout_seconds * 1000000000 < now + 1 := by
  obtain ⟨hlower, hupper⟩ := hnow.cast
  obtain ⟨hlower', hupper'⟩ := hstart.cast
  rw [isBefore, decide_eq_false_iff_not, hnow.double_eq, deadlineAt, not_lt] at hpassed
  by_contra hlate
  have htimeout := sub_le_double (x := timeout_seconds * 1000000000) (45 / 100)
    (y := now - start + 1) (by linarith) (abs_le.2 ⟨by linarith, by linarith⟩)
  have hdeadline := sub_le_double (x := double start + double (timeout_seconds * 1000000000))
    (45 / 100) (y := now + 1 / 2) (by rw [hstart.double_eq]; linarith)
    (abs_le.2 ⟨by linarith, by linarith⟩)
  linarith

/-- The C++ program finds a deadline passed no more than three nanoseconds after the Python
program. -/
theorem isBefore_eq_false_of_passed (hstart : Readable start) (hnow : Readable now)
    (hnow' : Readable (now - 3))
    (hpassed : double (asSeconds start + timeout_seconds) ≤ asSeconds (now - 3)) :
    isBefore now (deadlineAt start timeout_seconds) = false := by
  have hlt := add_lt_of_deadline_le hstart hnow' hpassed
  push_cast at hlt
  exact isBefore_eq_false_of_add_le hstart hnow (by linarith)

/-- And the Python program after the C++ program. -/
theorem passed_of_isBefore_eq_false (hstart : Readable start) (hnow : Readable now)
    (hnow' : Readable (now + 3))
    (hpassed : isBefore now (deadlineAt start timeout_seconds) = false) :
    double (asSeconds start + timeout_seconds) ≤ asSeconds (now + 3) := by
  have hlt := add_lt_of_isBefore_eq_false hstart hnow hpassed
  exact deadline_le_of_add_le hstart hnow' (by push_cast; linarith)

/-! ## Times that have elapsed -/

/-- The time that has elapsed for the C++ program is rounded once. -/
theorem seconds_sub_eq (hstart : Readable start) (hnow : Readable now) :
    seconds (now - start) = double ((now - start) / 1000000000) := by
  obtain ⟨hlower, hupper⟩ := hnow
  obtain ⟨hlower', hupper'⟩ := hstart
  unfold clockLimit at hupper hupper'
  rw [seconds, double_intCast (abs_le.2 ⟨by omega, by omega⟩), Int.cast_sub]

/-- It is at most that for the Python program three nanoseconds later. -/
theorem seconds_le_elapsed (hstart : Readable start) (hnow : Readable now)
    (hnow' : Readable (now + 3)) :
    seconds (now - start) ≤ double (asSeconds (now + 3) - asSeconds start) := by
  obtain ⟨hlower, hupper⟩ := hnow.cast
  obtain ⟨hlower', hupper'⟩ := hstart.cast
  have hread := le_asSeconds hnow'
  have hread' := asSeconds_le hstart
  push_cast at hread
  have hcpp := double_le_add (45 / 100000000000) (le_refl ((now - start) / 1000000000 : ℚ))
    (abs_le.2 ⟨by linarith, by linarith⟩)
  have hpython := sub_le_double (x := asSeconds (now + 3) - asSeconds start) (45 / 100000000000)
    (y := (now - start + 21 / 10) / 1000000000) (by linarith) (abs_le.2 ⟨by linarith, by linarith⟩)
  rw [seconds_sub_eq hstart hnow]
  linarith

/-- At one and the same reading, the one program may find a pause due that the other does not. -/
example : double (65 / 100) ≤ seconds (1000750000000 - 1000100000000) ∧
    ¬double (65 / 100) ≤ double (asSeconds 1000750000000 - asSeconds 1000100000000) := by
  decide +kernel

/-- And at least that for the Python program three nanoseconds earlier. -/
theorem elapsed_le_seconds (hstart : Readable start) (hnow : Readable now)
    (hnow' : Readable (now - 3)) :
    double (asSeconds (now - 3) - asSeconds start) ≤ seconds (now - start) := by
  obtain ⟨hlower, hupper⟩ := hnow.cast
  obtain ⟨hlower', hupper'⟩ := hstart.cast
  have hread := asSeconds_le hnow'
  have hread' := le_asSeconds hstart
  push_cast at hread
  have hcpp := sub_le_double (45 / 100000000000) (le_refl ((now - start) / 1000000000 : ℚ))
    (abs_le.2 ⟨by linarith, by linarith⟩)
  have hpython := double_le_add (x := asSeconds (now - 3) - asSeconds start) (45 / 100000000000)
    (y := (now - start - 21 / 10) / 1000000000) (by linarith) (abs_le.2 ⟨by linarith, by linarith⟩)
  rw [seconds_sub_eq hstart hnow]
  linarith

/-! ## Durations -/

/-- A `float` of seconds for this many milliseconds, to a hundredth of a nanosecond. -/
def IsDuration (duration : ℤ) (duration_seconds : ℚ) : Prop :=
  |duration_seconds * 1000000000 - duration * 1000000| ≤ 1 / 100

/-- The `float` nearest to the duration is one. -/
theorem isDuration_double (h : |duration| ≤ 10000) :
    IsDuration duration (double (duration / 1000)) := by
  have hcast : |(duration : ℚ)| ≤ 10000 := by exact_mod_cast h
  obtain ⟨hlower, hupper⟩ := abs_le.1 hcast
  have hbelow := sub_le_double (1 / 100000000000) (le_refl (duration / 1000 : ℚ))
    (abs_le.2 ⟨by linarith, by linarith⟩)
  have habove := double_le_add (1 / 100000000000) (le_refl (duration / 1000 : ℚ))
    (abs_le.2 ⟨by linarith, by linarith⟩)
  exact abs_le.2 ⟨by linarith, by linarith⟩

/-- A sleep that has reached its `float` deadline has slept, but for three nanoseconds. -/
theorem slept_of_deadline_le (hduration : IsDuration duration duration_seconds)
    (hstart : Readable start) (hnow : Readable now)
    (hpassed : double (asSeconds start + duration_seconds) ≤ asSeconds now) :
    start + duration * 1000000 ≤ now + 3 := by
  have hlt := add_lt_of_deadline_le hstart hnow hpassed
  obtain ⟨hbelow, habove⟩ := abs_le.1 hduration
  have hcast : ((start + duration * 1000000 : ℤ) : ℚ) ≤ (now + 3 : ℤ) := by
    push_cast
    linarith
  exact_mod_cast hcast

/-- A sleep that has slept has reached its `float` deadline three nanoseconds later. -/
theorem deadline_le_of_slept (hduration : IsDuration duration duration_seconds)
    (hstart : Readable start) (hnow : Readable (now + 3))
    (hslept : start + duration * 1000000 ≤ now) :
    double (asSeconds start + duration_seconds) ≤ asSeconds (now + 3) := by
  have hcast : (start + duration * 1000000 : ℚ) ≤ now := by exact_mod_cast hslept
  obtain ⟨hbelow, habove⟩ := abs_le.1 hduration
  exact deadline_le_of_add_le hstart hnow (by push_cast; linarith)

end FlexivAmr.Python
