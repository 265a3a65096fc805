import Reconciler.Readiness

/-!
# Readiness in exact integers

The clock saturates at the ends of its range, and so does the window. As long as the time of
the first ready look is after zero, neither makes a difference: a resource counts as settled
exactly when the time since then, counted in integers, has reached the window.
-/

set_option autoImplicit false

namespace Reconciler

namespace Clock

/-- The greater of two machine integers is the greater as an integer. -/
theorem toInt_max (a b : Int64) : (max a b).toInt = max a.toInt b.toInt := by
  have hmax : max a b = if a ≤ b then b else a := rfl
  rw [hmax]
  split
  · next h =>
    have := Int64.le_iff_toInt_le.mp h
    omega
  · next h =>
    have := mt Int64.le_iff_toInt_le.mpr h
    omega

/-- An integer is brought into the range by cutting it off at the ends. -/
theorem toInt_clamp (n : Int) :
    (clamp n).toInt = max Int64.minValue.toInt (min n Int64.maxValue.toInt) := by
  rw [clamp, Int64.toInt_minValue, Int64.toInt_maxValue]
  split
  · rw [Int64.toInt_minValue]
    omega
  · split
    · rw [Int64.toInt_maxValue]
      omega
    · rw [Int64.toInt_ofInt_of_le] <;> omega

end Clock

namespace Readiness

/-- The time since a stamp after zero is exact, and zero when the clock has gone back. -/
theorem toInt_elapsed {since : Int64} (h : 0 < since.toInt) (now : Int64) :
    (elapsed since now).toInt = max 0 (now.toInt - since.toInt) := by
  have hlow := now.le_toInt
  have hhigh := now.toInt_lt
  have hsince := since.toInt_lt
  rw [elapsed, Clock.toInt_max, Clock.toInt_clamp, Int64.toInt_zero, Int64.toInt_minValue,
    Int64.toInt_maxValue]
  omega

/-- The window has passed on the clock exactly when it has in integers. -/
theorem window_le_elapsed_iff {since : Int64} (h : 0 < since.toInt) (now : Int64)
    (window : Duration) :
    window.clamped ≤ elapsed since now ↔
      (window.milliseconds : Int) ≤ max 0 (now.toInt - since.toInt) := by
  have hhigh := now.toInt_lt
  rw [Int64.le_iff_toInt_le, toInt_elapsed h, Duration.clamped, Clock.toInt_clamp,
    Int64.toInt_minValue, Int64.toInt_maxValue]
  omega

/-- A time that is not before zero is after zero exactly when it is set. -/
theorem pos_iff_ne_zero {since : Int64} (h : 0 ≤ since.toInt) : 0 < since.toInt ↔ since ≠ 0 := by
  have hzero : since.toInt = 0 ↔ since = 0 := by rw [← Int64.toInt_zero, Int64.toInt_inj]
  rw [Ne, ← hzero]
  omega

/-- A resource that is not ready is ready since no time. -/
theorem observe_unready (since now : Int64) (window : Duration) :
    observe since false now window = ⟨0, false⟩ := rfl

/-- A first ready look is stamped with its time, or with one, and settles nothing. -/
theorem observe_first (now : Int64) (window : Duration) :
    observe 0 true now window = ⟨max now 1, false⟩ := rfl

/-- A later ready look keeps the stamp and settles when the window has passed in integers. -/
theorem observe_later {since : Int64} (h : 0 < since.toInt) (now : Int64) (window : Duration) :
    observe since true now window =
      ⟨since, (window.milliseconds : Int) ≤ max 0 (now.toInt - since.toInt)⟩ := by
  have hne : since ≠ 0 := by
    rintro rfl
    simp at h
  simp only [observe, Bool.not_true, Bool.false_eq_true, if_false, hne,
    window_le_elapsed_iff h]

/-- A stamp is the time in integers, or one when that is greater. -/
theorem toInt_stamp (now : Int64) : (max now 1).toInt = max now.toInt 1 := by
  have hone : (1 : Int64).toInt = 1 := rfl
  rw [Clock.toInt_max, hone]

/-- A stamp is after zero, so it is told apart from a resource that is not ready. -/
theorem stamp_pos (now : Int64) : 0 < (max now 1).toInt := by
  rw [toInt_stamp]
  omega

end Readiness

end Reconciler
