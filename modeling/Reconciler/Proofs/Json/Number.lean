import Mathlib.Data.List.TakeWhile
import Reconciler.Json.Number

/-!
# Reading back whole numbers

The digits of a whole number follow the grammar of JSON numbers, without a leading zero, and are
read back as the number when it fits 64 bits, with or without a sign.
-/

set_option autoImplicit false

namespace Reconciler.Json

/-- The digits of a number are decimal digits. -/
theorem isDigit_of_mem_toDigits {n : Nat} {c : Char} (h : c ∈ Nat.toDigits 10 n) :
    c.isDigit = true :=
  Nat.isDigit_of_mem_toDigits (by decide) (by decide) h

/-- A digit is no mark that is not one. -/
theorem ne_of_isDigit {c mark : Char} (h : c.isDigit = true) (hmark : mark.isDigit = false) :
    c ≠ mark := by
  rintro rfl
  rw [h] at hmark
  cases hmark

/-- A number other than zero is written without a leading zero. -/
theorem head_toDigits_ne {n : Nat} (hpos : 0 < n) : (Nat.toDigits 10 n).head? ≠ some '0' := by
  induction n using Nat.strongRecOn with
  | ind n ih =>
    by_cases hsmall : n < 10
    · rw [Nat.toDigits_of_lt_base hsmall]
      have hdigits : ∀ digit < 10, 0 < digit → Nat.digitChar digit ≠ '0' := by decide
      simpa using hdigits n hsmall hpos
    · have hbase : 10 ≤ n := by omega
      rw [Nat.toDigits_of_base_le (by decide) hbase, List.head?_append]
      have hrest := ih (n / 10) (by omega) (by omega)
      cases hhead : (Nat.toDigits 10 (n / 10)).head? with
      | none => exact absurd (List.head?_eq_none_iff.mp hhead) Nat.toDigits_ne_nil
      | some c =>
        rw [hhead] at hrest
        exact hrest

namespace NumberForm

/-- The digits of a number make up a valid whole part, without leading zeros. -/
theorem validWhole_toDigits (n : Nat) : validWhole (Nat.toDigits 10 n) = true := by
  have hdigits : ∀ c ∈ Nat.toDigits 10 n, c.isDigit = true := fun c => isDigit_of_mem_toDigits
  cases hchars : Nat.toDigits 10 n with
  | nil => exact absurd hchars Nat.toDigits_ne_nil
  | cons first rest =>
    rw [hchars] at hdigits
    have hfirst := hdigits first List.mem_cons_self
    cases rest with
    | nil => exact hfirst
    | cons second rest =>
      have hpos : 0 < n := by
        rcases Nat.eq_zero_or_pos n with rfl | hpos
        · rw [Nat.toDigits_zero] at hchars
          cases hchars
        · exact hpos
      have hzero := head_toDigits_ne hpos
      rw [hchars, List.head?_cons] at hzero
      have hrest : (second :: rest).all Char.isDigit = true :=
        List.all_eq_true.mpr fun c hc => hdigits c (List.mem_cons_of_mem _ hc)
      have hne : (first != '0') = true := by simpa using hzero
      show (first.isDigit && first != '0' && (second :: rest).all Char.isDigit) = true
      rw [hfirst, hne, hrest]
      rfl

variable {digits : List Char}

/-- Digits have no exponent and no fraction to split off. -/
theorem split_digits (hdigits : ∀ c ∈ digits, c.isDigit = true) :
    splitExponent digits = (digits, none) ∧ splitFraction digits = (digits, none) := by
  have hexponent : ∀ c ∈ digits, (!(c == 'e' || c == 'E')) = true := fun c hc => by
    have hlower : c ≠ 'e' := ne_of_isDigit (hdigits c hc) (by decide)
    have hupper : c ≠ 'E' := ne_of_isDigit (hdigits c hc) (by decide)
    simp [hlower, hupper]
  have hpoint : ∀ c ∈ digits, (c != '.') = true := fun c hc => by
    have hother : c ≠ '.' := ne_of_isDigit (hdigits c hc) (by decide)
    simpa using hother
  constructor
  · simp only [splitExponent, List.dropWhile_eq_nil_iff.mpr hexponent,
      List.takeWhile_eq_self_iff.mpr hexponent]
  · simp only [splitFraction, List.dropWhile_eq_nil_iff.mpr hpoint,
      List.takeWhile_eq_self_iff.mpr hpoint]

/-- Digits without a leading zero are a form without fraction and exponent. -/
theorem ofChars?_digits (hdigits : ∀ c ∈ digits, c.isDigit = true)
    (hwhole : validWhole digits = true) :
    ofChars? digits = some ⟨false, digits, none, none⟩ := by
  obtain ⟨hexponent, hfraction⟩ := split_digits hdigits
  cases digits with
  | nil => cases hwhole
  | cons first rest =>
    have hsign : first ≠ '-' := ne_of_isDigit (hdigits first List.mem_cons_self) (by decide)
    simp [ofChars?, hsign, hexponent, hfraction, valid, hwhole]

/-- The same with a minus sign before the digits. -/
theorem ofChars?_negative (hdigits : ∀ c ∈ digits, c.isDigit = true)
    (hwhole : validWhole digits = true) :
    ofChars? ('-' :: digits) = some ⟨true, digits, none, none⟩ := by
  obtain ⟨hexponent, hfraction⟩ := split_digits hdigits
  simp [ofChars?, hexponent, hfraction, valid, hwhole]

end NumberForm

/-- A whole number that fits 64 bits, with or without a sign, is read back. -/
theorem ofNumber?_intChars {value : Int} (hlow : Int64.minValue.toInt ≤ value)
    (hhigh : value < UInt64.size) : ofNumber? (intChars value) = some (.int value) := by
  have hvalue (n : Nat) : NumberForm.value (Nat.toDigits 10 n) = n :=
    Nat.ofDigitChars_ten_toDigits
  cases value with
  | ofNat n =>
    have hform := NumberForm.ofChars?_digits (fun c => isDigit_of_mem_toDigits)
      (NumberForm.validWhole_toDigits n)
    have hfits : decide ((n : Int) < UInt64.size) = true := decide_eq_true hhigh
    simp only [ofNumber?, intChars, hform, Option.map_some, hvalue, hfits]
    rfl
  | negSucc n =>
    have hform := NumberForm.ofChars?_negative (fun c => isDigit_of_mem_toDigits)
      (NumberForm.validWhole_toDigits (n + 1))
    have hfits : decide (Int64.minValue.toInt ≤ -((n + 1 : Nat) : Int)) = true :=
      decide_eq_true hlow
    have hzero : decide (((n + 1 : Nat) : Int) ≠ 0) = true := decide_eq_true (by omega)
    simp only [ofNumber?, intChars, hform, Option.map_some, hvalue, hfits, hzero]
    rfl

end Reconciler.Json
