/-!
# Decimal numerals with a limit

Reading an unsigned number from a text, with the three ways it can fail. The digits are read
from the left and the first digit at which something goes wrong decides the failure, so a
text that is too large before its first foreign character is reported as too large.
-/

set_option autoImplicit false

namespace Reconciler.Text

/-- The reasons why a text is no numeral. -/
inductive NumeralError
  | empty
  | invalidDigit
  | tooLarge
  deriving DecidableEq, Repr

def NumeralError.message : NumeralError → String
  | .empty => "cannot parse integer from empty string"
  | .invalidDigit => "invalid digit found in string"
  | .tooLarge => "number too large to fit in target type"

def digit? (c : Char) : Option Nat :=
  if '0' ≤ c ∧ c ≤ '9' then some (c.toNat - '0'.toNat) else none

/-- Reads digits onto a number already read, which may not exceed the limit. -/
def readDigits (limit : Nat) : Nat → List Char → Except NumeralError Nat
  | value, [] => .ok value
  | value, c :: rest =>
    match digit? c with
    | none => .error .invalidDigit
    | some d =>
      if limit < value * 10 + d then .error .tooLarge
      else readDigits limit (value * 10 + d) rest

/-- Reads a numeral of at most the given limit: digits, after an optional plus sign. -/
def readNumeral (limit : Nat) (text : String) : Except NumeralError Nat :=
  match text.toList with
  | [] => .error .empty
  | ['+'] => .error .invalidDigit
  | '+' :: digits => readDigits limit 0 digits
  | digits => readDigits limit 0 digits

/-- A number that was read stays within the limit. -/
theorem readDigits_le {limit value result : Nat} {digits : List Char} (start : value ≤ limit)
    (h : readDigits limit value digits = .ok result) : result ≤ limit := by
  induction digits generalizing value with
  | nil =>
    simp only [readDigits, Except.ok.injEq] at h
    omega
  | cons c rest ih =>
    simp only [readDigits] at h
    split at h
    · simp at h
    · split at h
      · simp at h
      · exact ih (by omega) h

end Reconciler.Text
