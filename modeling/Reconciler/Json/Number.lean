import Reconciler.Json.Basic
import Reconciler.Json.Double

/-!
# JSON numbers

The grammar of a JSON number and the sorting of numbers into whole ones, other ones and those
too large for any reader. A number is whole when it is written without fraction and exponent
and fits 64 bits; negative zero is not whole, since no whole number is written that way.
-/

set_option autoImplicit false

namespace Reconciler.Json

/-- The parts of a number as they are written. -/
structure NumberForm where
  /-- Whether a minus sign comes first. -/
  negative : Bool
  /-- The digits before the point. -/
  whole : List Char
  /-- The digits after the point, if there is one. -/
  fraction : Option (List Char)
  /-- The exponent, if there is one: whether it is negative, and its digits. -/
  exponent : Option (Bool × List Char)
  deriving DecidableEq, Repr

namespace NumberForm

/-- Whether digits may stand before the point: at least one, and no leading zero. -/
def validWhole : List Char → Bool
  | [] => false
  | [c] => c.isDigit
  | c :: rest => c.isDigit && c != '0' && rest.all Char.isDigit

/-- Whether digits may stand after the point or in an exponent: at least one. -/
def validDigits (digits : List Char) : Bool :=
  !digits.isEmpty && digits.all Char.isDigit

/-- Whether all parts follow the grammar. -/
def valid (form : NumberForm) : Bool :=
  validWhole form.whole && form.fraction.all validDigits &&
    form.exponent.all fun exponent => validDigits exponent.2

/-- Splits off the exponent: its sign and its digits. -/
def splitExponent (chars : List Char) : List Char × Option (Bool × List Char) :=
  let isMark := fun c => c == 'e' || c == 'E'
  let before := chars.takeWhile (!isMark ·)
  match chars.dropWhile (!isMark ·) with
  | [] => (before, none)
  | _ :: '-' :: digits => (before, some (true, digits))
  | _ :: '+' :: digits => (before, some (false, digits))
  | _ :: digits => (before, some (false, digits))

def splitFraction (chars : List Char) : List Char × Option (List Char) :=
  let before := chars.takeWhile (· != '.')
  match chars.dropWhile (· != '.') with
  | [] => (before, none)
  | _ :: digits => (before, some digits)

/-- The parts of a written number, when it follows the grammar. -/
def ofChars? (chars : List Char) : Option NumberForm :=
  let (negative, unsigned) := match chars with
    | '-' :: rest => (true, rest)
    | _ => (false, chars)
  let (mantissa, exponent) := splitExponent unsigned
  let (whole, fraction) := splitFraction mantissa
  let form : NumberForm := ⟨negative, whole, fraction, exponent⟩
  if form.valid then some form else none

def value (digits : List Char) : Nat :=
  Nat.ofDigitChars 10 digits 0

/-- Takes digits into a number as long as it fits 64 bits. The digits from the first one on that
makes it too large are left over. -/
def gather (number : Nat) : List Char → Nat × List Char
  | [] => (number, [])
  | digit :: rest =>
    let longer := Nat.ofDigitChars 10 [digit] number
    if longer < UInt64.size then gather longer rest else (number, digit :: rest)

/-- The largest exponent of ten that is within reach of double precision. -/
def largestExponent : Nat := 308

/-- Whether the magnitude is within reach of double precision. Only the digits that fit 64 bits
count, those before the point and then those after it, and the others just shift the point. The
digits and the power of ten are rounded before they are multiplied, so close to the limit the
answer depends on the way in which a number is written. -/
def inRange (form : NumberForm) : Bool :=
  let fraction := form.fraction.getD []
  let (whole, wholeRest) := gather 0 form.whole
  let (digits, fractionRest) := gather whole fraction
  let written : Int := match form.exponent with
    | none => 0
    | some (true, digits) => -(value digits : Int)
    | some (false, digits) => value digits
  let exponent : Int := written + wholeRest.length + fractionRest.length - fraction.length
  if digits = 0 ∨ exponent ≤ 0 then true
  else if largestExponent < exponent then false
  else Double.nearest digits * Double.nearest (Nat.pow 10 exponent.toNat) < Double.limit

end NumberForm

/-- The value of a written number; none when it breaks the grammar. -/
def ofNumber? (chars : List Char) : Option Json :=
  (NumberForm.ofChars? chars).map fun form =>
    let magnitude : Int := NumberForm.value form.whole
    let plain := form.fraction.isNone && form.exponent.isNone
    if plain && !form.negative && magnitude < UInt64.size then .int magnitude
    else if plain && form.negative && magnitude ≠ 0 && Int64.minValue.toInt ≤ -magnitude then
      .int (-magnitude)
    else if form.inRange then .real (String.ofList chars)
    else .unreadable

def intChars : Int → List Char
  | .ofNat n => Nat.toDigits 10 n
  | .negSucc n => '-' :: Nat.toDigits 10 (n + 1)

end Reconciler.Json
