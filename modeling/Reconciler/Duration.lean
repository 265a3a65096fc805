/-!
# Durations

Spans of time counted in nanoseconds, without a limit, and read in whole seconds or whole
milliseconds.
-/

set_option autoImplicit false

namespace Reconciler

/-- A span of time. -/
structure Duration where
  nanoseconds : Nat
  deriving DecidableEq, Repr, Inhabited

namespace Duration

def zero : Duration := ⟨0⟩

def of (seconds nanoseconds : Nat) : Duration :=
  ⟨seconds * 1000000000 + nanoseconds⟩

def ofSeconds (seconds : Nat) : Duration :=
  of seconds 0

def seconds (span : Duration) : Nat :=
  span.nanoseconds / 1000000000

def milliseconds (span : Duration) : Nat :=
  span.nanoseconds / 1000000

/-- A second is a thousand milliseconds. -/
@[simp]
theorem milliseconds_ofSeconds (n : Nat) : (ofSeconds n).milliseconds = n * 1000 := by
  simp only [milliseconds, ofSeconds, of]
  omega

end Duration

end Reconciler
