import Reconciler.Duration

/-!
# The clock

The time of a pass, in signed milliseconds of 64 bits. Moving the clock wraps around at the
ends of that range, and a span too long for it moves the clock by the longest span.
-/

set_option autoImplicit false

namespace Reconciler

/-- A number of milliseconds brought into the range of 64 signed bits. -/
def Clock.clamp (milliseconds : Int) : Int64 :=
  if milliseconds < Int64.minValue.toInt then Int64.minValue
  else if Int64.maxValue.toInt < milliseconds then Int64.maxValue
  else Int64.ofInt milliseconds

/-- The number of milliseconds of a span, or the greatest time when there are more. -/
def Duration.clamped (span : Duration) : Int64 :=
  Clock.clamp span.milliseconds

/-- A clock that is moved by hand. -/
structure Clock where
  now : Int64
  deriving DecidableEq, Repr, Inhabited

namespace Clock

def advance (clock : Clock) (span : Duration) : Clock :=
  ⟨clock.now + span.clamped⟩

/-- The clock moved by a number of milliseconds in either direction. -/
def move (clock : Clock) (milliseconds : Int) : Clock :=
  ⟨clock.now + Int64.ofInt milliseconds⟩

def set (_ : Clock) (time : Int64) : Clock :=
  ⟨time⟩

end Clock

end Reconciler
