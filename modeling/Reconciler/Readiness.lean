import Reconciler.Duration
import Reconciler.Clock

/-!
# Readiness over time

A resource counts as provisioned once it has been seen ready without a break for a whole
window of time. One look at which it is not ready starts the count anew. Only becoming ready
is held back in this way.
-/

set_option autoImplicit false

namespace Reconciler

/-- What is known after a look at a resource. -/
structure Readiness where
  /-- Since when the resource has been ready, zero when it is not. -/
  since : Int64
  /-- Whether it has been ready for the whole window. -/
  settled : Bool
  deriving DecidableEq, Repr

namespace Readiness

/-- The time from one moment to a later one, none when the clock went back. -/
def elapsed (since now : Int64) : Int64 :=
  max (Clock.clamp (now.toInt - since.toInt)) 0

/-- Looks at a resource. The first ready look is stamped with its time, or with one when the
time is not after zero, because zero stands for a resource that is not ready. -/
def observe (since : Int64) (ready : Bool) (now : Int64) (window : Duration) : Readiness :=
  if !ready then ⟨0, false⟩
  else if since = 0 then ⟨max now 1, false⟩
  else ⟨since, window.clamped ≤ elapsed since now⟩

end Readiness

end Reconciler
