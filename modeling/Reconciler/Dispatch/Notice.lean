import Reconciler.Kind
import Reconciler.Duration

/-!
# Notices

What the dispatcher tells its reader: one notice for each pass, and others when it starts, when
an object is removed and when it stops. The notices wait in a channel of limited size; those
that find no room are lost.
-/

set_option autoImplicit false

namespace Reconciler

/-- Something that the dispatcher tells. -/
inductive Notice where
  /-- It started with a number of declared objects. -/
  | started (objects : Nat)
  /-- A pass was done and its status is stored. -/
  | succeeded (key : Key) (state : String) (delay : Duration)
  /-- A pass failed and left the status as it was. -/
  | failed (key : Key) (message : String) (delay : Duration)
  /-- The object was changed during the pass, which is tried again. -/
  | conflict (key : Key)
  /-- An object was removed from the store. -/
  | deleted (key : Key)
  /-- It stopped. -/
  | stopped (reason : String)
  deriving DecidableEq, Repr

namespace Notice

/-- What a channel of the given size keeps of the notices that came since it was emptied. -/
def kept (capacity : Nat) (notices : List Notice) : List Notice :=
  notices.take capacity

end Notice

end Reconciler
