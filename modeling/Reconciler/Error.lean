import Reconciler.Kind
import Reconciler.Duration

/-!
# Errors

What can go wrong between the reconciler, the store and the provider, and how each error
reads. A failed pass pairs its cause with the delay after which it is tried again.
-/

set_option autoImplicit false

namespace Reconciler

/-- An error of the store, the provider or the reconciler. -/
inductive Error where
  /-- A provider failure that may pass: the network, throttling, a state that forbids it. -/
  | provider (kind : String) (message : String)
  /-- The provider or the store does not know what was asked for. -/
  | notFound (subject : String)
  /-- A deletion is blocked because something still refers to its target. -/
  | stillReferenced (reason : String)
  /-- A status was computed from a version that is no longer stored. -/
  | conflict (key : Key) (expected : UInt64) (actual : UInt64)
  | store (message : String)
  | config (message : String)
  | invalidInput (message : String)
  | io (message : String)
  /-- A JSON text or value that does not have the form asked for. -/
  | json
  | other (message : String)
  deriving DecidableEq, Repr, Inhabited

namespace Error

def message : Error → String
  | .provider kind message => s!"Provider error ({kind}): {message}"
  | .notFound subject => "Not found: " ++ subject
  | .stillReferenced reason => "Still referenced: " ++ reason
  | .conflict key expected actual =>
    s!"Conflict on {key.text}: expected version {expected}, found {actual}"
  | .store message => "Object store error: " ++ message
  | .config message => "Configuration error: " ++ message
  | .invalidInput message => "Invalid input: " ++ message
  | .io message => "I/O error: " ++ message
  | .json => "JSON error"
  | .other message => message

/-- Whether the subject of a call is unknown. -/
def isNotFound : Error → Bool
  | .notFound _ => true
  | _ => false

/-- Whether a deletion is blocked. -/
def isBlocked : Error → Bool
  | .stillReferenced _ => true
  | _ => false

/-- Whether a version was outdated. -/
def isConflict : Error → Bool
  | .conflict .. => true
  | _ => false

end Error

/-- A failed pass, which leaves the status as it was. -/
structure Failure where
  cause : Error
  /-- How long to wait before the next pass. -/
  delay : Duration
  deriving DecidableEq, Repr

namespace Failure

def message (failure : Failure) : String :=
  s!"{failure.cause.message} (retry in {failure.delay.seconds}s)"

end Failure

end Reconciler
