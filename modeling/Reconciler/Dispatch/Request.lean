import Reconciler.Declaration
import Reconciler.Provider.Call
import Reconciler.Store.Watch

/-!
# Requests of the dispatcher

What the dispatcher asks of the store and of the provider. Its work is a script of these
requests, so what else happens to the store between two of them is up to the handler.
-/

set_option autoImplicit false

namespace Reconciler

/-- A request of the dispatcher. -/
inductive Request where
  /-- Read an object. -/
  | get (key : Key)
  /-- Read all objects. -/
  | list
  /-- Commit a status that was computed from the expected version. -/
  | commit (key : Key) (expected : UInt64) (status : Status)
  /-- Write what has not been written. -/
  | flush
  /-- Read the next change of the declared objects, if one waits. -/
  | nextChange
  /-- Make a provider call. -/
  | call (call : Call)

namespace Request

abbrev Answer : Request → Type
  | .get _ => Except Error (Option Declaration)
  | .list => Except Error (List Declaration)
  | .commit .. => Except Error UInt64
  | .flush => Except Error Unit
  | .nextChange => Option Change
  | .call providerCall => providerCall.Answer

end Request

/-- Work of the dispatcher. -/
abbrev Work (α : Type) : Type :=
  Script Request Request.Answer α

namespace Work

def ofCalls {α : Type} (calls : Script Call Call.Answer α) : Work α :=
  calls.mapQueries Request.call fun _ answer => answer

end Work

end Reconciler
