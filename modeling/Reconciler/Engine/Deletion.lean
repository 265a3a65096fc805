import Reconciler.Engine.Outcome
import Reconciler.Adapter
import Reconciler.Guard

/-!
# The deletion engine

One pass over a deletion request. The request is carried out once nothing blocks it, and is
completed when the provider no longer knows the resource. How a resource of a kind is removed
is up to a remover; a kind without one cannot be deleted.
-/

set_option autoImplicit false

namespace Reconciler

/-- How resources of one kind are removed. -/
structure Remover where
  /-- Whether the provider still knows the resource. -/
  remains : String → Calls Bool
  /-- Asks the provider to delete the resource. -/
  remove : String → Calls Unit

namespace Remover

def ofAdapter (kind : ResourceKind) : Remover :=
  ⟨Adapter.exists? kind, Adapter.delete kind⟩

end Remover

namespace Deletion

abbrev Removers : Type := ResourceKind → Option Remover

/-- A remover for every kind. -/
def allRemovers : Removers := fun kind => some (.ofAdapter kind)

def remover (removers : Removers) (kind : ResourceKind) : Calls Remover :=
  match removers kind with
  | some remover => pure remover
  | none => throw (.config s!"no adapter registered for {kind.text}")

variable (removers : Removers) (config : EngineConfig) (spec : DeletionSpec)

/-- The calls of one pass, given all declared objects. -/
def calls (state : DeletionState) (objects : List Declaration) :
    Calls (Outcome DeletionState) := do
  match state with
  | .noState => return .settle .created
  | .created =>
    MonadExcept.ofExcept (Guard.check (spec.kind, spec.identifier) objects)
    let remover ← remover removers spec.kind
    (remover.remove spec.identifier).absentIsDone
    return .settle .executing
  | .executing =>
    let remover ← remover removers spec.kind
    if ← remover.remains spec.identifier then return .after .executing config.poll
    else return .settle .completed
  | .completed => return .settle .completed

/-- One pass over a deletion request. -/
def pass (state : DeletionState) (objects : List Declaration) : Pass DeletionState :=
  .ofCalls config (calls removers config spec state objects)

end Deletion

end Reconciler
