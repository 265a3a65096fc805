import Reconciler.Engine.Outcome
import Reconciler.Adapter
import Reconciler.Readiness

/-!
# The lifecycle engine

One pass over an object that stands for a resource. A pass makes sure that the resource
exists and has its spec, waits until it has been ready long enough, and from then on watches
it; when the resource is gone, has drifted or is no longer ready, it starts over.
-/

set_option autoImplicit false

namespace Reconciler.Lifecycle

/-- The status of an object whose resource has to be provided anew. -/
def regressed : LifecycleStatus := ⟨.unprovisioned, 0, .empty⟩

/-- The status of an object whose resource is awaited and was not seen ready yet. -/
def awaiting : LifecycleStatus := ⟨.provisioning, 0, .empty⟩

variable (kind : ResourceKind) (spec : kind.Spec)

/-- Makes sure that the resource exists and, unless it is in transition, has its spec. -/
def provide : Calls (Outcome LifecycleStatus) := do
  match ← Adapter.find kind (kind.identifier spec) with
  | none => discard (Adapter.create kind spec)
  | some existing =>
    if Adapter.isReady kind existing then Adapter.update kind existing spec
  return .settle awaiting

/-- Waits until the resource has been ready for the whole window. -/
def await (config : EngineConfig) (status : LifecycleStatus) (now : Int64) :
    Calls (Outcome LifecycleStatus) := do
  match ← Adapter.find kind (kind.identifier spec) with
  | none => return .after regressed config.poll
  | some existing =>
    let readiness := Readiness.observe status.readySince (Adapter.isReady kind existing) now
      config.stabilization
    return .after
      (if readiness.settled then
        ⟨.provisioned, readiness.since, Adapter.attributes kind existing⟩
      else ⟨.provisioning, readiness.since, status.resolved⟩)
      config.poll

/-- Checks that the resource is still there, as declared and ready. -/
def verify (status : LifecycleStatus) : Calls (Outcome LifecycleStatus) := do
  match ← Adapter.find kind (kind.identifier spec) with
  | none => return .settle regressed
  | some existing =>
    if (Drift.of kind existing spec).isEmpty && Adapter.isReady kind existing then
      return .settle { status with resolved := Adapter.attributes kind existing }
    else return .settle regressed

/-- The calls of one pass. -/
def calls (config : EngineConfig) (status : LifecycleStatus) (now : Int64) :
    Calls (Outcome LifecycleStatus) :=
  match status.state with
  | .noState => pure (.settle { status with state := .unprovisioned })
  | .unprovisioned => provide kind spec
  | .provisioning => await kind spec config status now
  | .provisioned => verify kind spec status

/-- One pass over an object that stands for a resource. -/
def pass (config : EngineConfig) (status : LifecycleStatus) (now : Int64) :
    Pass LifecycleStatus :=
  .ofCalls config (calls kind spec config status now)

end Reconciler.Lifecycle
