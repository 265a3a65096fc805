import Reconciler.Provider.Call
import Reconciler.Drift
import Reconciler.Status

/-!
# Adapters

How each kind of resource is found, created, updated and deleted at a provider, and how its
description is judged. An update asks for what differs and can be changed, and makes no call
when there is nothing to ask for.
-/

set_option autoImplicit false

namespace Reconciler

namespace Adapter

/-- The desired value of a field that the spec declares and the resource does not have. -/
def pending (desired actual : Option String) : Option String :=
  desired.filter fun value => actual ≠ some value

/-- What has to change at a cluster. Its subnet group cannot be changed. -/
def clusterChange (existing : ClusterSnapshot) (spec : ClusterSpec) : ClusterChange :=
  { identifier := spec.id
    engineVersion := pending spec.engineVersion (some existing.engineVersion)
    securityGroups :=
      if Drift.ascending spec.securityGroups = Drift.ascending existing.securityGroups then none
      else some spec.securityGroups
    parameterGroup := pending spec.parameterGroup existing.parameterGroup }

def instanceChange (existing : InstanceSnapshot) (spec : InstanceSpec) : InstanceChange :=
  { identifier := spec.id
    instanceClass := pending (some spec.instanceClass) (some existing.instanceClass)
    parameterGroup := pending spec.parameterGroup existing.parameterGroup }

/-- The declared parameters that have no value or another one. -/
def parameterChanges (existing : ParameterGroupSnapshot) (spec : ParameterGroupSpec) :
    List Parameter :=
  spec.parameters.filter fun parameter =>
    existing.parameters[parameter.name]? ≠ some parameter.value

/-- The request that sets the parameters of a group. -/
def groupChange? (existing : ParameterGroupSnapshot) (spec : ParameterGroupSpec) :
    Option ParameterGroupChange :=
  match parameterChanges existing spec with
  | [] => none
  | parameters => some ⟨spec.name, parameters⟩

/-- The request that brings a resource to its spec as far as it can be changed. -/
def change? : (kind : ResourceKind) → kind.Snapshot → kind.Spec → Option kind.Change
  | .cluster, existing, spec =>
    let change := clusterChange existing spec
    if change.isEmpty then none else some change
  | .dbInstance, existing, spec =>
    let change := instanceChange existing spec
    if change.isEmpty then none else some change
  | .parameterGroup, existing, spec => groupChange? existing spec
  | .clusterParameterGroup, existing, spec => groupChange? existing spec
  | .subnetGroup, existing, spec =>
    if (Drift.ofSubnetGroup existing spec).isEmpty then none else some spec.change

/-- Looks for a resource. -/
def find (kind : ResourceKind) (identifier : String) : Calls (Option kind.Snapshot) :=
  (Calls.describe kind identifier).orAbsent

def update (kind : ResourceKind) (existing : kind.Snapshot) (spec : kind.Spec) : Calls Unit :=
  match change? kind existing spec with
  | none => pure ()
  | some change => discard (Calls.modify kind change)

/-- Whether a kind of resource comes into being without the parameters it declares. -/
def createdBare : ResourceKind → Bool
  | .parameterGroup => true
  | .clusterParameterGroup => true
  | _ => false

/-- Creates a resource; a parameter group then gets its parameters, and the answer describes
it as it was before. -/
def create (kind : ResourceKind) (spec : kind.Spec) : Calls kind.Snapshot := do
  let created ← Calls.create kind (kind.creation spec)
  if createdBare kind then update kind created spec
  return created

/-- Deletes a resource, which may be gone already. -/
def delete (kind : ResourceKind) (identifier : String) : Calls Unit :=
  (Calls.delete kind identifier).absentIsDone

/-- Whether the provider still knows a resource. -/
def exists? (kind : ResourceKind) (identifier : String) : Calls Bool := do
  return (← find kind identifier).isSome

/-- Whether a resource can be used. Groups always can. -/
def isReady : (kind : ResourceKind) → kind.Snapshot → Bool
  | .cluster, existing => existing.status = available
  | .dbInstance, existing => existing.status = available
  | _, _ => true

/-- What is published about a provisioned resource. -/
def attributes : (kind : ResourceKind) → kind.Snapshot → Attributes
  | .cluster, existing =>
    ⟨some existing.identifier, none, existing.endpoint, existing.readerEndpoint⟩
  | .dbInstance, existing =>
    ⟨some existing.identifier, some existing.cluster, existing.endpoint, none⟩
  | .parameterGroup, existing => ⟨some existing.name, none, none, none⟩
  | .clusterParameterGroup, existing => ⟨some existing.name, none, none, none⟩
  | .subnetGroup, existing => ⟨some existing.name, none, none, none⟩

end Adapter

end Reconciler
