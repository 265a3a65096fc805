import Reconciler.Provider.Snapshot
import Std.Data.ExtTreeSet

/-!
# Drift

The differences between a resource at the provider and its spec, each with a line of text for
a reader. A field that the spec does not declare never differs; lists of identifiers are
compared as sets, so neither order nor repetition counts.
-/

set_option autoImplicit false

namespace Reconciler

/-- One difference between a resource and its spec. -/
inductive Mismatch where
  /-- A field has another value than desired. -/
  | value (field desired actual : String)
  /-- A set lacks some members and has others that are not desired. -/
  | members (field : String) (missing unexpected : List String)
  /-- A parameter has no value. -/
  | unset (parameter : String)
  /-- A difference in words of its own. -/
  | note (description : String)
  deriving DecidableEq, Repr

namespace Mismatch

def text : Mismatch → String
  | .value field desired actual =>
    s!"{field} mismatch: desired '{desired}', actual '{actual}'"
  | .members field missing unexpected =>
    let missing := ", ".intercalate missing
    let unexpected := ", ".intercalate unexpected
    s!"{field} mismatch: missing [{missing}], unexpected [{unexpected}]"
  | .unset parameter => s!"parameter {parameter} is not set"
  | .note description => description

end Mismatch

namespace Drift

/-- The different members of a list, in ascending order. -/
def ascending (names : List String) : List String :=
  (Std.ExtTreeSet.ofList names : Std.ExtTreeSet String).toList

def compare (field desired actual : String) : List Mismatch :=
  if desired = actual then [] else [.value field desired actual]

/-- Compares a value that the spec may leave open; an absent actual value is empty. -/
def compareDeclared (field : String) (desired actual : Option String) : List Mismatch :=
  match desired with
  | none => []
  | some desired => compare field desired (actual.getD "")

def compareMembers (field : String) (desired actual : List String) : List Mismatch :=
  let missing := (ascending desired).filter (· ∉ actual)
  let unexpected := (ascending actual).filter (· ∉ desired)
  if missing.isEmpty && unexpected.isEmpty then [] else [.members field missing unexpected]

/-- Compares one parameter with the values that are set. -/
def compareParameter (actual : ParameterMap) (desired : Parameter) : List Mismatch :=
  match actual[desired.name]? with
  | some value => compare s!"parameter {desired.name}" desired.value value
  | none => [.unset desired.name]

/-- The drift of a cluster. Its password cannot be seen and does not count. -/
def ofCluster (existing : ClusterSnapshot) (spec : ClusterSpec) : List Mismatch :=
  compare "identifier" spec.id existing.identifier ++
    compare "engine" spec.engine existing.engine ++
    compareDeclared "engine_version" spec.engineVersion (some existing.engineVersion) ++
    compare "master_username" spec.masterUsername existing.masterUsername ++
    compareMembers "security_group_ids" spec.securityGroups existing.securityGroups ++
    compareDeclared "subnet_group_name" spec.subnetGroup existing.subnetGroup ++
    compareDeclared "parameter_group_name" spec.parameterGroup existing.parameterGroup

def ofInstance (existing : InstanceSnapshot) (spec : InstanceSpec) : List Mismatch :=
  compare "identifier" spec.id existing.identifier ++
    compare "cluster_id" spec.cluster existing.cluster ++
    compare "engine" spec.engine existing.engine ++
    compare "instance_class" spec.instanceClass existing.instanceClass ++
    compareDeclared "parameter_group_name" spec.parameterGroup existing.parameterGroup

/-- The drift of a parameter group of either scope. Parameters that are set but not declared
do not count. -/
def ofParameterGroup (existing : ParameterGroupSnapshot) (spec : ParameterGroupSpec) :
    List Mismatch :=
  compare "name" spec.name existing.name ++
    compare "family" spec.family existing.family ++
    compare "description" spec.description existing.description ++
    spec.parameters.flatMap (compareParameter existing.parameters)

def ofSubnetGroup (existing : SubnetGroupSnapshot) (spec : SubnetGroupSpec) : List Mismatch :=
  compare "name" spec.name existing.name ++
    compare "description" spec.description existing.description ++
    compareMembers "subnet_ids" spec.subnets existing.subnets

def of : (kind : ResourceKind) → kind.Snapshot → kind.Spec → List Mismatch
  | .cluster, existing, spec => ofCluster existing spec
  | .dbInstance, existing, spec => ofInstance existing spec
  | .parameterGroup, existing, spec => ofParameterGroup existing spec
  | .clusterParameterGroup, existing, spec => ofParameterGroup existing spec
  | .subnetGroup, existing, spec => ofSubnetGroup existing spec

end Drift

end Reconciler
