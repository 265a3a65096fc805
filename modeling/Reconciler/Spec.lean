import Reconciler.Kind

/-!
# Desired specs

What a user declares about one resource, one structure for each kind, and what a request to
delete a resource names. Each spec is read from and written to JSON; a field that is absent
is left out of the written form.
-/

set_option autoImplicit false

namespace Reconciler

open Json

/-- The desired state of a database cluster. -/
structure ClusterSpec where
  id : String
  engine : String
  /-- The provider's default version when absent. -/
  engineVersion : Option String
  masterUsername : String
  /-- Sent to the provider on creation and shown nowhere. -/
  masterPassword : String
  securityGroups : List String
  subnetGroup : Option String
  /-- A parameter group of cluster scope. -/
  parameterGroup : Option String
  deriving DecidableEq, Repr, Inhabited

/-- The desired state of a database instance inside a cluster. -/
structure InstanceSpec where
  id : String
  /-- The identifier of the owning cluster. -/
  cluster : String
  /-- The same as the cluster's engine. -/
  engine : String
  instanceClass : String
  /-- In gibibytes. -/
  allocatedStorage : Option UInt32
  /-- A parameter group of instance scope. -/
  parameterGroup : Option String
  deriving DecidableEq, Repr, Inhabited

/-- A parameter and the value it is to have. -/
structure Parameter where
  name : String
  value : String
  deriving DecidableEq, Repr, Inhabited

/-- The desired state of a parameter group of either scope. -/
structure ParameterGroupSpec where
  name : String
  family : String
  description : String
  parameters : List Parameter
  deriving DecidableEq, Repr, Inhabited

/-- The desired state of a subnet group. -/
structure SubnetGroupSpec where
  name : String
  description : String
  subnets : List String
  deriving DecidableEq, Repr, Inhabited

/-- What a deletion request names. -/
structure DeletionSpec where
  kind : ResourceKind
  /-- The identifier of a cluster or an instance, the name of a group. -/
  identifier : String
  deriving DecidableEq, Repr, Inhabited

abbrev ResourceKind.Spec : ResourceKind → Type
  | .cluster => ClusterSpec
  | .dbInstance => InstanceSpec
  | .parameterGroup => ParameterGroupSpec
  | .clusterParameterGroup => ParameterGroupSpec
  | .subnetGroup => SubnetGroupSpec

instance (kind : ResourceKind) : DecidableEq kind.Spec :=
  match kind with
  | .cluster => inferInstanceAs (DecidableEq ClusterSpec)
  | .dbInstance => inferInstanceAs (DecidableEq InstanceSpec)
  | .parameterGroup => inferInstanceAs (DecidableEq ParameterGroupSpec)
  | .clusterParameterGroup => inferInstanceAs (DecidableEq ParameterGroupSpec)
  | .subnetGroup => inferInstanceAs (DecidableEq SubnetGroupSpec)

instance (kind : ResourceKind) : Repr kind.Spec :=
  match kind with
  | .cluster => inferInstanceAs (Repr ClusterSpec)
  | .dbInstance => inferInstanceAs (Repr InstanceSpec)
  | .parameterGroup => inferInstanceAs (Repr ParameterGroupSpec)
  | .clusterParameterGroup => inferInstanceAs (Repr ParameterGroupSpec)
  | .subnetGroup => inferInstanceAs (Repr SubnetGroupSpec)

namespace ClusterSpec

def toJson (spec : ClusterSpec) : Json :=
  ofMembers [
    ("id", some (.str spec.id)),
    ("engine", some (.str spec.engine)),
    ("engine_version", spec.engineVersion.map .str),
    ("master_username", some (.str spec.masterUsername)),
    ("master_user_password", some (.str spec.masterPassword)),
    ("security_group_ids", some (ofTexts spec.securityGroups)),
    ("subnet_group_name", spec.subnetGroup.map .str),
    ("parameter_group_name", spec.parameterGroup.map .str)]

def ofJson? : Json → Option ClusterSpec :=
  toRecord? do
    let id ← Reader.required "id" asText?
    let engine ← Reader.required "engine" asText?
    let engineVersion ← Reader.omittable "engine_version" asText?
    let masterUsername ← Reader.defaulted "master_username" asText? ""
    let masterPassword ← Reader.defaulted "master_user_password" asText? ""
    let securityGroups ← Reader.defaulted "security_group_ids" toTexts? []
    let subnetGroup ← Reader.omittable "subnet_group_name" asText?
    let parameterGroup ← Reader.omittable "parameter_group_name" asText?
    return { id, engine, engineVersion, masterUsername, masterPassword, securityGroups,
             subnetGroup, parameterGroup }

end ClusterSpec

namespace InstanceSpec

def toJson (spec : InstanceSpec) : Json :=
  ofMembers [
    ("id", some (.str spec.id)),
    ("cluster_id", some (.str spec.cluster)),
    ("engine", some (.str spec.engine)),
    ("instance_class", some (.str spec.instanceClass)),
    ("allocated_storage", spec.allocatedStorage.map fun size => ofNat size.toNat),
    ("parameter_group_name", spec.parameterGroup.map .str)]

def ofJson? : Json → Option InstanceSpec :=
  toRecord? do
    let id ← Reader.required "id" asText?
    let cluster ← Reader.required "cluster_id" asText?
    let engine ← Reader.required "engine" asText?
    let instanceClass ← Reader.required "instance_class" asText?
    let allocatedStorage ← Reader.omittable "allocated_storage" toUInt32?
    let parameterGroup ← Reader.omittable "parameter_group_name" asText?
    return { id, cluster, engine, instanceClass, allocatedStorage, parameterGroup }

end InstanceSpec

namespace Parameter

def toJson (parameter : Parameter) : Json :=
  .obj [("name", .str parameter.name), ("value", .str parameter.value)]

def ofJson? : Json → Option Parameter :=
  toRecord? do
    let name ← Reader.required "name" asText?
    let value ← Reader.required "value" asText?
    return { name, value }

end Parameter

namespace ParameterGroupSpec

def toJson (spec : ParameterGroupSpec) : Json :=
  .obj [
    ("name", .str spec.name),
    ("family", .str spec.family),
    ("description", .str spec.description),
    ("parameters", .arr (spec.parameters.map Parameter.toJson))]

def ofJson? : Json → Option ParameterGroupSpec :=
  toRecord? do
    let name ← Reader.required "name" asText?
    let family ← Reader.required "family" asText?
    let description ← Reader.defaulted "description" asText? ""
    let parameters ← Reader.defaulted "parameters" (toList? Parameter.ofJson?) []
    return { name, family, description, parameters }

end ParameterGroupSpec

namespace SubnetGroupSpec

def toJson (spec : SubnetGroupSpec) : Json :=
  .obj [
    ("name", .str spec.name),
    ("description", .str spec.description),
    ("subnet_ids", ofTexts spec.subnets)]

def ofJson? : Json → Option SubnetGroupSpec :=
  toRecord? do
    let name ← Reader.required "name" asText?
    let description ← Reader.defaulted "description" asText? ""
    let subnets ← Reader.required "subnet_ids" toTexts?
    return { name, description, subnets }

end SubnetGroupSpec

namespace DeletionSpec

def toJson (spec : DeletionSpec) : Json :=
  .obj [("kind", .str spec.kind.text), ("identifier", .str spec.identifier)]

def ofJson? (origin : Origin) : Json → Option DeletionSpec :=
  toRecord? do
    let kind ← Reader.required "kind" (toName? origin ResourceKind.ofText?)
    let identifier ← Reader.required "identifier" asText?
    return { kind, identifier }

end DeletionSpec

namespace ResourceKind

/-- The identifier or name that a spec gives its resource. -/
def identifier : (kind : ResourceKind) → kind.Spec → String
  | .cluster, spec => spec.id
  | .dbInstance, spec => spec.id
  | .parameterGroup, spec => spec.name
  | .clusterParameterGroup, spec => spec.name
  | .subnetGroup, spec => spec.name

def specToJson : (kind : ResourceKind) → kind.Spec → Json
  | .cluster, spec => spec.toJson
  | .dbInstance, spec => spec.toJson
  | .parameterGroup, spec => spec.toJson
  | .clusterParameterGroup, spec => spec.toJson
  | .subnetGroup, spec => spec.toJson

def specOfJson? : (kind : ResourceKind) → Json → Option kind.Spec
  | .cluster => ClusterSpec.ofJson?
  | .dbInstance => InstanceSpec.ofJson?
  | .parameterGroup => ParameterGroupSpec.ofJson?
  | .clusterParameterGroup => ParameterGroupSpec.ofJson?
  | .subnetGroup => SubnetGroupSpec.ofJson?

end ResourceKind

end Reconciler
