import Reconciler.Manifest
import Std.Data.ExtTreeMap

/-!
# Snapshots

What the provider says about one resource, one structure for each kind. In JSON an absent
field of a snapshot is written as `null`.
-/

set_option autoImplicit false

namespace Reconciler

open Json

/-- The values of the parameters that were set on a group. -/
abbrev ParameterMap : Type := Std.ExtTreeMap String String

/-- The provider's description of a cluster. -/
structure ClusterSnapshot where
  identifier : String
  /-- Such as `creating`, `available` or `modifying`. -/
  status : String
  engine : String
  engineVersion : String
  masterUsername : String
  securityGroups : List String
  subnetGroup : Option String
  parameterGroup : Option String
  endpoint : Option String
  readerEndpoint : Option String
  deriving DecidableEq, Repr, Inhabited

/-- The provider's description of an instance. -/
structure InstanceSnapshot where
  identifier : String
  cluster : String
  status : String
  engine : String
  instanceClass : String
  parameterGroup : Option String
  endpoint : Option String
  deriving DecidableEq, Repr, Inhabited

/-- The provider's description of a parameter group of either scope. -/
structure ParameterGroupSnapshot where
  name : String
  family : String
  description : String
  parameters : ParameterMap

/-- The provider's description of a subnet group. -/
structure SubnetGroupSnapshot where
  name : String
  description : String
  subnets : List String
  status : String
  deriving DecidableEq, Repr, Inhabited

abbrev ResourceKind.Snapshot : ResourceKind → Type
  | .cluster => ClusterSnapshot
  | .dbInstance => InstanceSnapshot
  | .parameterGroup => ParameterGroupSnapshot
  | .clusterParameterGroup => ParameterGroupSnapshot
  | .subnetGroup => SubnetGroupSnapshot

/-- The status of a cluster or an instance that can be used. -/
def available : String := "available"

namespace ClusterSnapshot

def toJson (snapshot : ClusterSnapshot) : Json :=
  .obj [
    ("identifier", .str snapshot.identifier),
    ("status", .str snapshot.status),
    ("engine", .str snapshot.engine),
    ("engine_version", .str snapshot.engineVersion),
    ("master_username", .str snapshot.masterUsername),
    ("vpc_security_group_ids", ofTexts snapshot.securityGroups),
    ("db_subnet_group", ofText? snapshot.subnetGroup),
    ("db_cluster_parameter_group", ofText? snapshot.parameterGroup),
    ("endpoint", ofText? snapshot.endpoint),
    ("reader_endpoint", ofText? snapshot.readerEndpoint)]

def ofJson? : Json → Option ClusterSnapshot :=
  toRecord? do
    let identifier ← Reader.required "identifier" asText?
    let status ← Reader.required "status" asText?
    let engine ← Reader.required "engine" asText?
    let engineVersion ← Reader.required "engine_version" asText?
    let masterUsername ← Reader.required "master_username" asText?
    let securityGroups ← Reader.required "vpc_security_group_ids" toTexts?
    let subnetGroup ← Reader.optional "db_subnet_group" asText?
    let parameterGroup ← Reader.optional "db_cluster_parameter_group" asText?
    let endpoint ← Reader.optional "endpoint" asText?
    let readerEndpoint ← Reader.optional "reader_endpoint" asText?
    return { identifier, status, engine, engineVersion, masterUsername, securityGroups,
             subnetGroup, parameterGroup, endpoint, readerEndpoint }

end ClusterSnapshot

namespace InstanceSnapshot

def toJson (snapshot : InstanceSnapshot) : Json :=
  .obj [
    ("identifier", .str snapshot.identifier),
    ("cluster_identifier", .str snapshot.cluster),
    ("status", .str snapshot.status),
    ("engine", .str snapshot.engine),
    ("instance_class", .str snapshot.instanceClass),
    ("db_parameter_group", ofText? snapshot.parameterGroup),
    ("endpoint", ofText? snapshot.endpoint)]

def ofJson? : Json → Option InstanceSnapshot :=
  toRecord? do
    let identifier ← Reader.required "identifier" asText?
    let cluster ← Reader.required "cluster_identifier" asText?
    let status ← Reader.required "status" asText?
    let engine ← Reader.required "engine" asText?
    let instanceClass ← Reader.required "instance_class" asText?
    let parameterGroup ← Reader.optional "db_parameter_group" asText?
    let endpoint ← Reader.optional "endpoint" asText?
    return { identifier, cluster, status, engine, instanceClass, parameterGroup, endpoint }

end InstanceSnapshot

namespace ParameterGroupSnapshot

/-- The members of a map as JSON, ordered by name. -/
def mapToJson (parameters : ParameterMap) : Json :=
  .obj (parameters.toList.map fun entry => (entry.1, .str entry.2))

def mapOfJson? : Json → Option ParameterMap
  | .obj members => members.foldlM (fun map member => (asText? member.2).map (map.insert member.1))
      (∅ : ParameterMap)
  | _ => none

def toJson (snapshot : ParameterGroupSnapshot) : Json :=
  .obj [
    ("name", .str snapshot.name),
    ("family", .str snapshot.family),
    ("description", .str snapshot.description),
    ("parameters", mapToJson snapshot.parameters)]

def ofJson? : Json → Option ParameterGroupSnapshot :=
  toRecord? do
    let name ← Reader.required "name" asText?
    let family ← Reader.required "family" asText?
    let description ← Reader.required "description" asText?
    let parameters ← Reader.required "parameters" mapOfJson?
    return { name, family, description, parameters }

end ParameterGroupSnapshot

namespace SubnetGroupSnapshot

def toJson (snapshot : SubnetGroupSnapshot) : Json :=
  .obj [
    ("name", .str snapshot.name),
    ("description", .str snapshot.description),
    ("subnet_ids", ofTexts snapshot.subnets),
    ("status", .str snapshot.status)]

def ofJson? : Json → Option SubnetGroupSnapshot :=
  toRecord? do
    let name ← Reader.required "name" asText?
    let description ← Reader.required "description" asText?
    let subnets ← Reader.required "subnet_ids" toTexts?
    let status ← Reader.required "status" asText?
    return { name, description, subnets, status }

end SubnetGroupSnapshot

namespace ResourceKind

def snapshotToJson : (kind : ResourceKind) → kind.Snapshot → Json
  | .cluster, snapshot => snapshot.toJson
  | .dbInstance, snapshot => snapshot.toJson
  | .parameterGroup, snapshot => snapshot.toJson
  | .clusterParameterGroup, snapshot => snapshot.toJson
  | .subnetGroup, snapshot => snapshot.toJson

def snapshotOfJson? : (kind : ResourceKind) → Json → Option kind.Snapshot
  | .cluster => ClusterSnapshot.ofJson?
  | .dbInstance => InstanceSnapshot.ofJson?
  | .parameterGroup => ParameterGroupSnapshot.ofJson?
  | .clusterParameterGroup => ParameterGroupSnapshot.ofJson?
  | .subnetGroup => SubnetGroupSnapshot.ofJson?

end ResourceKind

end Reconciler
