import Reconciler.Provider.Call
import Reconciler.Config.Provider
import Std.Data.ExtTreeMap

/-!
# The simulated provider

A provider that lives in tables. A cluster or an instance that was created, changed or deleted
takes a number of looks to settle or to disappear; time passes by being looked at and in no
other way. The simulator makes the checks between resources that a real provider makes, and in
dry-run mode it judges writes without carrying them out.
-/

set_option autoImplicit false

namespace Reconciler.Simulator

/-- Where a cluster or an instance stands. Each count is the number of looks still to come. -/
inductive Phase where
  | settled
  | creating (left : Nat)
  | modifying (left : Nat)
  | deleting (left : Nat)
  deriving DecidableEq, Repr

namespace Phase

def text : Phase → String
  | .settled => available
  | .creating _ => "creating"
  | .modifying _ => "modifying"
  | .deleting _ => "deleting"

/-- The phase after one look, or nothing when the resource is gone. -/
def look : Phase → Option Phase
  | .settled => some .settled
  | .creating left => some (if left ≤ 1 then .settled else .creating (left - 1))
  | .modifying left => some (if left ≤ 1 then .settled else .modifying (left - 1))
  | .deleting left => if left ≤ 1 then none else some (.deleting (left - 1))

/-- The phase after a deletion was accepted; a deletion under way goes on. -/
def delete (count : Nat) : Phase → Phase
  | .deleting left => .deleting left
  | _ => .deleting count

end Phase

/-- A resource and where it stands. -/
structure Tracked (α : Type) where
  resource : α
  phase : Phase
  deriving DecidableEq, Repr

/-- The resources of the simulator, each kind under its identifiers or names. -/
structure Tables where
  clusters : Std.ExtTreeMap String (Tracked ClusterSnapshot)
  instances : Std.ExtTreeMap String (Tracked InstanceSnapshot)
  /-- Parameter groups of instance scope. -/
  instanceGroups : Std.ExtTreeMap String ParameterGroupSnapshot
  /-- Parameter groups of cluster scope. -/
  clusterGroups : Std.ExtTreeMap String ParameterGroupSnapshot
  subnetGroups : Std.ExtTreeMap String SubnetGroupSnapshot

namespace Tables

def empty : Tables := ⟨∅, ∅, ∅, ∅, ∅⟩

/-- The tables with a cluster put in, in place of the one it may replace. -/
def putCluster (tables : Tables) (identifier : String) (resource : ClusterSnapshot)
    (phase : Phase) : Tables :=
  { tables with clusters := tables.clusters.insert identifier ⟨resource, phase⟩ }

/-- The tables with an instance put in, in place of the one it may replace. -/
def putInstance (tables : Tables) (identifier : String) (resource : InstanceSnapshot)
    (phase : Phase) : Tables :=
  { tables with instances := tables.instances.insert identifier ⟨resource, phase⟩ }

/-- Whether an instance belongs to a cluster. -/
def hasMembers (tables : Tables) (cluster : String) : Bool :=
  tables.instances.toList.any fun entry => entry.2.resource.cluster = cluster

def usesClusterGroup (tables : Tables) (name : String) : Bool :=
  tables.clusters.toList.any fun entry => entry.2.resource.parameterGroup = some name

/-- Whether an instance uses a parameter group of instance scope. -/
def usesInstanceGroup (tables : Tables) (name : String) : Bool :=
  tables.instances.toList.any fun entry => entry.2.resource.parameterGroup = some name

def usesSubnetGroup (tables : Tables) (name : String) : Bool :=
  tables.clusters.toList.any fun entry => entry.2.resource.subnetGroup = some name

end Tables

/-- The version of an engine when a cluster asks for none. -/
def defaultVersion (engine : String) : String :=
  if engine = "aurora-postgresql" then "15.4"
  else if engine = "aurora-mysql" then "8.0.mysql_aurora.3.05.2"
  else "1.0"

/-- What a call comes to: its answer and the tables after it. -/
abbrev Effect (α : Type) : Type := Except Error α × Tables

variable (config : SimulatorConfig) (tables : Tables)

/-- A call that fails and leaves the tables alone. -/
def refuse {α : Type} (error : Error) : Effect α := (.error error, tables)

/-- A write that is accepted; in dry-run mode the tables stay as they are. -/
def accept {α : Type} (reply : α) (after : Tables) : Effect α :=
  (.ok reply, if config.dryRun then tables else after)

def unknownCluster (identifier : String) : Error :=
  .notFound s!"DBClusterNotFound: {identifier}"

def unknownInstance (identifier : String) : Error :=
  .notFound s!"DBInstanceNotFound: {identifier}"

def unknownSubnetGroup (name : String) : Error :=
  .notFound s!"DBSubnetGroupNotFound: {name}"

def describeCluster (identifier : String) : Effect ClusterSnapshot :=
  match tables.clusters[identifier]? with
  | none => refuse tables (unknownCluster identifier)
  | some tracked => match tracked.phase.look with
    | none =>
      (.error (unknownCluster identifier),
        { tables with clusters := tables.clusters.erase identifier })
    | some phase =>
      (.ok { tracked.resource with status := phase.text },
        tables.putCluster identifier tracked.resource phase)

def newCluster (request : ClusterCreation) : ClusterSnapshot :=
  { identifier := request.identifier
    status := "creating"
    engine := request.engine
    engineVersion := request.engineVersion.getD (defaultVersion request.engine)
    masterUsername := request.masterUsername
    securityGroups := request.securityGroups
    subnetGroup := request.subnetGroup
    parameterGroup := request.parameterGroup
    endpoint := some s!"{request.identifier}.cluster-sim.local"
    readerEndpoint := some s!"{request.identifier}.cluster-ro-sim.local" }

/-- What forbids the creation of a cluster. -/
def clusterObstacle? (request : ClusterCreation) : Option String :=
  if request.identifier ∈ tables.clusters then
    some s!"DBClusterAlreadyExists: {request.identifier}"
  else match request.subnetGroup.filter (· ∉ tables.subnetGroups) with
    | some group => some s!"DBSubnetGroupNotFound: {group}"
    | none => (request.parameterGroup.filter (· ∉ tables.clusterGroups)).map fun group =>
      s!"DBClusterParameterGroupNotFound: {group}"

def createCluster (request : ClusterCreation) : Effect ClusterSnapshot :=
  match clusterObstacle? tables request with
  | some obstacle => refuse tables (.provider "cluster" obstacle)
  | none =>
    let cluster := newCluster request
    accept config tables cluster
      (tables.putCluster request.identifier cluster (.creating config.readyAfter.toNat))

def changedCluster (cluster : ClusterSnapshot) (request : ClusterChange) : ClusterSnapshot :=
  { cluster with
    engineVersion := request.engineVersion.getD cluster.engineVersion
    securityGroups := request.securityGroups.getD cluster.securityGroups
    parameterGroup := request.parameterGroup.or cluster.parameterGroup }

/-- Changes a cluster, which has to be settled. -/
def modifyCluster (request : ClusterChange) : Effect ClusterSnapshot :=
  match tables.clusters[request.identifier]? with
  | none => refuse tables (unknownCluster request.identifier)
  | some tracked =>
    if tracked.phase = .settled then
      let cluster := changedCluster tracked.resource request
      accept config tables
        (if config.dryRun then cluster else { cluster with status := "modifying" })
        (tables.putCluster request.identifier cluster (.modifying config.readyAfter.toNat))
    else refuse tables (.provider "cluster"
      s!"InvalidDBClusterState: {request.identifier} is {tracked.phase.text}")

/-- Starts the deletion of a cluster, which may have no instance. -/
def deleteCluster (identifier : String) : Effect Unit :=
  if tables.hasMembers identifier then
    refuse tables (.provider "cluster"
      s!"InvalidDBClusterState: {identifier} still has instances")
  else match tables.clusters[identifier]? with
    | none => refuse tables (unknownCluster identifier)
    | some tracked =>
      accept config tables ()
        (tables.putCluster identifier tracked.resource
          (tracked.phase.delete config.deleteAfter.toNat))

def describeInstance (identifier : String) : Effect InstanceSnapshot :=
  match tables.instances[identifier]? with
  | none => refuse tables (unknownInstance identifier)
  | some tracked => match tracked.phase.look with
    | none =>
      (.error (unknownInstance identifier),
        { tables with instances := tables.instances.erase identifier })
    | some phase =>
      (.ok { tracked.resource with status := phase.text },
        tables.putInstance identifier tracked.resource phase)

def newInstance (request : InstanceCreation) : InstanceSnapshot :=
  { identifier := request.identifier
    cluster := request.cluster
    status := "creating"
    engine := request.engine
    instanceClass := request.instanceClass
    parameterGroup := request.parameterGroup
    endpoint := some s!"{request.identifier}.instance-sim.local" }

/-- What forbids the creation of an instance. -/
def instanceObstacle? (request : InstanceCreation) : Option String :=
  if request.identifier ∈ tables.instances then
    some s!"DBInstanceAlreadyExists: {request.identifier}"
  else match tables.clusters[request.cluster]? with
    | none => some s!"DBClusterNotFound: {request.cluster}"
    | some cluster =>
      if cluster.resource.engine ≠ request.engine then
        some (s!"InvalidParameterCombination: engine {request.engine} " ++
          s!"does not match cluster engine {cluster.resource.engine}")
      else (request.parameterGroup.filter (· ∉ tables.instanceGroups)).map fun group =>
        s!"DBParameterGroupNotFound: {group}"

def createInstance (request : InstanceCreation) : Effect InstanceSnapshot :=
  match instanceObstacle? tables request with
  | some obstacle => refuse tables (.provider "instance" obstacle)
  | none =>
    let created := newInstance request
    accept config tables created
      (tables.putInstance request.identifier created (.creating config.readyAfter.toNat))

def changedInstance (existing : InstanceSnapshot) (request : InstanceChange) :
    InstanceSnapshot :=
  { existing with
    instanceClass := request.instanceClass.getD existing.instanceClass
    parameterGroup := request.parameterGroup.or existing.parameterGroup }

/-- Changes an instance, which has to be settled. -/
def modifyInstance (request : InstanceChange) : Effect InstanceSnapshot :=
  match tables.instances[request.identifier]? with
  | none => refuse tables (unknownInstance request.identifier)
  | some tracked =>
    if tracked.phase = .settled then
      let changed := changedInstance tracked.resource request
      accept config tables
        (if config.dryRun then changed else { changed with status := "modifying" })
        (tables.putInstance request.identifier changed (.modifying config.readyAfter.toNat))
    else refuse tables (.provider "instance"
      s!"InvalidDBInstanceState: {request.identifier} is {tracked.phase.text}")

/-- Starts the deletion of an instance. -/
def deleteInstance (identifier : String) : Effect Unit :=
  match tables.instances[identifier]? with
  | none => refuse tables (unknownInstance identifier)
  | some tracked =>
    accept config tables ()
      (tables.putInstance identifier tracked.resource
        (tracked.phase.delete config.deleteAfter.toNat))

/-- The scope of a parameter group: which resources may use it. -/
inductive Scope where
  | ofInstances
  | ofClusters
  deriving DecidableEq, Repr

/-- The name of a scope in texts, which is the name of the kind of its groups. -/
def Scope.text : Scope → String
  | .ofInstances => "parameter_group"
  | .ofClusters => "cluster_parameter_group"

def Tables.groups (tables : Tables) : Scope → Std.ExtTreeMap String ParameterGroupSnapshot
  | .ofInstances => tables.instanceGroups
  | .ofClusters => tables.clusterGroups

/-- The tables with other parameter groups in a scope. -/
def Tables.withGroups (tables : Tables) (scope : Scope)
    (groups : Std.ExtTreeMap String ParameterGroupSnapshot) : Tables :=
  match scope with
  | .ofInstances => { tables with instanceGroups := groups }
  | .ofClusters => { tables with clusterGroups := groups }

/-- Whether a resource uses a parameter group. -/
def Tables.usesGroup (tables : Tables) : Scope → String → Bool
  | .ofInstances => tables.usesInstanceGroup
  | .ofClusters => tables.usesClusterGroup

variable (scope : Scope)

def unknownGroup (name : String) : Error :=
  .notFound s!"{scope.text} {name}"

def describeGroup (name : String) : Effect ParameterGroupSnapshot :=
  match (tables.groups scope)[name]? with
  | none => refuse tables (unknownGroup scope name)
  | some group => (.ok group, tables)

def createGroup (request : ParameterGroupCreation) : Effect ParameterGroupSnapshot :=
  if request.name ∈ tables.groups scope then
    refuse tables (.provider scope.text s!"DBParameterGroupAlreadyExists: {request.name}")
  else
    let group : ParameterGroupSnapshot :=
      ⟨request.name, request.family, request.description, ∅⟩
    accept config tables group
      (tables.withGroups scope ((tables.groups scope).insert request.name group))

/-- A parameter map with values set in order, later ones replacing earlier ones. -/
def setParameters (map : ParameterMap) (parameters : List Parameter) : ParameterMap :=
  parameters.foldl (fun map parameter => map.insert parameter.name parameter.value) map

def modifyGroup (request : ParameterGroupChange) : Effect Unit :=
  match (tables.groups scope)[request.name]? with
  | none => refuse tables (unknownGroup scope request.name)
  | some group =>
    let changed :=
      { group with parameters := setParameters group.parameters request.parameters }
    accept config tables ()
      (tables.withGroups scope ((tables.groups scope).insert request.name changed))

/-- Deletes a parameter group, which may not be in use. -/
def deleteGroup (name : String) : Effect Unit :=
  if tables.usesGroup scope name then
    refuse tables (.provider scope.text s!"InvalidDBParameterGroupState: {name} is in use")
  else if name ∈ tables.groups scope then
    accept config tables () (tables.withGroups scope ((tables.groups scope).erase name))
  else refuse tables (unknownGroup scope name)

def describeSubnetGroup (name : String) : Effect SubnetGroupSnapshot :=
  match tables.subnetGroups[name]? with
  | none => refuse tables (unknownSubnetGroup name)
  | some group => (.ok group, tables)

def createSubnetGroup (request : SubnetGroupCreation) : Effect SubnetGroupSnapshot :=
  if request.name ∈ tables.subnetGroups then
    refuse tables (.provider "subnet_group" s!"DBSubnetGroupAlreadyExists: {request.name}")
  else if request.subnets.length < 2 then
    refuse tables (.provider "subnet_group"
      "DBSubnetGroupDoesNotCoverEnoughAZs: at least two subnets are required")
  else
    let group : SubnetGroupSnapshot :=
      ⟨request.name, request.description, request.subnets, "Complete"⟩
    accept config tables group
      { tables with subnetGroups := tables.subnetGroups.insert request.name group }

def changedSubnetGroup (group : SubnetGroupSnapshot) (request : SubnetGroupChange) :
    SubnetGroupSnapshot :=
  { group with description := request.description, subnets := request.subnets }

/-- Replaces the description and the members of a subnet group. -/
def modifySubnetGroup (request : SubnetGroupChange) : Effect SubnetGroupSnapshot :=
  match tables.subnetGroups[request.name]? with
  | none => refuse tables (unknownSubnetGroup request.name)
  | some group =>
    let changed := changedSubnetGroup group request
    accept config tables changed
      { tables with subnetGroups := tables.subnetGroups.insert request.name changed }

/-- Deletes a subnet group, which may not be in use. -/
def deleteSubnetGroup (name : String) : Effect Unit :=
  if tables.usesSubnetGroup name then
    refuse tables (.provider "subnet_group" s!"InvalidDBSubnetGroupState: {name} is in use")
  else if name ∈ tables.subnetGroups then
    accept config tables () { tables with subnetGroups := tables.subnetGroups.erase name }
  else refuse tables (unknownSubnetGroup name)

def serve : (call : Call) → Effect call.Reply
  | .describe .cluster identifier => describeCluster tables identifier
  | .describe .dbInstance identifier => describeInstance tables identifier
  | .describe .parameterGroup name => describeGroup tables .ofInstances name
  | .describe .clusterParameterGroup name => describeGroup tables .ofClusters name
  | .describe .subnetGroup name => describeSubnetGroup tables name
  | .create .cluster request => createCluster config tables request
  | .create .dbInstance request => createInstance config tables request
  | .create .parameterGroup request => createGroup config tables .ofInstances request
  | .create .clusterParameterGroup request => createGroup config tables .ofClusters request
  | .create .subnetGroup request => createSubnetGroup config tables request
  | .modify .cluster request => modifyCluster config tables request
  | .modify .dbInstance request => modifyInstance config tables request
  | .modify .parameterGroup request => modifyGroup config tables .ofInstances request
  | .modify .clusterParameterGroup request => modifyGroup config tables .ofClusters request
  | .modify .subnetGroup request => modifySubnetGroup config tables request
  | .delete .cluster identifier => deleteCluster config tables identifier
  | .delete .dbInstance identifier => deleteInstance config tables identifier
  | .delete .parameterGroup name => deleteGroup config tables .ofInstances name
  | .delete .clusterParameterGroup name => deleteGroup config tables .ofClusters name
  | .delete .subnetGroup name => deleteSubnetGroup config tables name

/-- All that the simulator remembers: its tables, and an error that hits the next call. -/
structure State where
  tables : Tables
  pending : Option Error

namespace State

/-- A simulator without resources and without an error to come. -/
def fresh : State := ⟨.empty, none⟩

/-- Lets the next call fail, whatever it is. -/
def failNext (state : State) (error : Error) : State :=
  { state with pending := some error }

/-- The number of clusters, with those under deletion. -/
def clusterCount (state : State) : Nat := state.tables.clusters.size

/-- The number of instances, with those under deletion. -/
def instanceCount (state : State) : Nat := state.tables.instances.size

end State

/-- The simulator as a provider. -/
def provider : Provider State :=
  fun call state => match state.pending with
    | some error => (.error error, { state with pending := none })
    | none =>
      let (answer, tables) := serve config state.tables call
      (answer, { state with tables })

def name : String := "simulated"

/-- The settings of a simulator as they are shown to a reader. -/
def describeSettings : String :=
  s!"SimulatedRds \x7b ready_after_polls: {config.readyAfter}, " ++
    s!"delete_after_polls: {config.deleteAfter}, dry_run: {config.dryRun}, .. \x7d"

end Reconciler.Simulator
