import Reconciler.Provider.Snapshot
import Reconciler.Error
import Reconciler.Script

/-!
# Provider calls

The requests that can be made of a provider. There are four for each kind of resource:
describe, create, modify and delete. A provider is a handler that answers every call with a
reply or an error; a computation that makes calls is a script that stops at the first error
it does not handle.
-/

set_option autoImplicit false

namespace Reconciler

structure ClusterCreation where
  identifier : String
  engine : String
  engineVersion : Option String
  masterUsername : String
  masterPassword : String
  securityGroups : List String
  subnetGroup : Option String
  parameterGroup : Option String
  deriving DecidableEq, Repr

/-- The request to change a cluster; what is absent stays as it is. -/
structure ClusterChange where
  identifier : String
  engineVersion : Option String
  securityGroups : Option (List String)
  parameterGroup : Option String
  deriving DecidableEq, Repr

structure InstanceCreation where
  identifier : String
  cluster : String
  engine : String
  instanceClass : String
  allocatedStorage : Option UInt32
  parameterGroup : Option String
  deriving DecidableEq, Repr

/-- The request to change an instance; what is absent stays as it is. -/
structure InstanceChange where
  identifier : String
  instanceClass : Option String
  parameterGroup : Option String
  deriving DecidableEq, Repr

/-- The request for a new parameter group, which has no parameters set. -/
structure ParameterGroupCreation where
  name : String
  family : String
  description : String
  deriving DecidableEq, Repr

/-- The request to set parameters of a group, in order. -/
structure ParameterGroupChange where
  name : String
  parameters : List Parameter
  deriving DecidableEq, Repr

structure SubnetGroupCreation where
  name : String
  description : String
  subnets : List String
  deriving DecidableEq, Repr

/-- The request to replace the description and the members of a subnet group. -/
structure SubnetGroupChange where
  name : String
  description : String
  subnets : List String
  deriving DecidableEq, Repr

def ClusterChange.isEmpty (change : ClusterChange) : Bool :=
  change.engineVersion.isNone && change.securityGroups.isNone && change.parameterGroup.isNone

def InstanceChange.isEmpty (change : InstanceChange) : Bool :=
  change.instanceClass.isNone && change.parameterGroup.isNone

def ClusterSpec.creation (spec : ClusterSpec) : ClusterCreation :=
  { identifier := spec.id
    engine := spec.engine
    engineVersion := spec.engineVersion
    masterUsername := spec.masterUsername
    masterPassword := spec.masterPassword
    securityGroups := spec.securityGroups
    subnetGroup := spec.subnetGroup
    parameterGroup := spec.parameterGroup }

def InstanceSpec.creation (spec : InstanceSpec) : InstanceCreation :=
  { identifier := spec.id
    cluster := spec.cluster
    engine := spec.engine
    instanceClass := spec.instanceClass
    allocatedStorage := spec.allocatedStorage
    parameterGroup := spec.parameterGroup }

/-- The request for the group that a spec declares, without its parameters. -/
def ParameterGroupSpec.creation (spec : ParameterGroupSpec) : ParameterGroupCreation :=
  { name := spec.name
    family := spec.family
    description := spec.description }

def SubnetGroupSpec.creation (spec : SubnetGroupSpec) : SubnetGroupCreation :=
  { name := spec.name
    description := spec.description
    subnets := spec.subnets }

/-- The request that brings a subnet group to its spec. -/
def SubnetGroupSpec.change (spec : SubnetGroupSpec) : SubnetGroupChange :=
  { name := spec.name
    description := spec.description
    subnets := spec.subnets }

namespace ResourceKind

abbrev Creation : ResourceKind → Type
  | .cluster => ClusterCreation
  | .dbInstance => InstanceCreation
  | .parameterGroup => ParameterGroupCreation
  | .clusterParameterGroup => ParameterGroupCreation
  | .subnetGroup => SubnetGroupCreation

abbrev Change : ResourceKind → Type
  | .cluster => ClusterChange
  | .dbInstance => InstanceChange
  | .parameterGroup => ParameterGroupChange
  | .clusterParameterGroup => ParameterGroupChange
  | .subnetGroup => SubnetGroupChange

/-- The type of replies to change requests: parameter groups are not described again. -/
abbrev Changed : ResourceKind → Type
  | .parameterGroup => Unit
  | .clusterParameterGroup => Unit
  | kind => kind.Snapshot

def creation : (kind : ResourceKind) → kind.Spec → kind.Creation
  | .cluster, spec => spec.creation
  | .dbInstance, spec => spec.creation
  | .parameterGroup, spec => spec.creation
  | .clusterParameterGroup, spec => spec.creation
  | .subnetGroup, spec => spec.creation

def createdIdentifier : (kind : ResourceKind) → kind.Creation → String
  | .cluster, request => request.identifier
  | .dbInstance, request => request.identifier
  | .parameterGroup, request => request.name
  | .clusterParameterGroup, request => request.name
  | .subnetGroup, request => request.name

def changedIdentifier : (kind : ResourceKind) → kind.Change → String
  | .cluster, request => request.identifier
  | .dbInstance, request => request.identifier
  | .parameterGroup, request => request.name
  | .clusterParameterGroup, request => request.name
  | .subnetGroup, request => request.name

end ResourceKind

/-- A request made of a provider. -/
inductive Call where
  | describe (kind : ResourceKind) (identifier : String)
  | create (kind : ResourceKind) (request : kind.Creation)
  | modify (kind : ResourceKind) (request : kind.Change)
  | delete (kind : ResourceKind) (identifier : String)

namespace Call

def target : Call → Target
  | .describe kind identifier => (kind, identifier)
  | .create kind request => (kind, kind.createdIdentifier request)
  | .modify kind request => (kind, kind.changedIdentifier request)
  | .delete kind identifier => (kind, identifier)

/-- Whether a call is meant to change something. -/
def isWrite : Call → Bool
  | .describe .. => false
  | _ => true

abbrev Reply : Call → Type
  | .describe kind _ => kind.Snapshot
  | .create kind _ => kind.Snapshot
  | .modify kind _ => kind.Changed
  | .delete _ _ => Unit

abbrev Answer (call : Call) : Type :=
  Except Error call.Reply

end Call

/-- A provider with a memory of type `σ`. -/
abbrev Provider (σ : Type) : Type :=
  Handler Call Call.Answer σ

/-- A computation that makes provider calls and may fail. -/
abbrev Calls (α : Type) : Type :=
  ExceptT Error (Script Call Call.Answer) α

namespace Calls

variable {α β : Type}

def perform (call : Call) : Calls call.Reply :=
  ExceptT.mk (Script.question call)

def describe (kind : ResourceKind) (identifier : String) : Calls kind.Snapshot :=
  perform (.describe kind identifier)

def create (kind : ResourceKind) (request : kind.Creation) : Calls kind.Snapshot :=
  perform (.create kind request)

def modify (kind : ResourceKind) (request : kind.Change) : Calls kind.Changed :=
  perform (.modify kind request)

def delete (kind : ResourceKind) (identifier : String) : Calls Unit :=
  perform (.delete kind identifier)

/-- A failure to find what was asked for, turned into its absence. -/
def orAbsent (calls : Calls α) : Calls (Option α) :=
  ExceptT.mk do
    match ← calls.run with
    | .ok value => return .ok (some value)
    | .error error => return if error.isNotFound then .ok none else .error error

/-- Counts it as done when what was to be deleted is not found. -/
def absentIsDone (calls : Calls Unit) : Calls Unit :=
  ExceptT.mk do
    match ← calls.run with
    | .ok () => return .ok ()
    | .error error => return if error.isNotFound then .ok () else .error error

def runWith {σ : Type} (calls : Calls α) (provider : Provider σ) (s : σ) :
    Except Error α × σ :=
  Script.run provider calls.run s

/-- The calls that are made when the calls run against a provider. -/
def madeWith {σ : Type} (calls : Calls α) (provider : Provider σ) (s : σ) : List Call :=
  Script.asked provider calls.run s

end Calls

end Reconciler
