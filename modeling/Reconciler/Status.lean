import Reconciler.Kind

/-!
# Observed status

What the reconciler knows about a declared object. An object that stands for a resource moves
from no state through `unprovisioned` and `provisioning` to `provisioned`, and back on drift;
a deletion request moves from no state through `created` and `executing` to `completed`.
-/

set_option autoImplicit false

namespace Reconciler

open Json

/-- The state of an object that stands for a resource. -/
inductive LifecycleState where
  /-- Never reconciled. -/
  | noState
  | unprovisioned
  | provisioning
  | provisioned
  deriving DecidableEq, Repr, Inhabited

/-- The state of a deletion request. -/
inductive DeletionState where
  /-- Never reconciled. -/
  | noState
  | created
  | executing
  | completed
  deriving DecidableEq, Repr, Inhabited

namespace LifecycleState

def text : LifecycleState → String
  | .noState => ""
  | .unprovisioned => "unprovisioned"
  | .provisioning => "provisioning"
  | .provisioned => "provisioned"

def ofText? (name : String) : Option LifecycleState :=
  [.noState, .unprovisioned, .provisioning, .provisioned].find? (·.text = name)

/-- The name of a lifecycle state is read back as that state. -/
@[simp]
theorem ofText?_text (state : LifecycleState) : ofText? state.text = some state := by
  cases state <;> rfl

end LifecycleState

namespace DeletionState

def text : DeletionState → String
  | .noState => ""
  | .created => "created"
  | .executing => "executing"
  | .completed => "completed"

def ofText? (name : String) : Option DeletionState :=
  [.noState, .created, .executing, .completed].find? (·.text = name)

/-- The name of a deletion state is read back as that state. -/
@[simp]
theorem ofText?_text (state : DeletionState) : ofText? state.text = some state := by
  cases state <;> rfl

end DeletionState

/-- What the provider says about a provisioned resource. -/
structure Attributes where
  identifier : Option String
  /-- The owning cluster, of instances only. -/
  cluster : Option String
  endpoint : Option String
  /-- Of clusters only. -/
  readerEndpoint : Option String
  deriving DecidableEq, Repr, Inhabited

namespace Attributes

def empty : Attributes := ⟨none, none, none, none⟩

/-- Whether no attribute is known. -/
def isEmpty (attributes : Attributes) : Bool :=
  attributes = empty

def toJson (attributes : Attributes) : Json :=
  ofMembers [
    ("identifier", attributes.identifier.map .str),
    ("cluster_identifier", attributes.cluster.map .str),
    ("endpoint", attributes.endpoint.map .str),
    ("reader_endpoint", attributes.readerEndpoint.map .str)]

def ofJson? : Json → Option Attributes :=
  toRecord? do
    let identifier ← Reader.omittable "identifier" asText?
    let cluster ← Reader.omittable "cluster_identifier" asText?
    let endpoint ← Reader.omittable "endpoint" asText?
    let readerEndpoint ← Reader.omittable "reader_endpoint" asText?
    return { identifier, cluster, endpoint, readerEndpoint }

end Attributes

/-- The status of an object that stands for a resource. -/
structure LifecycleStatus where
  state : LifecycleState
  /-- The time in milliseconds since which the resource has been ready without a break; zero
  when it was not ready when it was last seen. -/
  readySince : Int64
  resolved : Attributes
  deriving DecidableEq, Repr, Inhabited

namespace LifecycleStatus

/-- The status of an object that was never reconciled. -/
def initial : LifecycleStatus := ⟨.noState, 0, .empty⟩

def members (status : LifecycleStatus) : List (String × Option Json) :=
  [("state", some (.str status.state.text)),
   ("ready_since", some (.int status.readySince.toInt)),
   ("resolved", if status.resolved.isEmpty then none else some status.resolved.toJson)]

def toJson (status : LifecycleStatus) : Json :=
  ofMembers status.members

def ofJson? (origin : Origin) : Json → Option LifecycleStatus :=
  toRecord? do
    let state ← Reader.defaulted "state" (toName? origin LifecycleState.ofText?) .noState
    let readySince ← Reader.defaulted "ready_since" toInt64? 0
    let resolved ← Reader.defaulted "resolved" Attributes.ofJson? .empty
    return { state, readySince, resolved }

end LifecycleStatus

namespace DeletionState

def members (state : DeletionState) : List (String × Option Json) :=
  [("state", some (.str state.text))]

def toJson (state : DeletionState) : Json :=
  ofMembers state.members

def ofJson? (origin : Origin) : Json → Option DeletionState :=
  toRecord? (Reader.defaulted "state" (toName? origin ofText?) .noState)

end DeletionState

/-- The observed status of a declared object. -/
inductive Status where
  | lifecycle (status : LifecycleStatus)
  | deletion (state : DeletionState)
  deriving DecidableEq, Repr, Inhabited

namespace Status

def initial : Kind → Status
  | .resource _ => .lifecycle .initial
  | .deletion => .deletion .noState

def stateText : Status → String
  | .lifecycle status => status.state.text
  | .deletion state => state.text

/-- Whether a status has the form that objects of a kind have. -/
def fits : Status → Kind → Bool
  | .lifecycle _, kind => kind.isLifecycle
  | .deletion _, kind => !kind.isLifecycle

/-- A status as JSON, with its form first. -/
def toJson : Status → Json
  | .lifecycle status => ofMembers (("flavor", some (.str "lifecycle")) :: status.members)
  | .deletion state => ofMembers (("flavor", some (.str "deletion")) :: state.members)

/-- Reads a status, which is copied until its form is known. -/
def ofJson? (json : Json) : Option Status := do
  let (flavor, fields) ← (← json.copied?).toTagged? "flavor"
  if flavor = "lifecycle" then (LifecycleStatus.ofJson? .copy fields).map .lifecycle
  else if flavor = "deletion" then (DeletionState.ofJson? .copy fields).map .deletion
  else none

/-- The first status of a kind fits it. -/
@[simp]
theorem fits_initial (kind : Kind) : (initial kind).fits kind = true := by
  cases kind <;> rfl

end Status

end Reconciler
