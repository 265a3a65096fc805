import Reconciler.Spec

/-!
# Manifests

The desired spec of one declared object: a resource that is to exist, or a request to delete
one. A manifest tells which resource it manages and which other resources it depends on;
both are what keeps a resource from being deleted.
-/

set_option autoImplicit false

namespace Reconciler

open Json

/-- The desired spec of one declared object. -/
inductive Manifest where
  | resource (kind : ResourceKind) (spec : kind.Spec)
  | deletion (spec : DeletionSpec)
  deriving DecidableEq, Repr

/-- A resource at the provider: its kind and its identifier or name. -/
abbrev Target : Type := ResourceKind × String

namespace Manifest

def kind : Manifest → Kind
  | .resource kind _ => .resource kind
  | .deletion _ => .deletion

/-- The resource that a manifest manages; a deletion request manages none. -/
def manages? : Manifest → Option Target
  | .resource kind spec => some (kind, kind.identifier spec)
  | .deletion _ => none

/-- The resources that a manifest depends on: an instance on its cluster and its parameter
group, a cluster on its parameter group and its subnet group. -/
def dependencies : Manifest → List Target
  | .resource .dbInstance spec =>
    (.cluster, spec.cluster) :: (spec.parameterGroup.map (.parameterGroup, ·)).toList
  | .resource .cluster spec =>
    (spec.parameterGroup.map (.clusterParameterGroup, ·)).toList ++
      (spec.subnetGroup.map (.subnetGroup, ·)).toList
  | _ => []

def toJson (manifest : Manifest) : Json :=
  let spec := match manifest with
    | .resource kind spec => kind.specToJson spec
    | .deletion spec => spec.toJson
  .obj [("kind", .str manifest.kind.text), ("spec", spec)]

def ofSpec? (origin : Origin) (kind : Kind) (json : Json) : Option Manifest :=
  match kind with
  | .resource kind => (kind.specOfJson? json).map (.resource kind)
  | .deletion => (DeletionSpec.ofJson? origin json).map .deletion

def kindOfJson? : Json → Option Kind :=
  toName? .text Kind.ofText?

/-- Reads a manifest. A spec that is met before the kind is copied until its kind is known. -/
def ofJson? : Json → Option Manifest
  | .arr [kind, spec] => (kindOfJson? kind).bind (ofSpec? .text · spec)
  | .obj members => do
    match members.filter fun member => member.1 = "kind" ∨ member.1 = "spec" with
    | [("kind", kind), ("spec", spec)] => ofSpec? .text (← kindOfJson? kind) spec
    | [("spec", spec), ("kind", kind)] => ofSpec? .copy (← kindOfJson? kind) (← spec.copied?)
    | _ => none
  | _ => none

end Manifest

end Reconciler
