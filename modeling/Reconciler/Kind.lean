import Reconciler.Json.Reader

/-!
# Kinds

The kinds of resources a provider knows, and the kinds of declared objects: one for each
kind of resource, and requests to delete a resource. Objects are ordered by kind, in the
order given here, and then by name.
-/

set_option autoImplicit false

namespace Reconciler

/-- The kinds of resources at the provider. -/
inductive ResourceKind where
  | cluster
  | dbInstance
  | parameterGroup
  | clusterParameterGroup
  | subnetGroup
  deriving DecidableEq, Repr, Inhabited

namespace ResourceKind

/-- All kinds, dependents before what they depend on. -/
def all : List ResourceKind :=
  [.dbInstance, .cluster, .parameterGroup, .clusterParameterGroup, .subnetGroup]

def text : ResourceKind → String
  | .cluster => "cluster"
  | .dbInstance => "instance"
  | .parameterGroup => "parameter_group"
  | .clusterParameterGroup => "cluster_parameter_group"
  | .subnetGroup => "subnet_group"

def ofText? (name : String) : Option ResourceKind :=
  all.find? (·.text = name)

def rank : ResourceKind → Nat
  | .cluster => 0
  | .dbInstance => 1
  | .parameterGroup => 2
  | .clusterParameterGroup => 3
  | .subnetGroup => 4

/-- The name of a resource kind is read back as that kind. -/
@[simp]
theorem ofText?_text (kind : ResourceKind) : ofText? kind.text = some kind := by
  cases kind <;> rfl

/-- No two resource kinds come at the same place of the order of kinds. -/
theorem rank_injective {a b : ResourceKind} (h : a.rank = b.rank) : a = b := by
  cases a <;> cases b <;> simp_all [rank]

end ResourceKind

/-- The kinds of declared objects. -/
inductive Kind where
  /-- A resource that is to exist. -/
  | resource (kind : ResourceKind)
  /-- A request to delete a resource. -/
  | deletion
  deriving DecidableEq, Repr, Inhabited

namespace Kind

def all : List Kind :=
  [.resource .cluster, .resource .dbInstance, .resource .parameterGroup,
   .resource .clusterParameterGroup, .resource .subnetGroup, .deletion]

def text : Kind → String
  | .resource kind => kind.text
  | .deletion => "deletion"

def ofText? (name : String) : Option Kind :=
  all.find? (·.text = name)

def rank : Kind → Nat
  | .resource kind => kind.rank
  | .deletion => 5

/-- Whether objects of a kind stand for a resource that is to exist. -/
def isLifecycle : Kind → Bool
  | .resource _ => true
  | .deletion => false

/-- The name of a kind is read back as that kind. -/
@[simp]
theorem ofText?_text (kind : Kind) : ofText? kind.text = some kind := by
  cases kind with
  | resource kind => cases kind <;> rfl
  | deletion => rfl

/-- No two kinds come at the same place of the order of kinds. -/
theorem rank_injective {a b : Kind} (h : a.rank = b.rank) : a = b := by
  cases a with
  | resource a => cases b with
    | resource b => exact congrArg _ (ResourceKind.rank_injective h)
    | deletion => cases a <;> simp [rank, ResourceKind.rank] at h
  | deletion => cases b with
    | resource b => cases b <;> simp [rank, ResourceKind.rank] at h
    | deletion => rfl

end Kind

/-- The identity of a declared object. -/
structure Key where
  kind : Kind
  /-- Unique among the objects of one kind. -/
  name : String
  deriving DecidableEq, Repr, Inhabited

namespace Key

def text (key : Key) : String :=
  key.kind.text ++ "/" ++ key.name

/-- Keys are ordered by kind and then by name. -/
instance : Ord Key where
  compare := compareLex (compareOn fun key => key.kind.rank) (compareOn fun key => key.name)

instance : Std.TransOrd Key :=
  inferInstanceAs (Std.TransCmp (compareLex _ _))

instance : Std.LawfulEqOrd Key where
  eq_of_compare {a b} h := by
    obtain ⟨hkind, hname⟩ := compareLex_eq_eq.mp h
    have hk : a.kind = b.kind := Kind.rank_injective (Std.LawfulEqOrd.eq_of_compare hkind)
    have hn : a.name = b.name := Std.LawfulEqOrd.eq_of_compare hname
    cases a
    cases b
    simp_all

def toJson (key : Key) : Json :=
  .obj [("kind", .str key.kind.text), ("name", .str key.name)]

def ofJson? : Json → Option Key :=
  Json.toRecord? do
    let kind ← Json.Reader.required "kind" (Json.toName? .text Kind.ofText?)
    let name ← Json.Reader.required "name" Json.asText?
    return { kind, name }

end Key

end Reconciler
