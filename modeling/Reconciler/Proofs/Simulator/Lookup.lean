import Reconciler.Provider.Simulator

/-!
# Looking into the simulator

The tables of the simulator seen as one map from targets, `Tables.find?`, and what calls do to
it. A call moves nothing but its own target (`find?_serve_of_ne`), so what is true of one
resource has to be followed through the calls about that resource only.
-/

set_option autoImplicit false

namespace Reconciler.Simulator

namespace Tables

/-- What is kept of a resource, and the phase it is in; groups are always settled. -/
def find? (tables : Tables) : (kind : ResourceKind) → String → Option (kind.Snapshot × Phase)
  | .cluster, identifier =>
    tables.clusters[identifier]?.map fun tracked => (tracked.resource, tracked.phase)
  | .dbInstance, identifier =>
    tables.instances[identifier]?.map fun tracked => (tracked.resource, tracked.phase)
  | .parameterGroup, name => tables.instanceGroups[name]?.map (·, .settled)
  | .clusterParameterGroup, name => tables.clusterGroups[name]?.map (·, .settled)
  | .subnetGroup, name => tables.subnetGroups[name]?.map (·, .settled)

/-- Nothing is found in empty tables. -/
@[simp]
theorem find?_empty (kind : ResourceKind) (identifier : String) :
    empty.find? kind identifier = none := by
  cases kind <;> simp [find?, empty]

/-- Two tables have the same resources, but for one target. -/
def Elsewhere (target : Target) (before after : Tables) : Prop :=
  ∀ kind identifier, target ≠ (kind, identifier) →
    after.find? kind identifier = before.find? kind identifier

/-- Tables have the same resources as themselves. -/
theorem Elsewhere.refl (target : Target) (tables : Tables) : Elsewhere target tables tables :=
  fun _ _ _ => rfl

end Tables

def Scope.kind : Scope → ResourceKind
  | .ofInstances => .parameterGroup
  | .ofClusters => .clusterParameterGroup

/-! ## Tables in which the same is found -/

section

variable {s t : Tables} {identifier : String}

/-- A cluster that is found alike is kept alike. -/
theorem clusters_eq (h : s.find? .cluster identifier = t.find? .cluster identifier) :
    s.clusters[identifier]? = t.clusters[identifier]? :=
  Option.map_injective (fun ⟨_, _⟩ ⟨_, _⟩ hsame => by cases hsame; rfl) h

/-- An instance that is found alike is kept alike. -/
theorem instances_eq (h : s.find? .dbInstance identifier = t.find? .dbInstance identifier) :
    s.instances[identifier]? = t.instances[identifier]? :=
  Option.map_injective (fun ⟨_, _⟩ ⟨_, _⟩ hsame => by cases hsame; rfl) h

/-- A parameter group that is found alike is kept alike. -/
theorem groups_eq (scope : Scope)
    (h : s.find? scope.kind identifier = t.find? scope.kind identifier) :
    (s.groups scope)[identifier]? = (t.groups scope)[identifier]? := by
  cases scope <;> exact Option.map_injective (fun _ _ hsame => (Prod.mk.inj hsame).1) h

/-- A subnet group that is found alike is kept alike. -/
theorem subnetGroups_eq (h : s.find? .subnetGroup identifier = t.find? .subnetGroup identifier) :
    s.subnetGroups[identifier]? = t.subnetGroups[identifier]? :=
  Option.map_injective (fun _ _ hsame => (Prod.mk.inj hsame).1) h

/-- Tables in which the same is found are the same. -/
theorem Tables.eq_of_find?
    (h : ∀ kind identifier, s.find? kind identifier = t.find? kind identifier) : s = t := by
  have hclusters : s.clusters = t.clusters := Std.ExtTreeMap.ext_getElem? fun identifier =>
    clusters_eq (h .cluster identifier)
  have hinstances : s.instances = t.instances := Std.ExtTreeMap.ext_getElem? fun identifier =>
    instances_eq (h .dbInstance identifier)
  have hgroups : ∀ scope, s.groups scope = t.groups scope := fun scope =>
    Std.ExtTreeMap.ext_getElem? fun name => groups_eq scope (h scope.kind name)
  have hsubnetGroups : s.subnetGroups = t.subnetGroups := Std.ExtTreeMap.ext_getElem? fun name =>
    subnetGroups_eq (h .subnetGroup name)
  have hinstanceGroups := hgroups .ofInstances
  have hclusterGroups := hgroups .ofClusters
  cases s
  cases t
  simp_all [Tables.groups]

end

/-! ## Tables that differ at one identifier -/

section

variable {V : Type} {map : Std.ExtTreeMap String V} {identifier other : String}

/-- Putting one entry in keeps the others. -/
theorem getElem?_insert_of_ne (value : V) (h : identifier ≠ other) :
    (map.insert identifier value)[other]? = map[other]? := by
  rw [Std.ExtTreeMap.getElem?_insert]
  simp [h]

/-- Taking one entry out keeps the others. -/
theorem getElem?_erase_of_ne (h : identifier ≠ other) :
    (map.erase identifier)[other]? = map[other]? := by
  rw [Std.ExtTreeMap.getElem?_erase]
  simp [h]

end

namespace Tables

variable {before : Tables} {identifier : String}

/-- A change of one cluster keeps all other resources. -/
theorem elsewhere_clusters {changed : Std.ExtTreeMap String (Tracked ClusterSnapshot)}
    (h : ∀ {other}, identifier ≠ other → changed[other]? = before.clusters[other]?) :
    Elsewhere (.cluster, identifier) before { before with clusters := changed } := by
  intro kind other hne
  cases kind with
  | cluster =>
    have hother : identifier ≠ other := fun heq => hne (congrArg _ heq)
    simp only [find?, h hother]
  | dbInstance | parameterGroup | clusterParameterGroup | subnetGroup => rfl

/-- A change of one instance keeps all other resources. -/
theorem elsewhere_instances {changed : Std.ExtTreeMap String (Tracked InstanceSnapshot)}
    (h : ∀ {other}, identifier ≠ other → changed[other]? = before.instances[other]?) :
    Elsewhere (.dbInstance, identifier) before { before with instances := changed } := by
  intro kind other hne
  cases kind with
  | dbInstance =>
    have hother : identifier ≠ other := fun heq => hne (congrArg _ heq)
    simp only [find?, h hother]
  | cluster | parameterGroup | clusterParameterGroup | subnetGroup => rfl

/-- A change of one parameter group keeps all other resources. -/
theorem elsewhere_withGroups (scope : Scope)
    {changed : Std.ExtTreeMap String ParameterGroupSnapshot}
    (h : ∀ {other}, identifier ≠ other → changed[other]? = (before.groups scope)[other]?) :
    Elsewhere (scope.kind, identifier) before (before.withGroups scope changed) := by
  intro kind other hne
  cases scope <;> cases kind
  case ofInstances.parameterGroup | ofClusters.clusterParameterGroup =>
    have hother : identifier ≠ other := fun heq => hne (congrArg _ heq)
    have hsame := h hother
    simp only [Tables.groups] at hsame
    simp only [find?, withGroups, hsame]
  all_goals rfl

/-- A change of one subnet group keeps all other resources. -/
theorem elsewhere_subnetGroups {changed : Std.ExtTreeMap String SubnetGroupSnapshot}
    (h : ∀ {other}, identifier ≠ other → changed[other]? = before.subnetGroups[other]?) :
    Elsewhere (.subnetGroup, identifier) before { before with subnetGroups := changed } := by
  intro kind other hne
  cases kind with
  | subnetGroup =>
    have hother : identifier ≠ other := fun heq => hne (congrArg _ heq)
    simp only [find?, h hother]
  | cluster | dbInstance | parameterGroup | clusterParameterGroup => rfl

end Tables

/-! ## A call moves its target only -/

variable (config : SimulatorConfig) (tables : Tables)

open Tables

/-- A write that is accepted keeps what its effect keeps, live or dry. -/
theorem elsewhere_accept {α : Type} {target : Target} {after : Tables} (reply : α)
    (h : Elsewhere target tables after) :
    Elsewhere target tables (accept config tables reply after).2 := by
  unfold accept
  cases config.dryRun with
  | true => exact .refl target tables
  | false => exact h

/-! ### Parameter groups, in either scope -/

/-- Creating a parameter group keeps all other resources. -/
theorem elsewhere_createGroup (scope : Scope) (request : ParameterGroupCreation) :
    Elsewhere (scope.kind, request.name) tables
      (createGroup config tables scope request).2 := by
  unfold createGroup
  split
  · exact .refl _ _
  · exact elsewhere_accept config tables _
      (elsewhere_withGroups scope (getElem?_insert_of_ne _))

/-- Changing a parameter group keeps all other resources. -/
theorem elsewhere_modifyGroup (scope : Scope) (request : ParameterGroupChange) :
    Elsewhere (scope.kind, request.name) tables
      (modifyGroup config tables scope request).2 := by
  unfold modifyGroup
  split
  · exact .refl _ _
  · exact elsewhere_accept config tables _
      (elsewhere_withGroups scope (getElem?_insert_of_ne _))

/-- Deleting a parameter group keeps all other resources. -/
theorem elsewhere_deleteGroup (scope : Scope) (name : String) :
    Elsewhere (scope.kind, name) tables (deleteGroup config tables scope name).2 := by
  unfold deleteGroup
  split
  · exact .refl _ _
  · split
    · exact elsewhere_accept config tables _ (elsewhere_withGroups scope getElem?_erase_of_ne)
    · exact .refl _ _

/-! ### Calls of each sort -/

/-- Describing a resource keeps all others. -/
theorem elsewhere_describe (kind : ResourceKind) (identifier : String) :
    Elsewhere (kind, identifier) tables
      (serve config tables (.describe kind identifier)).2 := by
  cases kind with
  | cluster =>
    simp only [serve, describeCluster]
    split
    · exact .refl _ _
    · split
      · exact elsewhere_clusters getElem?_erase_of_ne
      · exact elsewhere_clusters (getElem?_insert_of_ne _)
  | dbInstance =>
    simp only [serve, describeInstance]
    split
    · exact .refl _ _
    · split
      · exact elsewhere_instances getElem?_erase_of_ne
      · exact elsewhere_instances (getElem?_insert_of_ne _)
  | parameterGroup | clusterParameterGroup =>
    simp only [serve, describeGroup]
    split <;> exact .refl _ _
  | subnetGroup =>
    simp only [serve, describeSubnetGroup]
    split <;> exact .refl _ _

/-- Creating a resource keeps all others. -/
theorem elsewhere_create (kind : ResourceKind) (request : kind.Creation) :
    Elsewhere (kind, kind.createdIdentifier request) tables
      (serve config tables (.create kind request)).2 := by
  cases kind with
  | cluster =>
    simp only [serve, createCluster]
    split
    · exact .refl _ _
    · exact elsewhere_accept config tables _ (elsewhere_clusters (getElem?_insert_of_ne _))
  | dbInstance =>
    simp only [serve, createInstance]
    split
    · exact .refl _ _
    · exact elsewhere_accept config tables _ (elsewhere_instances (getElem?_insert_of_ne _))
  | parameterGroup => exact elsewhere_createGroup config tables .ofInstances request
  | clusterParameterGroup => exact elsewhere_createGroup config tables .ofClusters request
  | subnetGroup =>
    simp only [serve, createSubnetGroup]
    split
    · exact .refl _ _
    · split
      · exact .refl _ _
      · exact elsewhere_accept config tables _ (elsewhere_subnetGroups (getElem?_insert_of_ne _))

/-- Changing a resource keeps all others. -/
theorem elsewhere_modify (kind : ResourceKind) (request : kind.Change) :
    Elsewhere (kind, kind.changedIdentifier request) tables
      (serve config tables (.modify kind request)).2 := by
  cases kind with
  | cluster =>
    simp only [serve, modifyCluster]
    split
    · exact .refl _ _
    · split
      · exact elsewhere_accept config tables _ (elsewhere_clusters (getElem?_insert_of_ne _))
      · exact .refl _ _
  | dbInstance =>
    simp only [serve, modifyInstance]
    split
    · exact .refl _ _
    · split
      · exact elsewhere_accept config tables _ (elsewhere_instances (getElem?_insert_of_ne _))
      · exact .refl _ _
  | parameterGroup => exact elsewhere_modifyGroup config tables .ofInstances request
  | clusterParameterGroup => exact elsewhere_modifyGroup config tables .ofClusters request
  | subnetGroup =>
    simp only [serve, modifySubnetGroup]
    split
    · exact .refl _ _
    · exact elsewhere_accept config tables _ (elsewhere_subnetGroups (getElem?_insert_of_ne _))

/-- Deleting a resource keeps all others. -/
theorem elsewhere_delete (kind : ResourceKind) (identifier : String) :
    Elsewhere (kind, identifier) tables
      (serve config tables (.delete kind identifier)).2 := by
  cases kind with
  | cluster =>
    simp only [serve, deleteCluster]
    split
    · exact .refl _ _
    · split
      · exact .refl _ _
      · exact elsewhere_accept config tables _ (elsewhere_clusters (getElem?_insert_of_ne _))
  | dbInstance =>
    simp only [serve, deleteInstance]
    split
    · exact .refl _ _
    · exact elsewhere_accept config tables _ (elsewhere_instances (getElem?_insert_of_ne _))
  | parameterGroup => exact elsewhere_deleteGroup config tables .ofInstances identifier
  | clusterParameterGroup => exact elsewhere_deleteGroup config tables .ofClusters identifier
  | subnetGroup =>
    simp only [serve, deleteSubnetGroup]
    split
    · exact .refl _ _
    · split
      · exact elsewhere_accept config tables _ (elsewhere_subnetGroups getElem?_erase_of_ne)
      · exact .refl _ _

/-- A call leaves every resource but its target alone. -/
theorem find?_serve_of_ne (call : Call) {kind : ResourceKind} {identifier : String}
    (h : call.target ≠ (kind, identifier)) :
    (serve config tables call).2.find? kind identifier = tables.find? kind identifier := by
  cases call with
  | describe other name => exact elsewhere_describe config tables other name kind identifier h
  | create other request => exact elsewhere_create config tables other request kind identifier h
  | modify other request => exact elsewhere_modify config tables other request kind identifier h
  | delete other name => exact elsewhere_delete config tables other name kind identifier h

end Reconciler.Simulator
