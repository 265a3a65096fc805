import Reconciler.Proofs.Locality
import Reconciler.Proofs.Simulator.Moves

/-!
# What a pass sees of the simulator

The calls of a pass over an object depend on the resource of the object and on those that its
manifest depends on, and they move that resource only. Between tables that agree on these
resources a call therefore makes no difference (`agree_serve`).
-/

set_option autoImplicit false

namespace Reconciler.Simulator

/-- Two effects with the same answer that leave a resource in the same state. -/
def Agree {α : Type} (kind : ResourceKind) (identifier : String) (effect other : Effect α) : Prop :=
  effect.1 = other.1 ∧ effect.2.find? kind identifier = other.2.find? kind identifier

variable {config : SimulatorConfig} {s t : Tables} {kind : ResourceKind} {identifier : String}

/-- Refusals with one error agree where the tables do. -/
theorem agree_refuse {α : Type} (h : s.find? kind identifier = t.find? kind identifier)
    (error : Error) : Agree kind identifier (refuse s error : Effect α) (refuse t error) :=
  ⟨rfl, h⟩

/-- Accepted writes with one reply agree where the tables agree before and after them. -/
theorem agree_accept {α : Type} {after other : Tables} (reply : α)
    (h : s.find? kind identifier = t.find? kind identifier)
    (hafter : after.find? kind identifier = other.find? kind identifier) :
    Agree kind identifier (accept config s reply after) (accept config t reply other) := by
  refine ⟨rfl, ?_⟩
  unfold accept
  cases config.dryRun with
  | true => exact h
  | false => exact hafter

/-- Effects agree that are chosen between by equivalent conditions. -/
theorem agree_ite {α : Type} {p q : Prop} [Decidable p] [Decidable q]
    {yes yes' no no' : Effect α} (h : p ↔ q) (hyes : Agree kind identifier yes yes')
    (hno : Agree kind identifier no no') :
    Agree kind identifier (if p then yes else no) (if q then yes' else no') := by
  by_cases hp : p
  · rw [if_pos hp, if_pos (h.mp hp)]
    exact hyes
  · rw [if_neg hp, if_neg (mt h.mpr hp)]
    exact hno

/-! ## Names that are missing -/

section

variable {V : Type} {map other : Std.ExtTreeMap String V}

/-- A name is in both of two maps, or in none, when it leads to the same. -/
theorem mem_congr {name : String} (h : map[name]? = other[name]?) : name ∈ map ↔ name ∈ other := by
  rw [Std.ExtTreeMap.mem_iff_isSome_getElem?, Std.ExtTreeMap.mem_iff_isSome_getElem?, h]

/-- The same name is missing from maps that agree on it. -/
theorem filter_notMem_congr {wanted : Option String}
    (h : ∀ name ∈ wanted, map[name]? = other[name]?) :
    wanted.filter (· ∉ map) = wanted.filter (· ∉ other) := by
  cases wanted with
  | none => rfl
  | some name => simp only [Option.filter, mem_congr (h name rfl)]

end

/-! ## What was put in -/

/-- A cluster that was put in is found in the same state. -/
theorem find?_putCluster (s t : Tables) (resource : ClusterSnapshot) (phase : Phase) :
    (s.putCluster identifier resource phase).find? .cluster identifier =
      (t.putCluster identifier resource phase).find? .cluster identifier := by
  simp [Tables.find?, Tables.putCluster]

/-- An instance that was put in is found in the same state. -/
theorem find?_putInstance (s t : Tables) (resource : InstanceSnapshot) (phase : Phase) :
    (s.putInstance identifier resource phase).find? .dbInstance identifier =
      (t.putInstance identifier resource phase).find? .dbInstance identifier := by
  simp [Tables.find?, Tables.putInstance]

/-- A parameter group that was put in is found in the same state. -/
theorem find?_withGroups_insert (s t : Tables) (scope : Scope) (group : ParameterGroupSnapshot) :
    (s.withGroups scope ((s.groups scope).insert identifier group)).find? scope.kind identifier =
      (t.withGroups scope ((t.groups scope).insert identifier group)).find? scope.kind
        identifier := by
  cases scope <;> simp [Tables.find?, Tables.withGroups, Scope.kind]

/-- A subnet group that was put in is found in the same state. -/
theorem find?_insert_subnetGroups (s t : Tables) (group : SubnetGroupSnapshot) :
    ({ s with subnetGroups := s.subnetGroups.insert identifier group } : Tables).find?
        .subnetGroup identifier =
      ({ t with subnetGroups := t.subnetGroups.insert identifier group } : Tables).find?
        .subnetGroup identifier := by
  simp [Tables.find?]

/-! ## Parameter groups, in either scope -/

/-- Describing a parameter group depends on that group only. -/
theorem agree_describeGroup (scope : Scope)
    (h : s.find? scope.kind identifier = t.find? scope.kind identifier) :
    Agree scope.kind identifier (describeGroup s scope identifier)
      (describeGroup t scope identifier) := by
  simp only [describeGroup, groups_eq scope h]
  split
  · exact agree_refuse h _
  · exact ⟨rfl, h⟩

/-- Creating a parameter group depends on whether that group is there only. -/
theorem agree_createGroup (scope : Scope) (request : ParameterGroupCreation)
    (h : s.find? scope.kind request.name = t.find? scope.kind request.name) :
    Agree scope.kind request.name (createGroup config s scope request)
      (createGroup config t scope request) := by
  exact agree_ite (mem_congr (groups_eq scope h)) (agree_refuse h _)
    (agree_accept _ h (find?_withGroups_insert s t scope _))

/-- Changing a parameter group depends on that group only. -/
theorem agree_modifyGroup (scope : Scope) (request : ParameterGroupChange)
    (h : s.find? scope.kind request.name = t.find? scope.kind request.name) :
    Agree scope.kind request.name (modifyGroup config s scope request)
      (modifyGroup config t scope request) := by
  simp only [modifyGroup, groups_eq scope h]
  split
  · exact agree_refuse h _
  · exact agree_accept _ h (find?_withGroups_insert s t scope _)

/-! ## Calls of each sort -/

/-- Describing a resource depends on that resource only. -/
theorem agree_describe (h : s.find? kind identifier = t.find? kind identifier) :
    Agree kind identifier (serve config s (.describe kind identifier))
      (serve config t (.describe kind identifier)) := by
  cases kind with
  | cluster =>
    simp only [serve, describeCluster, clusters_eq h]
    split
    · exact agree_refuse h _
    · split
      · exact ⟨rfl, by simp [Tables.find?]⟩
      · exact ⟨rfl, find?_putCluster s t _ _⟩
  | dbInstance =>
    simp only [serve, describeInstance, instances_eq h]
    split
    · exact agree_refuse h _
    · split
      · exact ⟨rfl, by simp [Tables.find?]⟩
      · exact ⟨rfl, find?_putInstance s t _ _⟩
  | parameterGroup => exact agree_describeGroup .ofInstances h
  | clusterParameterGroup => exact agree_describeGroup .ofClusters h
  | subnetGroup =>
    simp only [serve, describeSubnetGroup, subnetGroups_eq h]
    split
    · exact agree_refuse h _
    · exact ⟨rfl, h⟩

/-- Tables agree on what a manifest depends on. -/
def AgreeOn (targets : List Target) (s t : Tables) : Prop :=
  ∀ target ∈ targets, s.find? target.1 target.2 = t.find? target.1 target.2

/-- Whether a cluster can be created depends on it and on the groups that it names. -/
theorem clusterObstacle?_congr {spec : ClusterSpec}
    (h : s.find? .cluster spec.id = t.find? .cluster spec.id)
    (hneeds : AgreeOn (Manifest.resource .cluster spec).dependencies s t) :
    clusterObstacle? s spec.creation = clusterObstacle? t spec.creation := by
  have hsubnets : ∀ group ∈ spec.subnetGroup, s.subnetGroups[group]? = t.subnetGroups[group]? :=
    fun group hgroup => subnetGroups_eq (hneeds (.subnetGroup, group)
      (by simp [Manifest.dependencies, Option.mem_def.mp hgroup]))
  have hgroups : ∀ group ∈ spec.parameterGroup, s.clusterGroups[group]? = t.clusterGroups[group]? :=
    fun group hgroup => groups_eq .ofClusters (hneeds (.clusterParameterGroup, group)
      (by simp [Manifest.dependencies, Option.mem_def.mp hgroup]))
  simp only [clusterObstacle?, ClusterSpec.creation, filter_notMem_congr hsubnets,
    filter_notMem_congr hgroups]
  exact ite_congr (propext (mem_congr (clusters_eq h))) (fun _ => rfl) fun _ => rfl

/-- Whether an instance can be created depends on it and on what it names. -/
theorem instanceObstacle?_congr {spec : InstanceSpec}
    (h : s.find? .dbInstance spec.id = t.find? .dbInstance spec.id)
    (hneeds : AgreeOn (Manifest.resource .dbInstance spec).dependencies s t) :
    instanceObstacle? s spec.creation = instanceObstacle? t spec.creation := by
  have hcluster : s.clusters[spec.cluster]? = t.clusters[spec.cluster]? :=
    clusters_eq (hneeds (.cluster, spec.cluster) (by simp [Manifest.dependencies]))
  have hgroups : ∀ group ∈ spec.parameterGroup,
      s.instanceGroups[group]? = t.instanceGroups[group]? :=
    fun group hgroup => groups_eq .ofInstances (hneeds (.parameterGroup, group)
      (by simp [Manifest.dependencies, Option.mem_def.mp hgroup]))
  simp only [instanceObstacle?, InstanceSpec.creation, hcluster, filter_notMem_congr hgroups]
  exact ite_congr (propext (mem_congr (instances_eq h))) (fun _ => rfl) fun _ => rfl

/-- Creating a resource depends on it and on what its manifest depends on. -/
theorem agree_create {spec : kind.Spec}
    (h : s.find? kind (kind.identifier spec) = t.find? kind (kind.identifier spec))
    (hneeds : AgreeOn (Manifest.resource kind spec).dependencies s t) :
    Agree kind (kind.identifier spec) (serve config s (.create kind (kind.creation spec)))
      (serve config t (.create kind (kind.creation spec))) := by
  cases kind with
  | cluster =>
    simp only [serve, createCluster, ResourceKind.creation, clusterObstacle?_congr h hneeds]
    split
    · exact agree_refuse h _
    · exact agree_accept _ h (find?_putCluster s t _ _)
  | dbInstance =>
    simp only [serve, createInstance, ResourceKind.creation, instanceObstacle?_congr h hneeds]
    split
    · exact agree_refuse h _
    · exact agree_accept _ h (find?_putInstance s t _ _)
  | parameterGroup => exact agree_createGroup .ofInstances spec.creation h
  | clusterParameterGroup => exact agree_createGroup .ofClusters spec.creation h
  | subnetGroup =>
    refine agree_ite (mem_congr (subnetGroups_eq h)) (agree_refuse h _) ?_
    refine agree_ite Iff.rfl (agree_refuse h _) ?_
    exact agree_accept _ h (find?_insert_subnetGroups s t _)

/-- Changing a resource depends on that resource only. -/
theorem agree_modify (request : kind.Change)
    (h : s.find? kind (kind.changedIdentifier request) =
      t.find? kind (kind.changedIdentifier request)) :
    Agree kind (kind.changedIdentifier request) (serve config s (.modify kind request))
      (serve config t (.modify kind request)) := by
  cases kind with
  | cluster =>
    have hsame : s.clusters[request.identifier]? = t.clusters[request.identifier]? := clusters_eq h
    simp only [serve, modifyCluster, hsame]
    split
    · exact agree_refuse h _
    · split
      · exact agree_accept _ h (find?_putCluster s t _ _)
      · exact agree_refuse h _
  | dbInstance =>
    have hsame : s.instances[request.identifier]? = t.instances[request.identifier]? :=
      instances_eq h
    simp only [serve, modifyInstance, hsame]
    split
    · exact agree_refuse h _
    · split
      · exact agree_accept _ h (find?_putInstance s t _ _)
      · exact agree_refuse h _
  | parameterGroup => exact agree_modifyGroup .ofInstances request h
  | clusterParameterGroup => exact agree_modifyGroup .ofClusters request h
  | subnetGroup =>
    have hsame : s.subnetGroups[request.name]? = t.subnetGroups[request.name]? :=
      subnetGroups_eq h
    simp only [serve, modifySubnetGroup, hsame]
    split
    · exact agree_refuse h _
    · exact agree_accept _ h (find?_insert_subnetGroups s t _)

/-- Between tables that agree on the resource of a spec and on what it depends on, a call that
serves the spec makes no difference. -/
theorem agree_serve {spec : kind.Spec} {call : Call} (hcall : call.Serves kind spec)
    (h : s.find? kind (kind.identifier spec) = t.find? kind (kind.identifier spec))
    (hneeds : AgreeOn (Manifest.resource kind spec).dependencies s t) :
    Agree kind (kind.identifier spec) (serve config s call) (serve config t call) := by
  cases hcall with
  | looks => exact agree_describe h
  | creates => exact agree_create h hneeds
  | changes request hname =>
    rw [← hname] at h ⊢
    exact agree_modify request h

end Reconciler.Simulator
