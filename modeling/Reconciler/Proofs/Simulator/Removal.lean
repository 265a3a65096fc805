import Reconciler.Proofs.Simulator.Creation

/-!
# Removing resources at the simulator

The simulator refuses to delete a resource while another one uses it, those that are going away
included, and changes nothing when it refuses. A deletion that it accepts removes a group at
once; a cluster or an instance goes away after a number of looks.
-/

set_option autoImplicit false

namespace Reconciler

/-- The kind of resources that use those of a kind. -/
def ResourceKind.user? : ResourceKind → Option ResourceKind
  | .dbInstance => none
  | .cluster => some .dbInstance
  | .parameterGroup => some .dbInstance
  | .clusterParameterGroup => some .cluster
  | .subnetGroup => some .cluster

/-- Whether a deleted resource of a kind goes away by and by. -/
def ResourceKind.lingers : ResourceKind → Bool
  | .cluster => true
  | .dbInstance => true
  | _ => false

namespace Simulator

/-! ## Phases -/

namespace Phase

/-- The number of looks after which a resource is seen to be gone, if it is going away. -/
def goneIn? : Phase → Option Nat
  | .deleting left => some (max 1 left)
  | _ => none

variable {phase : Phase}

/-- A resource that is going away is not gone before the next look. -/
theorem goneIn?_pos {left : Nat} (h : phase.goneIn? = some left) : 1 ≤ left := by
  cases phase with
  | settled | creating _ | modifying _ => cases h
  | deleting count =>
    cases h
    omega

/-- A resource that is deleted goes away after as many looks as are set, and after one at least. -/
theorem goneIn?_delete (h : phase.goneIn? = none) (count : Nat) :
    (phase.delete count).goneIn? = some (max 1 count) := by
  cases phase with
  | settled | creating _ | modifying _ => rfl
  | deleting _ => cases h

/-- A look at a resource that stays brings it closer to being gone, if it is going away. -/
theorem goneIn?_look {next : Phase} (hlook : phase.look = some next) :
    next.goneIn? = phase.goneIn?.map (· - 1) := by
  cases phase with
  | settled =>
    cases hlook
    rfl
  | creating count | modifying count =>
    cases hlook
    by_cases hlast : count ≤ 1 <;> simp [hlast, goneIn?]
  | deleting count =>
    by_cases hlast : count ≤ 1
    · simp [look, hlast] at hlook
    · simp only [look, hlast, if_false, Option.some.injEq] at hlook
      simp only [← hlook, goneIn?, Option.map_some, Option.some.injEq]
      omega

/-- A resource in its last phase is gone at the next look. -/
theorem goneIn?_of_last (hlook : phase.look = none) : phase.goneIn? = some 1 := by
  cases phase with
  | settled | creating _ | modifying _ => cases hlook
  | deleting count =>
    by_cases hlast : count ≤ 1
    · simp only [goneIn?, Option.some.injEq]
      omega
    · simp [look, hlast] at hlook

end Phase

/-! ## Resources in use -/

namespace Tables

/-- Whether a resource is used by another one. -/
def inUse (tables : Tables) : ResourceKind → String → Bool
  | .cluster, identifier => tables.hasMembers identifier
  | .dbInstance, _ => false
  | .parameterGroup, name => tables.usesInstanceGroup name
  | .clusterParameterGroup, name => tables.usesClusterGroup name
  | .subnetGroup, name => tables.usesSubnetGroup name

/-- Whether a resource of one kind names a resource of another kind, and so uses it. -/
def Names : (user kind : ResourceKind) → user.Snapshot → String → Prop
  | .dbInstance, .cluster, existing, identifier => existing.cluster = identifier
  | .dbInstance, .parameterGroup, existing, name => existing.parameterGroup = some name
  | .cluster, .clusterParameterGroup, cluster, name => cluster.parameterGroup = some name
  | .cluster, .subnetGroup, cluster, name => cluster.subnetGroup = some name
  | _, _, _, _ => False

/-- A resource can be named by resources of one kind only. -/
theorem user?_of_names {user kind : ResourceKind} {resource : user.Snapshot} {identifier : String}
    (h : Names user kind resource identifier) : user ∈ kind.user? := by
  cases user <;> cases kind <;> first | rfl | cases h

variable {tables : Tables}

/-- Whether a table has a resource of a sort, told by its list of entries and by what is found. -/
theorem any_tracked_iff {σ : Type} (table : Std.ExtTreeMap String (Tracked σ)) (p : σ → Prop)
    [DecidablePred p] :
    (table.toList.any fun entry => p entry.2.resource) = true ↔
      ∃ (identifier : String) (resource : σ) (phase : Phase),
        (table[identifier]?.map fun (tracked : Tracked σ) => (tracked.resource, tracked.phase)) =
          some (resource, phase) ∧ p resource := by
  simp only [List.any_eq_true, Prod.exists, Std.ExtTreeMap.mem_toList_iff_getElem?_eq_some,
    decide_eq_true_eq]
  constructor
  · rintro ⟨identifier, tracked, hthere, hp⟩
    exact ⟨identifier, tracked.resource, tracked.phase, Option.map_eq_some_iff.mpr
      ⟨tracked, hthere, rfl⟩, hp⟩
  · rintro ⟨identifier, resource, phase, hthere, hp⟩
    obtain ⟨tracked, htracked, heq⟩ := Option.map_eq_some_iff.mp hthere
    cases heq
    exact ⟨identifier, tracked, htracked, hp⟩

/-- Only resources of one kind name resources of a kind. -/
theorem exists_names_iff {user kind : ResourceKind} {identifier : String}
    (huser : kind.user? = some user) :
    (∃ other name resource phase, tables.find? other name = some (resource, phase) ∧
        Names other kind resource identifier) ↔
      ∃ name resource phase, tables.find? user name = some (resource, phase) ∧
        Names user kind resource identifier := by
  constructor
  · rintro ⟨other, name, resource, phase, hthere, hnames⟩
    cases huser.symm.trans (user?_of_names hnames)
    exact ⟨name, resource, phase, hthere, hnames⟩
  · rintro ⟨name, resource, phase, hthere, hnames⟩
    exact ⟨user, name, resource, phase, hthere, hnames⟩

/-- A resource is in use exactly when one that is there names it. -/
theorem inUse_iff (kind : ResourceKind) (identifier : String) :
    tables.inUse kind identifier = true ↔ ∃ user name resource phase,
      tables.find? user name = some (resource, phase) ∧ Names user kind resource identifier := by
  cases kind with
  | dbInstance =>
    refine iff_of_false Bool.false_ne_true ?_
    rintro ⟨user, name, resource, phase, -, hnames⟩
    cases user?_of_names hnames
  | cluster =>
    rw [exists_names_iff rfl]
    exact any_tracked_iff tables.instances fun existing => existing.cluster = identifier
  | parameterGroup =>
    rw [exists_names_iff rfl]
    exact any_tracked_iff tables.instances fun existing => existing.parameterGroup = some identifier
  | clusterParameterGroup =>
    rw [exists_names_iff rfl]
    exact any_tracked_iff tables.clusters fun cluster => cluster.parameterGroup = some identifier
  | subnetGroup =>
    rw [exists_names_iff rfl]
    exact any_tracked_iff tables.clusters fun cluster => cluster.subnetGroup = some identifier

/-- A resource is not in use once there are no resources of the kind that uses it. -/
theorem inUse_of_gone (kind : ResourceKind) (identifier : String)
    (hgone : ∀ user ∈ kind.user?, ∀ other, tables.find? user other = none) :
    tables.inUse kind identifier = false := by
  rw [← Bool.not_eq_true, inUse_iff]
  rintro ⟨user, name, resource, phase, hthere, hnames⟩
  rw [hgone user (user?_of_names hnames) name] at hthere
  cases hthere

/-- Tables in which nothing is found are empty. -/
theorem eq_empty_of_find? (h : ∀ kind identifier, tables.find? kind identifier = none) :
    tables = .empty :=
  eq_of_find? fun kind identifier => (h kind identifier).trans (find?_empty kind identifier).symm

end Tables

variable {config : SimulatorConfig} {tables : Tables} {kind : ResourceKind} {identifier : String}

/-- A resource that is in use is not deleted. -/
theorem serve_delete_of_inUse (h : tables.inUse kind identifier = true) :
    ∃ name message,
      serve config tables (.delete kind identifier) =
        (.error (.provider name message), tables) := by
  cases kind with
  | dbInstance => cases h
  | cluster =>
    have hmembers : tables.hasMembers identifier = true := h
    exact ⟨_, _, by simp only [serve, deleteCluster, hmembers, if_true]; rfl⟩
  | parameterGroup =>
    have hused : tables.usesGroup .ofInstances identifier = true := h
    exact ⟨_, _, by simp only [serve, deleteGroup, hused, if_true]; rfl⟩
  | clusterParameterGroup =>
    have hused : tables.usesGroup .ofClusters identifier = true := h
    exact ⟨_, _, by simp only [serve, deleteGroup, hused, if_true]; rfl⟩
  | subnetGroup =>
    have hused : tables.usesSubnetGroup identifier = true := h
    exact ⟨_, _, by simp only [serve, deleteSubnetGroup, hused, if_true]; rfl⟩

/-- A parameter group that is not there cannot be deleted. -/
theorem deleteGroup_of_absent (scope : Scope) (hfree : tables.usesGroup scope identifier = false)
    (habsent : (tables.groups scope)[identifier]? = none) :
    deleteGroup config tables scope identifier =
      refuse tables (unknownGroup scope identifier) := by
  rw [deleteGroup, hfree, if_neg Bool.false_ne_true, if_neg (getElem?_eq_none_iff.mp habsent)]

/-- A resource that is neither in use nor there is not found. -/
theorem serve_delete_of_absent (hfree : tables.inUse kind identifier = false)
    (habsent : tables.find? kind identifier = none) :
    ∃ subject,
      serve config tables (.delete kind identifier) = (.error (.notFound subject), tables) := by
  cases kind with
  | cluster =>
    have hmembers : tables.hasMembers identifier = false := hfree
    have hnone : tables.clusters[identifier]? = none := Option.map_eq_none_iff.mp habsent
    exact ⟨_, by simp only [serve, deleteCluster, hmembers, hnone]; rfl⟩
  | dbInstance =>
    have hnone : tables.instances[identifier]? = none := Option.map_eq_none_iff.mp habsent
    exact ⟨_, by simp only [serve, deleteInstance, hnone]; rfl⟩
  | parameterGroup =>
    exact ⟨_, deleteGroup_of_absent .ofInstances hfree (Option.map_eq_none_iff.mp habsent)⟩
  | clusterParameterGroup =>
    exact ⟨_, deleteGroup_of_absent .ofClusters hfree (Option.map_eq_none_iff.mp habsent)⟩
  | subnetGroup =>
    have hused : tables.usesSubnetGroup identifier = false := hfree
    have hmissing : identifier ∉ tables.subnetGroups :=
      getElem?_eq_none_iff.mp (Option.map_eq_none_iff.mp habsent)
    exact ⟨_, by simp only [serve, deleteSubnetGroup, hused, if_neg hmissing]; rfl⟩

/-- A parameter group that nothing uses is deleted at once. -/
theorem deleteGroup_of_free (hlive : config.dryRun = false) (scope : Scope)
    (hfree : tables.usesGroup scope identifier = false) {group : ParameterGroupSnapshot}
    (hthere : (tables.groups scope)[identifier]? = some group) :
    deleteGroup config tables scope identifier =
      (.ok (), tables.withGroups scope ((tables.groups scope).erase identifier)) := by
  have hmem : identifier ∈ tables.groups scope :=
    Std.ExtTreeMap.mem_iff_isSome_getElem?.mpr (by rw [hthere]; rfl)
  rw [deleteGroup, hfree, if_neg Bool.false_ne_true, if_pos hmem, accept_live hlive]

/-- What is left of a resource when its deletion is accepted. -/
def leftAfter (config : SimulatorConfig) (kind : ResourceKind) (resource : kind.Snapshot)
    (phase : Phase) : Option (kind.Snapshot × Phase) :=
  if kind.lingers then some (resource, phase.delete config.deleteAfter.toNat) else none

/-- A resource that is not in use is deleted. -/
theorem serve_delete_of_free (hlive : config.dryRun = false)
    (hfree : tables.inUse kind identifier = false) {resource : kind.Snapshot} {phase : Phase}
    (hthere : tables.find? kind identifier = some (resource, phase)) :
    ∃ after, serve config tables (.delete kind identifier) = (.ok (), after) ∧
      after.find? kind identifier = leftAfter config kind resource phase := by
  cases kind with
  | cluster =>
    obtain ⟨tracked, htracked, heq⟩ := Option.map_eq_some_iff.mp hthere
    cases heq
    have hmembers : tables.hasMembers identifier = false := hfree
    refine ⟨tables.putCluster identifier tracked.resource
      (tracked.phase.delete config.deleteAfter.toNat), ?_, ?_⟩
    · simp only [serve, deleteCluster, hmembers, htracked, accept_live hlive]
      rfl
    · simp [Tables.find?, Tables.putCluster, leftAfter, ResourceKind.lingers]
  | dbInstance =>
    obtain ⟨tracked, htracked, heq⟩ := Option.map_eq_some_iff.mp hthere
    cases heq
    refine ⟨tables.putInstance identifier tracked.resource
      (tracked.phase.delete config.deleteAfter.toNat), ?_, ?_⟩
    · simp only [serve, deleteInstance, htracked, accept_live hlive]
    · simp [Tables.find?, Tables.putInstance, leftAfter, ResourceKind.lingers]
  | parameterGroup =>
    obtain ⟨group, hgroup, -⟩ := Option.map_eq_some_iff.mp hthere
    refine ⟨_, deleteGroup_of_free hlive .ofInstances hfree hgroup, ?_⟩
    simp [Tables.find?, Tables.withGroups, leftAfter, ResourceKind.lingers]
  | clusterParameterGroup =>
    obtain ⟨group, hgroup, -⟩ := Option.map_eq_some_iff.mp hthere
    refine ⟨_, deleteGroup_of_free hlive .ofClusters hfree hgroup, ?_⟩
    simp [Tables.find?, Tables.withGroups, leftAfter, ResourceKind.lingers]
  | subnetGroup =>
    obtain ⟨group, hgroup, -⟩ := Option.map_eq_some_iff.mp hthere
    have hused : tables.usesSubnetGroup identifier = false := hfree
    have hmem : identifier ∈ tables.subnetGroups :=
      Std.ExtTreeMap.mem_iff_isSome_getElem?.mpr (by rw [hgroup]; rfl)
    refine ⟨{ tables with subnetGroups := tables.subnetGroups.erase identifier }, ?_, ?_⟩
    · simp only [serve, deleteSubnetGroup, hused, if_pos hmem, accept_live hlive]
      rfl
    · simp [Tables.find?, leftAfter, ResourceKind.lingers]

/-- A resource whose last look has come is not found and is gone from then on. -/
theorem serve_describe_of_last {resource : kind.Snapshot} {phase : Phase}
    (h : tables.find? kind identifier = some (resource, phase)) (hlook : phase.look = none) :
    ∃ error after, error.isNotFound = true ∧
      serve config tables (.describe kind identifier) = (.error error, after) ∧
      after.find? kind identifier = none := by
  cases kind with
  | cluster =>
    obtain ⟨tracked, htracked, heq⟩ := Option.map_eq_some_iff.mp h
    cases heq
    refine ⟨unknownCluster identifier,
      { tables with clusters := tables.clusters.erase identifier }, rfl, ?_, ?_⟩
    · simp only [serve, describeCluster, htracked, hlook]
    · simp [Tables.find?]
  | dbInstance =>
    obtain ⟨tracked, htracked, heq⟩ := Option.map_eq_some_iff.mp h
    cases heq
    refine ⟨unknownInstance identifier,
      { tables with instances := tables.instances.erase identifier }, rfl, ?_, ?_⟩
    · simp only [serve, describeInstance, htracked, hlook]
    · simp [Tables.find?]
  | parameterGroup | clusterParameterGroup | subnetGroup =>
    obtain ⟨group, -, heq⟩ := Option.map_eq_some_iff.mp h
    cases heq
    cases hlook

end Simulator

end Reconciler
