import Reconciler.Proofs.Calls
import Reconciler.Proofs.Simulator.Integrity

/-!
# What an update clears

Some fields of a resource cannot be changed (`ResourceKind.fixedFields`). One update clears the
drift of all the others and leaves the lines about the fixed ones as they are, whichever fields
drift and whatever the spec leaves open. There is then nothing more to ask for
(`update_clears`). Each field is looked at by itself: it is replaced by what is pending, and a
pending value is the desired one.
-/

set_option autoImplicit false

namespace Reconciler

/-- The fields of a resource that no change can touch. -/
def ResourceKind.fixedFields : ResourceKind → List String
  | .cluster => ["identifier", "engine", "master_username", "subnet_group_name"]
  | .dbInstance => ["identifier", "cluster_id", "engine"]
  | .parameterGroup => ["name", "family", "description"]
  | .clusterParameterGroup => ["name", "family", "description"]
  | .subnetGroup => ["name"]

/-- Whether a difference is one of a fixed field. -/
def Mismatch.isFixed (kind : ResourceKind) : Mismatch → Bool
  | .value field _ _ => field ∈ kind.fixedFields
  | _ => false

/-! ## The lines about fixed fields -/

namespace Drift

variable {kind : ResourceKind} {field : String}

/-- The lines about a fixed field are all fixed. -/
theorem filter_compare_of_fixed (h : field ∈ kind.fixedFields) (desired actual : String) :
    (compare field desired actual).filter (·.isFixed kind) = compare field desired actual := by
  unfold compare
  split
  · rfl
  · exact List.filter_cons_of_pos (decide_eq_true h)

/-- The lines about any other field are not fixed. -/
theorem filter_compare_of_free (h : field ∉ kind.fixedFields) (desired actual : String) :
    (compare field desired actual).filter (·.isFixed kind) = [] := by
  unfold compare
  split
  · rfl
  · exact List.filter_cons_of_neg (mt of_decide_eq_true h)

/-- The lines about a fixed declared field are all fixed. -/
theorem filter_compareDeclared_of_fixed (h : field ∈ kind.fixedFields)
    (desired actual : Option String) :
    (compareDeclared field desired actual).filter (·.isFixed kind) =
      compareDeclared field desired actual := by
  cases desired with
  | none => rfl
  | some desired => exact filter_compare_of_fixed h desired _

/-- The lines about any other declared field are not fixed. -/
theorem filter_compareDeclared_of_free (h : field ∉ kind.fixedFields)
    (desired actual : Option String) :
    (compareDeclared field desired actual).filter (·.isFixed kind) = [] := by
  cases desired with
  | none => rfl
  | some desired => exact filter_compare_of_free h desired _

/-- No list of members is a fixed field. -/
theorem filter_compareMembers (field : String) (desired actual : List String) :
    (compareMembers field desired actual).filter (·.isFixed kind) = [] := by
  unfold compareMembers
  dsimp only
  split <;> rfl

end Drift

/-! ## One field after a change -/

namespace Adapter

/-- What is pending, or else the actual value, is what is declared or else the actual value. -/
theorem or_pending (desired actual : Option String) :
    (pending desired actual).or actual = desired.or actual := by
  cases desired with
  | none => rfl
  | some value =>
    by_cases hsame : actual = some value
    · have hnone : pending (some value) actual = none := by simp [pending, hsame]
      rw [hnone, Option.none_or, hsame, Option.some_or]
    · have hsome : pending (some value) actual = some value := by simp [pending, hsame]
      rw [hsome, Option.some_or]

/-- The value after an update is the declared one, or else the actual one. -/
theorem getD_pending (desired : Option String) (actual : String) :
    (pending desired (some actual)).getD actual = desired.getD actual := by
  have hor := or_pending desired (some actual)
  rw [Option.or_some, Option.or_some] at hor
  exact Option.some.inj hor

/-- Nothing is pending any more once the declared value was taken over. -/
theorem pending_or (desired actual : Option String) :
    pending desired (desired.or actual) = none := by
  cases desired with
  | none => rfl
  | some value => simp [pending]

/-- Nothing is pending once the declared value is set. -/
theorem pending_getD (desired : Option String) (actual : String) :
    pending desired (some (desired.getD actual)) = none := by
  have hor := pending_or desired (some actual)
  rwa [Option.or_some] at hor

/-- A declared value that was set, where it is declared, has no drift. -/
theorem compareDeclared_or (field : String) (desired actual : Option String) :
    Drift.compareDeclared field desired (desired.or actual) = [] := by
  refine Drift.compareDeclared_eq_nil_iff.mpr fun value hvalue => ?_
  rw [Option.mem_def.mp hvalue]
  rfl

/-- A declared value that was set over another one has no drift. -/
theorem compareDeclared_getD (field : String) (desired : Option String) (actual : String) :
    Drift.compareDeclared field desired (some (desired.getD actual)) = [] := by
  have hor := compareDeclared_or field desired (some actual)
  rwa [Option.or_some] at hor

/-- A list that is replaced where its members differ has the desired ones then. -/
theorem ascending_replaced (desired actual : List String) :
    Drift.ascending desired = Drift.ascending
      (if Drift.ascending desired = Drift.ascending actual then actual else desired) := by
  split
  · next hsame => exact hsame
  · rfl

/-- A list of members that was replaced when it differed has no drift. -/
theorem compareMembers_replaced (field : String) (desired actual : List String) :
    Drift.compareMembers field desired
      (if Drift.ascending desired = Drift.ascending actual then actual else desired) = [] :=
  Drift.compareMembers_eq_nil_iff.mpr (ascending_replaced desired actual)

end Adapter

/-! ## One resource after an update -/

namespace Simulator

open Adapter

/-- A resource once the request of an update was carried out, if there is one. -/
def updated (kind : ResourceKind) (existing : kind.Snapshot) (spec : kind.Spec) :
    kind.Snapshot :=
  match Adapter.change? kind existing spec with
  | none => existing
  | some change => changed kind existing change

/-- An update that asks for a change makes the change. -/
theorem updated_of_some {kind : ResourceKind} {existing : kind.Snapshot} {spec : kind.Spec}
    {change : kind.Change} (h : Adapter.change? kind existing spec = some change) :
    updated kind existing spec = changed kind existing change := by
  rw [updated, h]

/-- The simulator carries out the change that an update asks for, if the resource is settled. -/
theorem runWith_update_of_settled {config : SimulatorConfig} (hlive : config.dryRun = false)
    {tables : Tables} {kind : ResourceKind} {existing resource : kind.Snapshot}
    {spec : kind.Spec} {change : kind.Change}
    (hchange : Adapter.change? kind existing spec = some change)
    (hthere : tables.find? kind (kind.identifier spec) = some (resource, .settled)) :
    ∃ after, (update kind existing spec).runWith (provider config) (.calm tables) =
        (.ok (), .calm after) ∧
      after.find? kind (kind.identifier spec) =
        some (changed kind resource change, changedPhase config kind) := by
  have hname := changedIdentifier_of_change? kind spec hchange
  rw [← hname] at hthere ⊢
  obtain ⟨reply, hreply⟩ := exists_reply_modify_of_settled hlive hthere
  have hmodified : serve config tables (.modify kind change) =
      (.ok reply, (serve config tables (.modify kind change)).2) := Prod.ext hreply rfl
  exact ⟨_, runWith_update_of_some hchange hmodified,
    find?_serve_modify_of_settled hlive hthere⟩

/-! ### Clusters -/

/-- An empty change leaves a cluster as it is. -/
theorem changedCluster_of_isEmpty {cluster : ClusterSnapshot} {change : ClusterChange}
    (h : change.isEmpty = true) : changedCluster cluster change = cluster := by
  simp only [ClusterChange.isEmpty, Bool.and_eq_true, Option.isNone_iff_eq_none] at h
  obtain ⟨⟨hversion, hsecurity⟩, hgroup⟩ := h
  rw [changedCluster, hversion, hsecurity, hgroup]
  rfl

/-- An update of a cluster makes the change that its spec asks for, even an empty one. -/
theorem updated_cluster (existing : ClusterSnapshot) (spec : ClusterSpec) :
    updated .cluster existing spec = changedCluster existing (clusterChange existing spec) := by
  by_cases hempty : (clusterChange existing spec).isEmpty = true
  · rw [changedCluster_of_isEmpty hempty]
    simp only [updated, Adapter.change?, hempty, if_true]
  · simp only [updated, Adapter.change?, hempty]
    rfl

/-- An updated cluster has what is declared and can be changed. -/
theorem updated_cluster_eq (existing : ClusterSnapshot) (spec : ClusterSpec) :
    updated .cluster existing spec =
      { existing with
        engineVersion := spec.engineVersion.getD existing.engineVersion
        securityGroups :=
          if Drift.ascending spec.securityGroups = Drift.ascending existing.securityGroups then
            existing.securityGroups
          else spec.securityGroups
        parameterGroup := spec.parameterGroup.or existing.parameterGroup } := by
  have hversion : (clusterChange existing spec).engineVersion.getD existing.engineVersion =
      spec.engineVersion.getD existing.engineVersion := getD_pending _ _
  have hgroup : (clusterChange existing spec).parameterGroup.or existing.parameterGroup =
      spec.parameterGroup.or existing.parameterGroup := or_pending _ _
  have hsecurity : (clusterChange existing spec).securityGroups.getD existing.securityGroups =
      if Drift.ascending spec.securityGroups = Drift.ascending existing.securityGroups then
        existing.securityGroups
      else spec.securityGroups :=
    apply_ite (fun groups : Option (List String) => groups.getD existing.securityGroups) _ _ _
  rw [updated_cluster, changedCluster, hversion, hgroup, hsecurity]

/-- After an update of a cluster only the drift of its fixed fields is left. -/
theorem drift_updated_cluster (existing : ClusterSnapshot) (spec : ClusterSpec) :
    Drift.ofCluster (updated .cluster existing spec) spec =
      (Drift.ofCluster existing spec).filter (·.isFixed .cluster) := by
  rw [updated_cluster_eq]
  simp only [Drift.ofCluster, List.filter_append, compareDeclared_getD, compareDeclared_or,
    compareMembers_replaced, Drift.filter_compareMembers]
  rw [Drift.filter_compare_of_fixed (by decide), Drift.filter_compare_of_fixed (by decide),
    Drift.filter_compareDeclared_of_free (by decide), Drift.filter_compare_of_fixed (by decide),
    Drift.filter_compareDeclared_of_fixed (by decide),
    Drift.filter_compareDeclared_of_free (by decide)]

/-- After an update of a cluster there is nothing more to ask for. -/
theorem change?_updated_cluster (existing : ClusterSnapshot) (spec : ClusterSpec) :
    Adapter.change? .cluster (updated .cluster existing spec) spec = none := by
  have hmembers := ascending_replaced spec.securityGroups existing.securityGroups
  rw [updated_cluster_eq]
  simp only [Adapter.change?, clusterChange, pending_getD, pending_or, if_pos hmembers]
  rfl

/-! ### Instances -/

/-- An empty change leaves an instance as it is. -/
theorem changedInstance_of_isEmpty {existing : InstanceSnapshot} {change : InstanceChange}
    (h : change.isEmpty = true) : changedInstance existing change = existing := by
  simp only [InstanceChange.isEmpty, Bool.and_eq_true, Option.isNone_iff_eq_none] at h
  obtain ⟨hclass, hgroup⟩ := h
  rw [changedInstance, hclass, hgroup]
  rfl

/-- An update of an instance makes the change that its spec asks for, even an empty one. -/
theorem updated_dbInstance (existing : InstanceSnapshot) (spec : InstanceSpec) :
    updated .dbInstance existing spec =
      changedInstance existing (instanceChange existing spec) := by
  by_cases hempty : (instanceChange existing spec).isEmpty = true
  · rw [changedInstance_of_isEmpty hempty]
    simp only [updated, Adapter.change?, hempty, if_true]
  · simp only [updated, Adapter.change?, hempty]
    rfl

/-- An updated instance has the declared class, and its parameter group where one is declared. -/
theorem updated_dbInstance_eq (existing : InstanceSnapshot) (spec : InstanceSpec) :
    updated .dbInstance existing spec =
      { existing with
        instanceClass := spec.instanceClass
        parameterGroup := spec.parameterGroup.or existing.parameterGroup } := by
  have hclass : (instanceChange existing spec).instanceClass.getD existing.instanceClass =
      spec.instanceClass := getD_pending (some spec.instanceClass) existing.instanceClass
  have hgroup : (instanceChange existing spec).parameterGroup.or existing.parameterGroup =
      spec.parameterGroup.or existing.parameterGroup := or_pending _ _
  rw [updated_dbInstance, changedInstance, hclass, hgroup]

/-- After an update of an instance only the drift of its fixed fields is left. -/
theorem drift_updated_dbInstance (existing : InstanceSnapshot) (spec : InstanceSpec) :
    Drift.ofInstance (updated .dbInstance existing spec) spec =
      (Drift.ofInstance existing spec).filter (·.isFixed .dbInstance) := by
  rw [updated_dbInstance_eq]
  simp only [Drift.ofInstance, List.filter_append, Drift.compare_self, compareDeclared_or]
  rw [Drift.filter_compare_of_fixed (by decide), Drift.filter_compare_of_fixed (by decide),
    Drift.filter_compare_of_fixed (by decide), Drift.filter_compare_of_free (by decide),
    Drift.filter_compareDeclared_of_free (by decide)]

/-- After an update of an instance there is nothing more to ask for. -/
theorem change?_updated_dbInstance (existing : InstanceSnapshot) (spec : InstanceSpec) :
    Adapter.change? .dbInstance (updated .dbInstance existing spec) spec = none := by
  rw [updated_dbInstance_eq]
  have hclass : pending (some spec.instanceClass) (some spec.instanceClass) = none :=
    pending_or (some spec.instanceClass) none
  simp only [Adapter.change?, instanceChange, hclass, pending_or]
  rfl

/-! ### Subnet groups -/

/-- An updated subnet group has the description and the members of its spec, or has them as a
set already. -/
theorem drift_updated_subnetGroup (existing : SubnetGroupSnapshot) (spec : SubnetGroupSpec) :
    Drift.ofSubnetGroup (updated .subnetGroup existing spec) spec =
      (Drift.ofSubnetGroup existing spec).filter (·.isFixed .subnetGroup) := by
  by_cases hsame : Drift.ofSubnetGroup existing spec = []
  · have hkept : updated .subnetGroup existing spec = existing := by
      simp only [updated, Adapter.change?, hsame, List.isEmpty_nil, if_true]
    rw [hkept, hsame, List.filter_nil]
  · have hchanged : updated .subnetGroup existing spec =
        changedSubnetGroup existing spec.change := by
      simp only [updated, Adapter.change?, List.isEmpty_iff, hsame, if_false]
      rfl
    rw [hchanged]
    simp only [Drift.ofSubnetGroup, changedSubnetGroup, SubnetGroupSpec.change,
      List.filter_append, Drift.compare_self, Drift.compareMembers_self,
      Drift.filter_compareMembers]
    rw [Drift.filter_compare_of_fixed (by decide), Drift.filter_compare_of_free (by decide)]

/-- Only the name of a subnet group is fixed. -/
theorem filter_isFixed_subnetGroup {existing : SubnetGroupSnapshot} {spec : SubnetGroupSpec}
    (hname : existing.name = spec.name) :
    (Drift.ofSubnetGroup existing spec).filter (·.isFixed .subnetGroup) = [] := by
  simp only [Drift.ofSubnetGroup, List.filter_append, Drift.filter_compareMembers, hname,
    Drift.compare_self]
  rw [Drift.filter_compare_of_free (by decide)]
  rfl

/-- After an update of a subnet group there is nothing more to ask for. -/
theorem change?_updated_subnetGroup {existing : SubnetGroupSnapshot} {spec : SubnetGroupSpec}
    (hname : existing.name = spec.name) :
    Adapter.change? .subnetGroup (updated .subnetGroup existing spec) spec = none := by
  have hdrift : Drift.ofSubnetGroup (updated .subnetGroup existing spec) spec = [] :=
    (drift_updated_subnetGroup existing spec).trans (filter_isFixed_subnetGroup hname)
  simp only [Adapter.change?, hdrift, List.isEmpty_nil, if_true]

/-! ### The kinds that come into being with all that they declare -/

/-- After an update of any resource but a parameter group only the drift of its fixed fields is
left. -/
theorem drift_updated_of_not_createdBare {kind : ResourceKind}
    (hkind : createdBare kind = false) (existing : kind.Snapshot) (spec : kind.Spec) :
    Drift.of kind (updated kind existing spec) spec =
      (Drift.of kind existing spec).filter (·.isFixed kind) := by
  cases kind with
  | cluster => exact drift_updated_cluster existing spec
  | dbInstance => exact drift_updated_dbInstance existing spec
  | parameterGroup | clusterParameterGroup => cases hkind
  | subnetGroup => exact drift_updated_subnetGroup existing spec

/-- After an update of any resource but a parameter group there is nothing more to ask for. -/
theorem change?_updated_of_not_createdBare {kind : ResourceKind}
    (hkind : createdBare kind = false) {existing : kind.Snapshot} {spec : kind.Spec}
    (hname : carried kind existing = kind.identifier spec) :
    Adapter.change? kind (updated kind existing spec) spec = none := by
  cases kind with
  | cluster => exact change?_updated_cluster existing spec
  | dbInstance => exact change?_updated_dbInstance existing spec
  | parameterGroup | clusterParameterGroup => cases hkind
  | subnetGroup => exact change?_updated_subnetGroup hname

/-- An update of a cluster, an instance or a subnet group clears the drift of all that can be
changed: the lines about fixed fields are left, in their order. Where the resource carries the
identifier of the spec, a second update makes no call. -/
theorem update_clears {kind : ResourceKind} (hkind : createdBare kind = false)
    (existing : kind.Snapshot) (spec : kind.Spec) :
    Drift.of kind (updated kind existing spec) spec =
        (Drift.of kind existing spec).filter (·.isFixed kind) ∧
      (carried kind existing = kind.identifier spec →
        ∀ {σ : Type} (provider : Provider σ) (s : σ),
          (update kind (updated kind existing spec) spec).madeWith provider s = []) := by
  refine ⟨drift_updated_of_not_createdBare hkind existing spec, fun hname σ provider s => ?_⟩
  have hnothing := change?_updated_of_not_createdBare hkind hname
  rw [madeWith_update, hnothing]
  rfl

/-- A cluster of another engine than the spec, with drift in two fields that can be changed. -/
def strayed : ClusterSnapshot :=
  ⟨"db1", available, "aurora-postgresql", "15.4", "admin", ["sg-1"], none, none, none, none⟩

def strayedSpec : ClusterSpec :=
  ⟨"db1", "aurora-mysql", some "8.0", "admin", "secret", ["sg-1", "sg-1"], none, some "tuned"⟩

/-- After its update the strayed cluster differs in its engine only, and a second update asks for
nothing. -/
theorem update_clears_strayed :
    Drift.of .cluster (updated .cluster strayed strayedSpec) strayedSpec =
        [.value "engine" "aurora-mysql" "aurora-postgresql"] ∧
      ∀ {σ : Type} (provider : Provider σ) (s : σ),
        (update .cluster (updated .cluster strayed strayedSpec) strayedSpec).madeWith provider s =
          [] := by
  have hkind : createdBare .cluster = false := rfl
  have hclears := update_clears hkind strayed strayedSpec
  have hlines : (Drift.of .cluster strayed strayedSpec).filter (·.isFixed .cluster) =
      [.value "engine" "aurora-mysql" "aurora-postgresql"] := by
    decide
  exact ⟨hclears.1.trans hlines, hclears.2 rfl⟩

end Simulator

end Reconciler
