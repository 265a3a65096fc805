import Reconciler.Proofs.Calls
import Reconciler.Proofs.Drift
import Reconciler.Provider.Simulator

/-!
# Updates where nothing drifts

Drift and updates compare a resource with its spec in two separate ways. They agree that there is
nothing to do except in one corner: a spec that declares a parameter group with the empty name,
and a resource that has no parameter group. Drift reads the absent group as the empty name and
sees no difference, an update sees one. Where nothing drifts, the request for the empty name is
therefore all that an update ever sends (`madeWith_update_of_no_drift`).
-/

set_option autoImplicit false

namespace Reconciler.Adapter

/-! ## The same fields, compared twice -/

/-- The empty name, where it is declared and the actual value is absent. -/
def blank (desired actual : Option String) : Option String :=
  if desired = some "" ∧ actual = none then some "" else none

/-- Where there is an actual value, the empty name is not set. -/
theorem blank_some (desired : Option String) (actual : String) :
    blank desired (some actual) = none :=
  if_neg fun h => Option.some_ne_none actual h.2

/-- A declared value that does not drift is pending only as the empty name of something absent. -/
theorem pending_of_no_drift {field : String} {desired actual : Option String}
    (h : Drift.compareDeclared field desired actual = []) :
    pending desired actual = blank desired actual := by
  have hsame : ∀ value ∈ desired, value = actual.getD "" := Drift.compareDeclared_eq_nil_iff.mp h
  cases desired with
  | none => rfl
  | some value =>
    cases actual with
    | none =>
      have hempty : value = "" := hsame value rfl
      rw [hempty]
      rfl
    | some actual =>
      have hvalue : value = actual := hsame value rfl
      rw [hvalue, blank_some]
      simp [pending]

/-- In a field that is never absent, a declared value that does not drift is not pending. -/
theorem pending_some_of_no_drift {field : String} {desired : Option String} {actual : String}
    (h : Drift.compareDeclared field desired (some actual) = []) :
    pending desired (some actual) = none := by
  rw [pending_of_no_drift h, blank_some]

/-- A parameter group without drift lacks no parameters. -/
theorem parameterChanges_of_no_drift {existing : ParameterGroupSnapshot}
    {spec : ParameterGroupSpec}
    (h : spec.parameters.flatMap (Drift.compareParameter existing.parameters) = []) :
    parameterChanges existing spec = [] := by
  have hset := Drift.flatMap_compareParameter_eq_nil_iff.mp h
  refine List.filter_eq_nil_iff.mpr fun parameter hparameter => ?_
  simp [hset parameter hparameter]

/-! ## The same resources, compared twice -/

/-- The request that an update sends though nothing drifts: it sets the empty name for a
parameter group that is declared under this name and that the resource does not have. -/
def blankChange? : (kind : ResourceKind) → kind.Snapshot → kind.Spec → Option kind.Change
  | .cluster, existing, spec =>
    (blank spec.parameterGroup existing.parameterGroup).map fun name =>
      ⟨spec.id, none, none, some name⟩
  | .dbInstance, existing, spec =>
    (blank spec.parameterGroup existing.parameterGroup).map fun name =>
      ⟨spec.id, none, some name⟩
  | _, _, _ => none

/-- A cluster without drift is asked at most for the empty name of its parameter group. -/
theorem clusterChange_of_no_drift {existing : ClusterSnapshot} {spec : ClusterSpec}
    (h : Drift.ofCluster existing spec = []) :
    clusterChange existing spec =
      ⟨spec.id, none, none, blank spec.parameterGroup existing.parameterGroup⟩ := by
  simp only [Drift.ofCluster, List.append_eq_nil_iff] at h
  obtain ⟨⟨⟨⟨⟨⟨-, -⟩, hversion⟩, -⟩, hsecurity⟩, -⟩, hgroup⟩ := h
  have hmembers : Drift.ascending spec.securityGroups = Drift.ascending existing.securityGroups :=
    Drift.compareMembers_eq_nil_iff.mp hsecurity
  rw [clusterChange, pending_some_of_no_drift hversion, if_pos hmembers, pending_of_no_drift hgroup]

/-- An instance without drift is asked at most for the empty name of its parameter group. -/
theorem instanceChange_of_no_drift {existing : InstanceSnapshot} {spec : InstanceSpec}
    (h : Drift.ofInstance existing spec = []) :
    instanceChange existing spec =
      ⟨spec.id, none, blank spec.parameterGroup existing.parameterGroup⟩ := by
  simp only [Drift.ofInstance, List.append_eq_nil_iff] at h
  obtain ⟨⟨⟨-, -⟩, hclass⟩, hgroup⟩ := h
  have hdeclared : Drift.compareDeclared "instance_class" (some spec.instanceClass)
      (some existing.instanceClass) = [] := hclass
  rw [instanceChange, pending_some_of_no_drift hdeclared, pending_of_no_drift hgroup]

/-- A parameter group without drift is asked for nothing. -/
theorem groupChange?_of_no_drift {existing : ParameterGroupSnapshot} {spec : ParameterGroupSpec}
    (h : Drift.ofParameterGroup existing spec = []) : groupChange? existing spec = none := by
  have hparameters := (List.append_eq_nil_iff.mp h).2
  rw [groupChange?, parameterChanges_of_no_drift hparameters]

/-- What an update asks for where nothing drifts. -/
theorem change?_of_no_drift {kind : ResourceKind} {existing : kind.Snapshot} {spec : kind.Spec}
    (h : Drift.of kind existing spec = []) :
    change? kind existing spec = blankChange? kind existing spec := by
  cases kind with
  | cluster =>
    simp only [change?, blankChange?, clusterChange_of_no_drift h]
    cases blank spec.parameterGroup existing.parameterGroup <;> rfl
  | dbInstance =>
    simp only [change?, blankChange?, instanceChange_of_no_drift h]
    cases blank spec.parameterGroup existing.parameterGroup <;> rfl
  | parameterGroup => exact groupChange?_of_no_drift h
  | clusterParameterGroup => exact groupChange?_of_no_drift h
  | subnetGroup =>
    have hempty : (Drift.ofSubnetGroup existing spec).isEmpty = true := List.isEmpty_iff.mpr h
    exact if_pos hempty

/-! ## The calls of an update -/

/-- Where nothing drifts, an update makes no call, unless the spec declares the empty name for a
parameter group that the resource does not have: then it makes the one call that sets it. -/
theorem madeWith_update_of_no_drift {σ : Type} (provider : Provider σ) (s : σ)
    {kind : ResourceKind} {existing : kind.Snapshot} {spec : kind.Spec}
    (h : Drift.of kind existing spec = []) :
    (update kind existing spec).madeWith provider s =
      (blankChange? kind existing spec).toList.map (Call.modify kind) := by
  rw [madeWith_update, change?_of_no_drift h]

/-- A cluster without a parameter group. -/
def ungrouped : ClusterSnapshot :=
  ⟨"db1", available, "aurora-mysql", "8.0", "admin", [], none, none, none, none⟩

/-- A spec that declares a parameter group with the empty name. -/
def blankSpec : ClusterSpec :=
  ⟨"db1", "aurora-mysql", none, "admin", "secret", [], none, some ""⟩

/-- The cluster without a parameter group has no drift, and its update sets the empty name all the
same. -/
theorem madeWith_update_of_no_drift_ungrouped :
    Drift.of .cluster ungrouped blankSpec = [] ∧
      (update .cluster ungrouped blankSpec).madeWith (Simulator.provider .default) .fresh =
        [.modify .cluster ⟨"db1", none, none, some ""⟩] := by
  have hsame : Drift.of .cluster ungrouped blankSpec = [] := by
    simp [Drift.of, Drift.ofCluster, ungrouped, blankSpec, Drift.compareMembers_self,
      Drift.compare_self, Drift.compareDeclared]
  exact ⟨hsame, madeWith_update_of_no_drift (Simulator.provider .default) .fresh hsame⟩

end Reconciler.Adapter
