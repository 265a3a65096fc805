import Reconciler.Proofs.Update.Clearing

/-!
# Updates of parameter groups

An update of a parameter group sets the declared parameters that do not have their value, in
order. Afterwards every declared parameter has its value, provided that no name is declared with
two values (`Unambiguous`). A map cannot hold two values of one name, so a spec that asks for
them drifts after every update, and each update sends another change (`settles_iff_unambiguous`).
With this, one update clears what can be changed for every kind of resource.
-/

set_option autoImplicit false

namespace Reconciler

/-! ## The lines about parameters -/

/-- The line about a parameter is none about a fixed field, whatever the parameter is called. -/
theorem ResourceKind.parameter_notMem_fixedFields (kind : ResourceKind) (name : String) :
    s!"parameter {name}" ∉ kind.fixedFields := by
  intro hfixed
  have hothers : ∀ field ∈ kind.fixedFields, field.toList.head? ≠ some 'p' := by
    cases kind <;> decide
  refine hothers _ hfixed ?_
  show ("parameter " ++ name).toList.head? = some 'p'
  rw [String.toList_append]
  rfl

/-- No parameter is a fixed field. -/
theorem Drift.filter_compareParameter (kind : ResourceKind) (actual : ParameterMap)
    (desired : Parameter) :
    (compareParameter actual desired).filter (·.isFixed kind) = [] := by
  unfold compareParameter
  split
  · exact filter_compare_of_free (kind.parameter_notMem_fixedFields desired.name) _ _
  · rfl

/-- The lines of a parameter group about fixed fields. -/
theorem Drift.filter_ofParameterGroup (scope : Simulator.Scope)
    (existing : ParameterGroupSnapshot) (spec : ParameterGroupSpec) :
    (ofParameterGroup existing spec).filter (·.isFixed scope.kind) =
      compare "name" spec.name existing.name ++
        compare "family" spec.family existing.family ++
        compare "description" spec.description existing.description := by
  have hfixed : "name" ∈ scope.kind.fixedFields ∧ "family" ∈ scope.kind.fixedFields ∧
      "description" ∈ scope.kind.fixedFields := by
    cases scope <;> decide
  have hparameters : (spec.parameters.flatMap (compareParameter existing.parameters)).filter
      (·.isFixed scope.kind) = [] := by
    simp only [List.filter_flatMap, filter_compareParameter, List.flatMap_eq_nil_iff,
      implies_true]
  simp only [ofParameterGroup, List.filter_append, hparameters, filter_compare_of_fixed hfixed.1,
    filter_compare_of_fixed hfixed.2.1, filter_compare_of_fixed hfixed.2.2, List.append_nil]

namespace Simulator

open Adapter

/-! ## The values after a change -/

/-- A spec that asks for at most one value of a parameter. -/
def Unambiguous : (kind : ResourceKind) → kind.Spec → Prop
  | .parameterGroup, spec => Consistent spec.parameters
  | .clusterParameterGroup, spec => Consistent spec.parameters
  | _, _ => True

/-- Parameters that all have their value in one map are declared with one value each. -/
theorem consistent_of_getElem? {parameters : List Parameter} {map : ParameterMap}
    (h : ∀ parameter ∈ parameters, map[parameter.name]? = some parameter.value) :
    Consistent parameters := by
  intro p hp q hq hname
  have hsame : some p.value = some q.value := by
    rw [← h p hp, hname, h q hq]
  exact Option.some.inj hsame

/-- Once the changes were made, every declared parameter has its value: those that had another
one were set, and no other parameter of the same name was set to something else. -/
theorem getElem?_setParameters_parameterChanges {existing : ParameterGroupSnapshot}
    {spec : ParameterGroupSpec} (hconsistent : Consistent spec.parameters)
    {parameter : Parameter} (hdeclared : parameter ∈ spec.parameters) :
    (setParameters existing.parameters (parameterChanges existing spec))[parameter.name]? =
      some parameter.value := by
  have hchanges : ∀ p ∈ parameterChanges existing spec, p ∈ spec.parameters ∧
      existing.parameters[p.name]? ≠ some p.value := fun p hp => by
    simpa [parameterChanges] using hp
  by_cases hset : ∃ p ∈ parameterChanges existing spec, p.name = parameter.name
  · obtain ⟨p, hp, hname⟩ := hset
    have hvalue : p.value = parameter.value :=
      hconsistent p (hchanges p hp).1 parameter hdeclared hname
    have hsub : Consistent (parameterChanges existing spec) := fun a ha b hb =>
      hconsistent a (hchanges a ha).1 b (hchanges b hb).1
    rw [← hname, ← hvalue]
    exact getElem?_setParameters hsub hp _
  · have hunset : ∀ p ∈ parameterChanges existing spec, p.name ≠ parameter.name :=
      fun p hp hname => hset ⟨p, hp, hname⟩
    rw [getElem?_setParameters_of_ne hunset]
    refine Decidable.byContradiction fun hvalue => ?_
    have hpending : parameter ∈ parameterChanges existing spec := by
      simp [parameterChanges, hdeclared, hvalue]
    exact hunset parameter hpending rfl

/-! ## The group after an update -/

/-- A group with all that is pending set. -/
def updatedGroup (existing : ParameterGroupSnapshot) (spec : ParameterGroupSpec) :
    ParameterGroupSnapshot :=
  { existing with
    parameters := setParameters existing.parameters (parameterChanges existing spec) }

/-- An update that sets nothing and one that makes no call come to the same. -/
theorem updated_parameterGroup (existing : ParameterGroupSnapshot) (spec : ParameterGroupSpec) :
    updated .parameterGroup existing spec = updatedGroup existing spec := by
  simp only [updated, Adapter.change?, groupChange?, updatedGroup]
  cases parameterChanges existing spec <;> rfl

/-- An update of a cluster parameter group sets what is pending. -/
theorem updated_clusterParameterGroup (existing : ParameterGroupSnapshot)
    (spec : ParameterGroupSpec) :
    updated .clusterParameterGroup existing spec = updatedGroup existing spec := by
  simp only [updated, Adapter.change?, groupChange?, updatedGroup]
  cases parameterChanges existing spec <;> rfl

/-- After an update every declared parameter has its value exactly when none is declared with
two. -/
theorem getElem?_updatedGroup_iff (existing : ParameterGroupSnapshot)
    (spec : ParameterGroupSpec) :
    (∀ parameter ∈ spec.parameters,
        (updatedGroup existing spec).parameters[parameter.name]? = some parameter.value) ↔
      Consistent spec.parameters := by
  constructor
  · intro h
    exact consistent_of_getElem? h
  · intro hconsistent parameter hdeclared
    exact getElem?_setParameters_parameterChanges hconsistent hdeclared

/-- The drift of a parameter group is cleared exactly when none of its parameters is declared with
two values. -/
theorem drift_updatedGroup_iff (scope : Scope) (existing : ParameterGroupSnapshot)
    (spec : ParameterGroupSpec) :
    Drift.ofParameterGroup (updatedGroup existing spec) spec =
        (Drift.ofParameterGroup existing spec).filter (·.isFixed scope.kind) ↔
      Consistent spec.parameters := by
  rw [Drift.filter_ofParameterGroup, Drift.ofParameterGroup]
  refine Iff.trans ?_ (getElem?_updatedGroup_iff existing spec)
  rw [← Drift.flatMap_compareParameter_eq_nil_iff]
  exact List.append_right_eq_self

/-- A second update of a parameter group asks for nothing exactly when none of its parameters is
declared with two values. -/
theorem groupChange?_updatedGroup_iff (existing : ParameterGroupSnapshot)
    (spec : ParameterGroupSpec) :
    groupChange? (updatedGroup existing spec) spec = none ↔ Consistent spec.parameters := by
  have hnothing : groupChange? (updatedGroup existing spec) spec = none ↔
      parameterChanges (updatedGroup existing spec) spec = [] := by
    unfold groupChange?
    cases parameterChanges (updatedGroup existing spec) spec <;> simp
  rw [hnothing, ← getElem?_updatedGroup_iff existing, parameterChanges, List.filter_eq_nil_iff]
  simp only [decide_eq_true_eq, Decidable.not_not]

/-! ### Both scopes -/

/-- An update clears the drift of a group in either scope exactly when its spec is unambiguous. -/
theorem drift_updated_iff {kind : ResourceKind} (hkind : createdBare kind = true)
    (existing : kind.Snapshot) (spec : kind.Spec) :
    Drift.of kind (updated kind existing spec) spec =
        (Drift.of kind existing spec).filter (·.isFixed kind) ↔
      Unambiguous kind spec := by
  cases kind with
  | cluster | dbInstance | subnetGroup => cases hkind
  | parameterGroup =>
    rw [updated_parameterGroup]
    exact drift_updatedGroup_iff .ofInstances existing spec
  | clusterParameterGroup =>
    rw [updated_clusterParameterGroup]
    exact drift_updatedGroup_iff .ofClusters existing spec

/-- A second update of a group in either scope asks for nothing exactly when its spec is
unambiguous. -/
theorem change?_updated_iff {kind : ResourceKind} (hkind : createdBare kind = true)
    (existing : kind.Snapshot) (spec : kind.Spec) :
    Adapter.change? kind (updated kind existing spec) spec = none ↔ Unambiguous kind spec := by
  cases kind with
  | cluster | dbInstance | subnetGroup => cases hkind
  | parameterGroup =>
    rw [updated_parameterGroup]
    exact groupChange?_updatedGroup_iff existing spec
  | clusterParameterGroup =>
    rw [updated_clusterParameterGroup]
    exact groupChange?_updatedGroup_iff existing spec

/-- After an update of a parameter group no line about a parameter is left, and a second update
makes no call, exactly when the spec asks for at most one value of each parameter. The lines
about fixed fields are left in any case. -/
theorem settles_iff_unambiguous (scope : Scope) (existing : scope.kind.Snapshot)
    (spec : scope.kind.Spec) :
    (Drift.of scope.kind (updated scope.kind existing spec) spec =
        (Drift.of scope.kind existing spec).filter (·.isFixed scope.kind) ↔
      Unambiguous scope.kind spec) ∧
    ∀ {σ : Type} (provider : Provider σ) (s : σ),
      (update scope.kind (updated scope.kind existing spec) spec).madeWith provider s = [] ↔
        Unambiguous scope.kind spec := by
  have hkind : createdBare scope.kind = true := by cases scope <;> rfl
  refine ⟨drift_updated_iff hkind existing spec, fun provider s => ?_⟩
  rw [madeWith_update, List.map_eq_nil_iff, Option.toList_eq_nil_iff]
  exact change?_updated_iff hkind existing spec

/-- A group without parameters, and a spec that asks for two values of one. -/
def untuned : ParameterGroupSnapshot :=
  ⟨"tuned", "aurora-mysql8.0", "", ∅⟩

def contested : ParameterGroupSpec :=
  ⟨"tuned", "aurora-mysql8.0", "", [⟨"work_mem", "8192"⟩, ⟨"work_mem", "4096"⟩]⟩

/-- The first of two values is missed after every update, and the next update asks for it. -/
theorem updated_untuned_contested :
    Drift.of .parameterGroup (updated .parameterGroup untuned contested) contested =
        [.value "parameter work_mem" "8192" "4096"] ∧
      (update .parameterGroup (updated .parameterGroup untuned contested) contested).madeWith
          (provider .default) .fresh =
        [.modify .parameterGroup ⟨"tuned", [⟨"work_mem", "8192"⟩]⟩] := by
  constructor
  · rfl
  · rfl

/-! ## Every kind -/

/-- One update clears the drift of all that can be changed, unless a spec contradicts itself. -/
theorem drift_updated {kind : ResourceKind} {spec : kind.Spec} (h : Unambiguous kind spec)
    (existing : kind.Snapshot) :
    Drift.of kind (updated kind existing spec) spec =
      (Drift.of kind existing spec).filter (·.isFixed kind) := by
  cases hkind : createdBare kind with
  | false => exact drift_updated_of_not_createdBare hkind existing spec
  | true => exact (drift_updated_iff hkind existing spec).mpr h

/-- Where all that drifts can be changed, an update sends a request that clears it. -/
theorem exists_change?_of_drift {kind : ResourceKind} {existing : kind.Snapshot}
    {spec : kind.Spec} (h : Unambiguous kind spec) (hdrift : Drift.of kind existing spec ≠ [])
    (hfree : ∀ mismatch ∈ Drift.of kind existing spec, mismatch.isFixed kind = false) :
    ∃ change, Adapter.change? kind existing spec = some change ∧
      Drift.of kind (changed kind existing change) spec = [] := by
  have hcleared : Drift.of kind (updated kind existing spec) spec = [] := by
    rw [drift_updated h, List.filter_eq_nil_iff]
    intro mismatch hmismatch
    simp [hfree mismatch hmismatch]
  cases hchange : Adapter.change? kind existing spec with
  | none =>
    have hkept : updated kind existing spec = existing := by rw [updated, hchange]
    rw [hkept] at hcleared
    exact absurd hcleared hdrift
  | some change =>
    rw [updated_of_some hchange] at hcleared
    exact ⟨change, rfl, hcleared⟩

end Simulator

end Reconciler
