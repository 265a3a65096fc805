import Reconciler.Provider.Simulator

/-!
# Verdicts on writes

A write is judged by the tables and the request alone. Under all settings of the simulator it is
refused with one error, and then changes nothing, or it is accepted under all of them
(`judged_serve`); the settings decide only what becomes of a write that is accepted.
-/

set_option autoImplicit false

namespace Reconciler.Simulator

/-- A write, as it is under each of the settings: refused under all of them, or accepted under all
of them. -/
inductive Judged {α : Type} (tables : Tables) : (SimulatorConfig → Effect α) → Prop where
  | refused (error : Error) : Judged tables fun _ => refuse tables error
  | accepted (reply : SimulatorConfig → α) (after : SimulatorConfig → Tables) :
      Judged tables fun config => accept config tables (reply config) (after config)

namespace Judged

variable {α : Type} {tables : Tables} {write other : SimulatorConfig → Effect α}

/-- Writes that are judged are judged when a condition on the tables chooses between them. -/
theorem ite {p : Prop} [Decidable p] (hwrite : Judged tables write)
    (hother : Judged tables other) :
    Judged tables fun config => if p then write config else other config := by
  by_cases hp : p
  · simp only [if_pos hp]
    exact hwrite
  · simp only [if_neg hp]
    exact hother

/-- A write that fails changes nothing. -/
theorem tables_of_error (h : Judged tables write) {config : SimulatorConfig} {error : Error}
    (herror : (write config).1 = .error error) : (write config).2 = tables := by
  cases h with
  | refused => rfl
  | accepted => cases herror

/-- A write in dry-run mode changes nothing. -/
theorem tables_of_dryRun (h : Judged tables write) {config : SimulatorConfig}
    (hdry : config.dryRun = true) : (write config).2 = tables := by
  cases h with
  | refused => rfl
  | accepted => exact if_pos hdry

/-- A write that fails does so with the same error under all settings. -/
theorem error_iff (h : Judged tables write) (config other : SimulatorConfig) (error : Error) :
    (write config).1 = .error error ↔ (write other).1 = .error error := by
  cases h with
  | refused => rfl
  | accepted => simp [accept]

end Judged

variable (tables : Tables)

/-- The creation of a parameter group is judged. -/
theorem judged_createGroup (scope : Scope) (request : ParameterGroupCreation) :
    Judged tables fun config => createGroup config tables scope request :=
  .ite (.refused _) (.accepted _ _)

/-- Every creation is judged. -/
theorem judged_create (kind : ResourceKind) (request : kind.Creation) :
    Judged tables fun config => serve config tables (.create kind request) := by
  cases kind with
  | cluster =>
    simp only [serve, createCluster]
    cases clusterObstacle? tables request with
    | some obstacle => exact .refused _
    | none => exact .accepted _ _
  | dbInstance =>
    simp only [serve, createInstance]
    cases instanceObstacle? tables request with
    | some obstacle => exact .refused _
    | none => exact .accepted _ _
  | parameterGroup => exact judged_createGroup tables .ofInstances request
  | clusterParameterGroup => exact judged_createGroup tables .ofClusters request
  | subnetGroup => exact .ite (.refused _) (.ite (.refused _) (.accepted _ _))

/-- The change of a parameter group is judged. -/
theorem judged_modifyGroup (scope : Scope) (request : ParameterGroupChange) :
    Judged tables fun config => modifyGroup config tables scope request := by
  unfold modifyGroup
  cases (tables.groups scope)[request.name]? with
  | none => exact .refused _
  | some group => exact .accepted _ _

/-- Every change is judged. -/
theorem judged_modify (kind : ResourceKind) (request : kind.Change) :
    Judged tables fun config => serve config tables (.modify kind request) := by
  cases kind with
  | cluster =>
    simp only [serve, modifyCluster]
    cases tables.clusters[request.identifier]? with
    | none => exact .refused _
    | some tracked => exact .ite (.accepted _ _) (.refused _)
  | dbInstance =>
    simp only [serve, modifyInstance]
    cases tables.instances[request.identifier]? with
    | none => exact .refused _
    | some tracked => exact .ite (.accepted _ _) (.refused _)
  | parameterGroup => exact judged_modifyGroup tables .ofInstances request
  | clusterParameterGroup => exact judged_modifyGroup tables .ofClusters request
  | subnetGroup =>
    simp only [serve, modifySubnetGroup]
    cases tables.subnetGroups[request.name]? with
    | none => exact .refused _
    | some group => exact .accepted _ _

/-- The deletion of a parameter group is judged. -/
theorem judged_deleteGroup (scope : Scope) (name : String) :
    Judged tables fun config => deleteGroup config tables scope name :=
  .ite (.refused _) (.ite (.accepted _ _) (.refused _))

/-- Every deletion is judged. -/
theorem judged_delete (kind : ResourceKind) (identifier : String) :
    Judged tables fun config => serve config tables (.delete kind identifier) := by
  cases kind with
  | cluster =>
    refine .ite (.refused _) ?_
    cases tables.clusters[identifier]? with
    | none => exact .refused _
    | some tracked => exact .accepted _ _
  | dbInstance =>
    simp only [serve, deleteInstance]
    cases tables.instances[identifier]? with
    | none => exact .refused _
    | some tracked => exact .accepted _ _
  | parameterGroup => exact judged_deleteGroup tables .ofInstances identifier
  | clusterParameterGroup => exact judged_deleteGroup tables .ofClusters identifier
  | subnetGroup => exact .ite (.refused _) (.ite (.accepted _ _) (.refused _))

/-- Every write is refused under all settings or accepted under all of them. -/
theorem judged_serve {call : Call} (hwrite : call.isWrite = true) :
    Judged tables fun config => serve config tables call := by
  cases call with
  | describe kind identifier => cases hwrite
  | create kind request => exact judged_create tables kind request
  | modify kind request => exact judged_modify tables kind request
  | delete kind identifier => exact judged_delete tables kind identifier

end Reconciler.Simulator
