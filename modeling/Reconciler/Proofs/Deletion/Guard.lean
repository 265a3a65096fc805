import Reconciler.Engine.Deletion
import Reconciler.Proofs.Lifecycle.Pass

/-!
# When a deletion is blocked

`Blocks` states the dependency relation clause by clause: an object blocks a resource when it
declares the resource or when its spec names it. The guard finds no reason exactly when no
object blocks, and a pass over a deletion request asks the provider to delete at most the
target of the request, and only in the state in which the guard has just found nothing.
-/

set_option autoImplicit false

namespace Reconciler

/-- Whether an object keeps a resource from being deleted: it stands for the resource, or it is
an instance or a cluster whose spec names it. -/
inductive Blocks : Target → Declaration → Prop where
  | declared {object : Declaration} (kind : ResourceKind) (spec : kind.Spec)
      (h : object.manifest = .resource kind spec) : Blocks (kind, kind.identifier spec) object
  | instanceOf {object : Declaration} (spec : InstanceSpec)
      (h : object.manifest = .resource .dbInstance spec) : Blocks (.cluster, spec.cluster) object
  | instanceGroup {object : Declaration} (spec : InstanceSpec) (group : String)
      (h : object.manifest = .resource .dbInstance spec)
      (hgroup : spec.parameterGroup = some group) :
      Blocks (.parameterGroup, group) object
  | clusterGroup {object : Declaration} (spec : ClusterSpec) (group : String)
      (h : object.manifest = .resource .cluster spec) (hgroup : spec.parameterGroup = some group) :
      Blocks (.clusterParameterGroup, group) object
  | subnetGroup {object : Declaration} (spec : ClusterSpec) (group : String)
      (h : object.manifest = .resource .cluster spec) (hgroup : spec.subnetGroup = some group) :
      Blocks (.subnetGroup, group) object

/-- A declaration that manages a resource is one of a resource, with that identifier. -/
theorem Manifest.exists_of_manages? {manifest : Manifest} {target : Target}
    (h : manifest.manages? = some target) :
    ∃ kind spec, manifest = .resource kind spec ∧ (kind, kind.identifier spec) = target := by
  cases manifest with
  | deletion spec => cases h
  | resource kind spec => exact ⟨kind, spec, rfl, Option.some.inj h⟩

namespace Guard

/-- An object blocks a resource when it manages the resource or depends on it. -/
theorem blocks_iff (target : Target) (object : Declaration) :
    Blocks target object ↔
      object.manifest.manages? = some target ∨ target ∈ object.manifest.dependencies := by
  constructor
  · intro h
    cases h with
    | declared kind spec h => exact .inl (by rw [h]; rfl)
    | instanceOf spec h => exact .inr (by simp [h, Manifest.dependencies])
    | instanceGroup spec group h hgroup =>
      exact .inr (by simp [h, Manifest.dependencies, hgroup])
    | clusterGroup spec group h hgroup =>
      exact .inr (by simp [h, Manifest.dependencies, hgroup])
    | subnetGroup spec group h hgroup =>
      exact .inr (by simp [h, Manifest.dependencies, hgroup])
  · cases hmanifest : object.manifest with
    | deletion spec => simp [Manifest.manages?, Manifest.dependencies]
    | resource kind spec =>
      rintro (hmanages | hdepends)
      · simp only [Manifest.manages?, Option.some.injEq] at hmanages
        rw [← hmanages]
        exact .declared kind spec hmanifest
      · cases kind with
        | cluster =>
          simp only [Manifest.dependencies, List.mem_append, Option.mem_toList,
            Option.map_eq_some_iff] at hdepends
          rcases hdepends with ⟨group, hgroup, rfl⟩ | ⟨group, hgroup, rfl⟩
          · exact .clusterGroup spec group hmanifest hgroup
          · exact .subnetGroup spec group hmanifest hgroup
        | dbInstance =>
          simp only [Manifest.dependencies, List.mem_cons, Option.mem_toList,
            Option.map_eq_some_iff] at hdepends
          rcases hdepends with rfl | ⟨group, hgroup, rfl⟩
          · exact .instanceOf spec hmanifest
          · exact .instanceGroup spec group hmanifest hgroup
        | parameterGroup | clusterParameterGroup | subnetGroup =>
          simp [Manifest.dependencies] at hdepends

/-- A deletion request blocks nothing. -/
theorem not_blocks_of_deletion {target : Target} {object : Declaration} {spec : DeletionSpec}
    (h : object.manifest = .deletion spec) : ¬ Blocks target object := by
  rw [blocks_iff, h]
  simp [Manifest.manages?, Manifest.dependencies]

/-- An object gives no reason exactly when it does not block. -/
theorem blockersOf_eq_nil_iff (target : Target) (object : Declaration) :
    blockersOf target object = [] ↔ ¬ Blocks target object := by
  rw [blocks_iff, blockersOf, List.append_eq_nil_iff]
  by_cases hmanages : object.manifest.manages? = some target <;>
    by_cases hdepends : target ∈ object.manifest.dependencies <;>
    simp [hmanages, hdepends]

/-- There are no blockers exactly when no object blocks. -/
theorem blockers_eq_nil_iff (target : Target) (objects : List Declaration) :
    blockers target objects = [] ↔ ∀ object ∈ objects, ¬ Blocks target object := by
  simp only [blockers, List.flatMap_eq_nil_iff, blockersOf_eq_nil_iff]

/-- The guard lets a deletion through exactly when no object blocks it. -/
theorem check_eq_ok_iff (target : Target) (objects : List Declaration) :
    check target objects = .ok () ↔ ∀ object ∈ objects, ¬ Blocks target object := by
  rw [← blockers_eq_nil_iff, check]
  split <;> simp_all

/-- A refusal of the guard is told apart from every other error. -/
theorem isBlocked_of_check {target : Target} {objects : List Declaration} {error : Error}
    (h : check target objects = .error error) : error.isBlocked = true := by
  rw [check] at h
  split at h
  · simp at h
  · simp only [Except.error.injEq] at h
    rw [← h]
    rfl

end Guard

namespace Deletion

variable (config : EngineConfig) (spec : DeletionSpec) (objects : List Declaration)

/-- What a pass over a deletion request may ask of the provider: something about the target of
the request, and its deletion only for a created request that no object blocks. -/
def Permits (state : DeletionState) (call : Call) : Prop :=
  call.target = (spec.kind, spec.identifier) ∧
    (call.isDeletion = true → state = .created ∧
      ∀ object ∈ objects, ¬ Blocks (spec.kind, spec.identifier) object)

/-- Removing a resource that no object blocks is permitted of a created request. -/
theorem makes_remove {objects : List Declaration}
    (hfree : ∀ object ∈ objects, ¬ Blocks (spec.kind, spec.identifier) object) :
    ((Adapter.delete spec.kind spec.identifier).absentIsDone).Makes
      (Permits spec objects .created) :=
  (Calls.makes_perform ⟨rfl, fun _ => ⟨rfl, hfree⟩⟩).absentIsDone.absentIsDone

/-- A created request that the guard refuses fails without a call. -/
theorem pass_of_check_error {objects : List Declaration} {error : Error}
    (h : Guard.check (spec.kind, spec.identifier) objects = .error error) :
    pass allRemovers config spec .created objects = .done (.error (config.fail error)) := by
  simp only [pass, calls, h]
  rfl

/-- A pass over a deletion request asks no more than is permitted. -/
theorem asks_pass (state : DeletionState) :
    (pass allRemovers config spec state objects).Asks (Permits spec objects state) := by
  refine Pass.asks_ofCalls config ?_
  cases state with
  | noState => exact Calls.makes_pure _
  | completed => exact Calls.makes_pure _
  | created =>
    cases hcheck : Guard.check (spec.kind, spec.identifier) objects with
    | error error =>
      simp only [calls, hcheck]
      exact Calls.makes_throw error
    | ok _ =>
      have hfree := (Guard.check_eq_ok_iff _ _).mp hcheck
      simp only [calls, hcheck]
      refine Calls.Makes.pure_bind (Calls.Makes.pure_bind ?_)
      exact (makes_remove spec hfree).bind fun _ => Calls.makes_pure _
  | executing =>
    refine Calls.Makes.pure_bind ?_
    refine Calls.Makes.bind ?_ fun remains => by split <;> exact Calls.makes_pure _
    refine Calls.Makes.bind ?_ fun _ => Calls.makes_pure _
    exact (Calls.makes_perform ⟨rfl, fun h => by simp [Call.isDeletion] at h⟩).orAbsent

end Deletion

end Reconciler
