import Reconciler.Proofs.Calls
import Reconciler.Proofs.Simulator.Lookup

/-!
# Building at the simulator

What the simulator makes of a spec. A resource is created as soon as what it needs is there
(`Supplied`), it is seen settled after a known number of looks, and what has been built has no
drift from its spec.
-/

set_option autoImplicit false

namespace Reconciler.Simulator

/-! ## Phases -/

/-- The number of looks after which a resource is seen settled, unless it is going away. -/
def Phase.settlesIn? : Phase → Option Nat
  | .settled => some 1
  | .creating left => some (max left 1)
  | .modifying left => some (max left 1)
  | .deleting _ => none

/-- A look settles a resource or brings it closer to that. -/
theorem Phase.look_of_settlesIn {phase : Phase} {looks : Nat}
    (h : phase.settlesIn? = some looks) :
    1 ≤ looks ∧ ∃ next, phase.look = some next ∧
      (next = .settled ∨ ∃ fewer, next.settlesIn? = some fewer ∧ fewer + 1 ≤ looks) := by
  cases phase with
  | settled =>
    cases h
    exact ⟨Nat.le_refl 1, .settled, rfl, .inl rfl⟩
  | deleting left => cases h
  | creating left =>
    cases h
    refine ⟨by omega, ?_⟩
    by_cases hlast : left ≤ 1
    · exact ⟨.settled, by simp [look, hlast], .inl rfl⟩
    · refine ⟨.creating (left - 1), by simp [look, hlast], .inr ⟨max (left - 1) 1, rfl, ?_⟩⟩
      omega
  | modifying left =>
    cases h
    refine ⟨by omega, ?_⟩
    by_cases hlast : left ≤ 1
    · exact ⟨.settled, by simp [look, hlast], .inl rfl⟩
    · refine ⟨.modifying (left - 1), by simp [look, hlast], .inr ⟨max (left - 1) 1, rfl, ?_⟩⟩
      omega

/-- A resource shows that it is available exactly when it is settled. -/
theorem Phase.text_eq_available_iff (phase : Phase) :
    phase.text = available ↔ phase = .settled := by
  cases phase <;> simp [text, available]

variable (config : SimulatorConfig)

def firstPhase : ResourceKind → Phase
  | .cluster => .creating config.readyAfter.toNat
  | .dbInstance => .creating config.readyAfter.toNat
  | _ => .settled

/-- A new resource is seen settled after as many looks as are set, and after one at least. -/
theorem settlesIn_firstPhase (kind : ResourceKind) :
    ∃ looks, (firstPhase config kind).settlesIn? = some looks ∧
      looks ≤ max 1 config.readyAfter.toNat := by
  cases kind with
  | cluster | dbInstance => exact ⟨max config.readyAfter.toNat 1, rfl, by omega⟩
  | parameterGroup | clusterParameterGroup | subnetGroup => exact ⟨1, rfl, by omega⟩

/-! ## Looking at a resource -/

/-- What is shown of a resource in a phase. -/
def shown : (kind : ResourceKind) → kind.Snapshot → Phase → kind.Snapshot
  | .cluster, resource, phase => { resource with status := phase.text }
  | .dbInstance, resource, phase => { resource with status := phase.text }
  | .parameterGroup, resource, _ => resource
  | .clusterParameterGroup, resource, _ => resource
  | .subnetGroup, resource, _ => resource

/-- The phase of a resource is no part of its attributes. -/
@[simp]
theorem attributes_shown (kind : ResourceKind) (resource : kind.Snapshot) (phase : Phase) :
    Adapter.attributes kind (shown kind resource phase) = Adapter.attributes kind resource := by
  cases kind <;> rfl

/-- The phase of a resource is no part of its spec. -/
@[simp]
theorem drift_shown (kind : ResourceKind) (resource : kind.Snapshot) (phase : Phase)
    (spec : kind.Spec) : Drift.of kind (shown kind resource phase) spec =
      Drift.of kind resource spec := by
  cases kind <;> rfl

/-- The phase of a resource is no drift. -/
@[simp]
theorem change?_shown (kind : ResourceKind) (resource : kind.Snapshot) (phase : Phase)
    (spec : kind.Spec) : Adapter.change? kind (shown kind resource phase) spec =
      Adapter.change? kind resource spec := by
  cases kind <;> rfl

variable {config} {tables : Tables} {kind : ResourceKind} {identifier : String}

/-- What is not there is not found, and looking for it changes nothing. -/
theorem serve_describe_of_none (h : tables.find? kind identifier = none) :
    ∃ error, error.isNotFound = true ∧
      serve config tables (.describe kind identifier) = (.error error, tables) := by
  cases kind with
  | cluster =>
    have habsent : tables.clusters[identifier]? = none := Option.map_eq_none_iff.mp h
    exact ⟨_, rfl, by simp only [serve, describeCluster, habsent]; rfl⟩
  | dbInstance =>
    have habsent : tables.instances[identifier]? = none := Option.map_eq_none_iff.mp h
    exact ⟨_, rfl, by simp only [serve, describeInstance, habsent]; rfl⟩
  | parameterGroup =>
    have habsent : (tables.groups .ofInstances)[identifier]? = none :=
      Option.map_eq_none_iff.mp h
    exact ⟨_, rfl, by simp only [serve, describeGroup, habsent]; rfl⟩
  | clusterParameterGroup =>
    have habsent : (tables.groups .ofClusters)[identifier]? = none :=
      Option.map_eq_none_iff.mp h
    exact ⟨_, rfl, by simp only [serve, describeGroup, habsent]; rfl⟩
  | subnetGroup =>
    have habsent : tables.subnetGroups[identifier]? = none := Option.map_eq_none_iff.mp h
    exact ⟨_, rfl, by simp only [serve, describeSubnetGroup, habsent]; rfl⟩

/-- A look shows a resource in its next phase, in which it is from then on. -/
theorem serve_describe_of_some {resource : kind.Snapshot} {phase next : Phase}
    (h : tables.find? kind identifier = some (resource, phase))
    (hlook : phase.look = some next) :
    ∃ after, serve config tables (.describe kind identifier) =
        (.ok (shown kind resource next), after) ∧
      after.find? kind identifier = some (resource, next) := by
  cases kind with
  | cluster =>
    obtain ⟨tracked, htracked, heq⟩ := Option.map_eq_some_iff.mp h
    cases heq
    refine ⟨tables.putCluster identifier tracked.resource next, ?_, ?_⟩
    · simp only [serve, describeCluster, htracked, hlook]
      rfl
    · simp [Tables.find?, Tables.putCluster]
  | dbInstance =>
    obtain ⟨tracked, htracked, heq⟩ := Option.map_eq_some_iff.mp h
    cases heq
    refine ⟨tables.putInstance identifier tracked.resource next, ?_, ?_⟩
    · simp only [serve, describeInstance, htracked, hlook]
      rfl
    · simp [Tables.find?, Tables.putInstance]
  | parameterGroup =>
    obtain ⟨group, hgroup, heq⟩ := Option.map_eq_some_iff.mp h
    cases heq
    cases hlook
    have hthere : (tables.groups .ofInstances)[identifier]? = some resource := hgroup
    exact ⟨tables, by simp only [serve, describeGroup, hthere]; rfl, h⟩
  | clusterParameterGroup =>
    obtain ⟨group, hgroup, heq⟩ := Option.map_eq_some_iff.mp h
    cases heq
    cases hlook
    have hthere : (tables.groups .ofClusters)[identifier]? = some resource := hgroup
    exact ⟨tables, by simp only [serve, describeGroup, hthere]; rfl, h⟩
  | subnetGroup =>
    obtain ⟨group, hgroup, heq⟩ := Option.map_eq_some_iff.mp h
    cases heq
    cases hlook
    exact ⟨tables, by simp only [serve, describeSubnetGroup, hgroup]; rfl, h⟩

/-- A resource is shown ready exactly when it is settled. -/
theorem isReady_shown_iff {resource : kind.Snapshot} {phase next : Phase}
    (h : tables.find? kind identifier = some (resource, phase))
    (hlook : phase.look = some next) :
    Adapter.isReady kind (shown kind resource next) = true ↔ next = .settled := by
  cases kind with
  | cluster | dbInstance =>
    rw [← Phase.text_eq_available_iff]
    exact decide_eq_true_iff
  | parameterGroup | clusterParameterGroup | subnetGroup =>
    obtain ⟨group, hgroup, heq⟩ := Option.map_eq_some_iff.mp h
    cases heq
    cases hlook
    exact iff_of_true rfl rfl

end Reconciler.Simulator
