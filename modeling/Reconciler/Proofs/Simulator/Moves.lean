import Reconciler.Proofs.Lifecycle.Pass
import Reconciler.Proofs.Simulator.Removal
import Reconciler.Proofs.Simulator.Verdict

/-!
# What a call does to one resource

A call that is served leaves the entry of a resource as it is or moves it in one of a few ways
(`Moves`): a look brings it closer to being settled or gone, a creation puts it in, a change
needs it settled, and a deletion needs it free. Every call is one of these for every resource
(`moves_serve`), so an invariant of the tables is a case analysis over moves.
-/

set_option autoImplicit false

namespace Reconciler.Simulator

variable {config : SimulatorConfig} {tables : Tables} {kind : ResourceKind} {identifier : String}

/-! ## Changes -/

/-- A resource after a change was accepted. -/
def changed : (kind : ResourceKind) → kind.Snapshot → kind.Change → kind.Snapshot
  | .cluster, cluster, request => changedCluster cluster request
  | .dbInstance, existing, request => changedInstance existing request
  | .parameterGroup, group, request =>
    { group with parameters := setParameters group.parameters request.parameters }
  | .clusterParameterGroup, group, request =>
    { group with parameters := setParameters group.parameters request.parameters }
  | .subnetGroup, group, request => changedSubnetGroup group request

def changedPhase (config : SimulatorConfig) : ResourceKind → Phase
  | .cluster => .modifying config.readyAfter.toNat
  | .dbInstance => .modifying config.readyAfter.toNat
  | _ => .settled

/-- A changed resource is seen settled after as many looks as are set, and after one at least. -/
theorem settlesIn_changedPhase (config : SimulatorConfig) (kind : ResourceKind) :
    ∃ looks, (changedPhase config kind).settlesIn? = some looks ∧
      looks ≤ max 1 config.readyAfter.toNat := by
  cases kind with
  | cluster | dbInstance => exact ⟨max config.readyAfter.toNat 1, rfl, by omega⟩
  | parameterGroup | clusterParameterGroup | subnetGroup => exact ⟨1, rfl, by omega⟩

/-- What is not settled is not changed. -/
theorem serve_modify_refused {request : kind.Change}
    (h : ∀ resource, tables.find? kind (kind.changedIdentifier request) ≠
      some (resource, .settled)) :
    ∃ error, serve config tables (.modify kind request) = (.error error, tables) := by
  cases kind with
  | cluster | dbInstance =>
    simp only [serve, modifyCluster, modifyInstance]
    split
    · exact ⟨_, rfl⟩
    · next tracked htracked =>
      split
      · next hsettled =>
        refine absurd (Option.map_eq_some_iff.mpr ⟨tracked, htracked, ?_⟩) (h tracked.resource)
        rw [hsettled]
      · exact ⟨_, rfl⟩
  | parameterGroup | clusterParameterGroup | subnetGroup =>
    simp only [serve, modifyGroup, modifySubnetGroup]
    split
    · exact ⟨_, rfl⟩
    · next group hgroup =>
      exact absurd (Option.map_eq_some_iff.mpr ⟨group, hgroup, rfl⟩) (h group)

/-- A settled resource is found changed after a live change. -/
theorem find?_serve_modify_of_settled (hlive : config.dryRun = false) {request : kind.Change}
    {resource : kind.Snapshot}
    (h : tables.find? kind (kind.changedIdentifier request) = some (resource, .settled)) :
    (serve config tables (.modify kind request)).2.find? kind (kind.changedIdentifier request) =
      some (changed kind resource request, changedPhase config kind) := by
  cases kind with
  | cluster =>
    obtain ⟨tracked, htracked, heq⟩ := Option.map_eq_some_iff.mp h
    obtain ⟨rfl, hsettled⟩ := Prod.mk.inj heq
    have hthere : tables.clusters[request.identifier]? = some tracked := htracked
    simp [serve, modifyCluster, hthere, hsettled, accept_live hlive, Tables.find?,
      Tables.putCluster, ResourceKind.changedIdentifier, changed, changedPhase]
  | dbInstance =>
    obtain ⟨tracked, htracked, heq⟩ := Option.map_eq_some_iff.mp h
    obtain ⟨rfl, hsettled⟩ := Prod.mk.inj heq
    have hthere : tables.instances[request.identifier]? = some tracked := htracked
    simp [serve, modifyInstance, hthere, hsettled, accept_live hlive, Tables.find?,
      Tables.putInstance, ResourceKind.changedIdentifier, changed, changedPhase]
  | parameterGroup =>
    obtain ⟨group, hgroup, heq⟩ := Option.map_eq_some_iff.mp h
    cases heq
    simp only [serve, modifyGroup_of_some hlive .ofInstances request hgroup]
    simp [Tables.find?, Tables.withGroups, ResourceKind.changedIdentifier, changed, changedPhase]
  | clusterParameterGroup =>
    obtain ⟨group, hgroup, heq⟩ := Option.map_eq_some_iff.mp h
    cases heq
    simp only [serve, modifyGroup_of_some hlive .ofClusters request hgroup]
    simp [Tables.find?, Tables.withGroups, ResourceKind.changedIdentifier, changed, changedPhase]
  | subnetGroup =>
    obtain ⟨group, hgroup, heq⟩ := Option.map_eq_some_iff.mp h
    cases heq
    have hthere : tables.subnetGroups[request.name]? = some resource := hgroup
    simp [serve, modifySubnetGroup, hthere, accept_live hlive, Tables.find?,
      ResourceKind.changedIdentifier, changed, changedPhase]

/-- What is settled can be changed. -/
theorem exists_reply_modify_of_settled (hlive : config.dryRun = false) {request : kind.Change}
    {resource : kind.Snapshot}
    (h : tables.find? kind (kind.changedIdentifier request) = some (resource, .settled)) :
    ∃ reply, (serve config tables (.modify kind request)).1 = .ok reply := by
  cases kind with
  | cluster =>
    obtain ⟨tracked, htracked, heq⟩ := Option.map_eq_some_iff.mp h
    obtain ⟨-, hsettled⟩ := Prod.mk.inj heq
    have hthere : tables.clusters[request.identifier]? = some tracked := htracked
    simp [serve, modifyCluster, hthere, hsettled, accept_live hlive]
  | dbInstance =>
    obtain ⟨tracked, htracked, heq⟩ := Option.map_eq_some_iff.mp h
    obtain ⟨-, hsettled⟩ := Prod.mk.inj heq
    have hthere : tables.instances[request.identifier]? = some tracked := htracked
    simp [serve, modifyInstance, hthere, hsettled, accept_live hlive]
  | parameterGroup =>
    obtain ⟨group, hgroup, -⟩ := Option.map_eq_some_iff.mp h
    exact ⟨(), congrArg Prod.fst (modifyGroup_of_some hlive .ofInstances request hgroup)⟩
  | clusterParameterGroup =>
    obtain ⟨group, hgroup, -⟩ := Option.map_eq_some_iff.mp h
    exact ⟨(), congrArg Prod.fst (modifyGroup_of_some hlive .ofClusters request hgroup)⟩
  | subnetGroup =>
    obtain ⟨group, hgroup, -⟩ := Option.map_eq_some_iff.mp h
    have hthere : tables.subnetGroups[request.name]? = some group := hgroup
    simp [serve, modifySubnetGroup, hthere, accept_live hlive]

/-! ## Deletions -/

/-- What is in use or not there is not deleted. -/
theorem serve_delete_refused
    (h : ¬ (tables.inUse kind identifier = false ∧ (tables.find? kind identifier).isSome)) :
    ∃ error, serve config tables (.delete kind identifier) = (.error error, tables) := by
  cases hused : tables.inUse kind identifier with
  | true =>
    obtain ⟨_, _, hserved⟩ := @serve_delete_of_inUse config _ _ _ hused
    exact ⟨_, hserved⟩
  | false =>
    have habsent : tables.find? kind identifier = none :=
      Option.not_isSome_iff_eq_none.mp fun hthere => h ⟨hused, hthere⟩
    obtain ⟨_, hserved⟩ := @serve_delete_of_absent config _ _ _ hused habsent
    exact ⟨_, hserved⟩

/-- A resource whose deletion was accepted stays the same as long as it is there. -/
theorem eq_of_leftAfter {resource left : kind.Snapshot} {phase next : Phase}
    (h : leftAfter config kind resource phase = some (left, next)) :
    left = resource ∧ next = phase.delete config.deleteAfter.toNat := by
  rw [leftAfter] at h
  split at h
  · cases h
    exact ⟨rfl, rfl⟩
  · cases h

/-! ## Moves -/

/-- What a call makes of the entry of a resource. -/
inductive Moves (config : SimulatorConfig) (tables : Tables) (kind : ResourceKind)
    (identifier : String) :
    Call → Option (kind.Snapshot × Phase) → Option (kind.Snapshot × Phase) → Prop where
  /-- A call about another resource, or a write that is refused or only judged. -/
  | kept {call : Call} {entry : Option (kind.Snapshot × Phase)}
      (h : call.target = (kind, identifier) → call.isWrite = true ∨ entry = none) :
      Moves config tables kind identifier call entry entry
  | looked {resource : kind.Snapshot} {phase next : Phase} (hlook : phase.look = some next) :
      Moves config tables kind identifier (.describe kind identifier)
        (some (resource, phase)) (some (resource, next))
  | vanished {resource : kind.Snapshot} {phase : Phase} (hlook : phase.look = none) :
      Moves config tables kind identifier (.describe kind identifier)
        (some (resource, phase)) none
  | created {spec : kind.Spec} (hname : kind.identifier spec = identifier)
      (hlive : config.dryRun = false) (hsupplied : Supplied tables kind spec) :
      Moves config tables kind identifier (.create kind (kind.creation spec))
        none (some (bare kind spec, firstPhase config kind))
  | modified {resource : kind.Snapshot} {request : kind.Change}
      (hname : kind.changedIdentifier request = identifier) (hlive : config.dryRun = false) :
      Moves config tables kind identifier (.modify kind request)
        (some (resource, .settled))
        (some (changed kind resource request, changedPhase config kind))
  /-- A deletion that was accepted. -/
  | deleted {resource : kind.Snapshot} {phase : Phase} (hlive : config.dryRun = false)
      (hfree : tables.inUse kind identifier = false) :
      Moves config tables kind identifier (.delete kind identifier)
        (some (resource, phase)) (leftAfter config kind resource phase)

/-- A write that leaves the tables alone keeps every entry. -/
theorem Moves.of_unchanged {call : Call} (hwrite : call.isWrite = true) {after : Tables}
    (h : after = tables) :
    Moves config tables kind identifier call (tables.find? kind identifier)
      (after.find? kind identifier) := by
  rw [h]
  exact .kept fun _ => .inl hwrite

/-- A look is a move of the resource that it looks at. -/
theorem moves_describe :
    Moves config tables kind identifier (.describe kind identifier)
      (tables.find? kind identifier)
      ((serve config tables (.describe kind identifier)).2.find? kind identifier) := by
  cases hthere : tables.find? kind identifier with
  | none =>
    obtain ⟨_, -, hserved⟩ := @serve_describe_of_none config _ _ _ hthere
    rw [hserved, hthere]
    exact .kept fun _ => .inr rfl
  | some entry =>
    obtain ⟨resource, phase⟩ := entry
    cases hlook : phase.look with
    | none =>
      obtain ⟨_, _, -, hserved, hgone⟩ :=
        @serve_describe_of_last config _ _ _ _ _ hthere hlook
      rw [hserved, hgone]
      exact .vanished hlook
    | some next =>
      obtain ⟨_, hserved, hnext⟩ := @serve_describe_of_some config _ _ _ _ _ _ hthere hlook
      rw [hserved, hnext]
      exact .looked hlook

/-- Every creation request is that of a spec. -/
theorem exists_creation (kind : ResourceKind) (request : kind.Creation) :
    ∃ spec : kind.Spec, kind.creation spec = request := by
  cases kind with
  | cluster =>
    exact ⟨⟨request.identifier, request.engine, request.engineVersion, request.masterUsername,
      request.masterPassword, request.securityGroups, request.subnetGroup,
      request.parameterGroup⟩, rfl⟩
  | dbInstance =>
    exact ⟨⟨request.identifier, request.cluster, request.engine, request.instanceClass,
      request.allocatedStorage, request.parameterGroup⟩, rfl⟩
  | parameterGroup | clusterParameterGroup =>
    exact ⟨⟨request.name, request.family, request.description, []⟩, rfl⟩
  | subnetGroup => exact ⟨⟨request.name, request.description, request.subnets⟩, rfl⟩

/-- A creation is a move of the resource that it creates. -/
theorem moves_create (hlive : config.dryRun = false) (spec : kind.Spec) :
    Moves config tables kind (kind.identifier spec) (.create kind (kind.creation spec))
      (tables.find? kind (kind.identifier spec))
      ((serve config tables (.create kind (kind.creation spec))).2.find? kind
        (kind.identifier spec)) := by
  by_cases h : tables.find? kind (kind.identifier spec) = none ∧ Supplied tables kind spec
  · obtain ⟨habsent, hsupplied⟩ := h
    obtain ⟨_, hserved, hthere⟩ := serve_create_accepted hlive kind habsent hsupplied
    rw [hserved, hthere, habsent]
    exact .created rfl hlive hsupplied
  · obtain ⟨_, hserved⟩ := @serve_create_refused config _ kind _ h
    exact .of_unchanged rfl (by rw [hserved])

/-- A change is a move of the resource that it changes. -/
theorem moves_modify (hlive : config.dryRun = false) (request : kind.Change) :
    Moves config tables kind (kind.changedIdentifier request) (.modify kind request)
      (tables.find? kind (kind.changedIdentifier request))
      ((serve config tables (.modify kind request)).2.find? kind
        (kind.changedIdentifier request)) := by
  by_cases h : ∃ resource, tables.find? kind (kind.changedIdentifier request) =
      some (resource, .settled)
  · obtain ⟨resource, hsettled⟩ := h
    rw [find?_serve_modify_of_settled hlive hsettled, hsettled]
    exact .modified rfl hlive
  · obtain ⟨_, hserved⟩ := @serve_modify_refused config _ kind _ (not_exists.mp h)
    exact .of_unchanged rfl (by rw [hserved])

/-- A deletion is a move of the resource that it deletes. -/
theorem moves_delete (hlive : config.dryRun = false) :
    Moves config tables kind identifier (.delete kind identifier)
      (tables.find? kind identifier)
      ((serve config tables (.delete kind identifier)).2.find? kind identifier) := by
  by_cases h : tables.inUse kind identifier = false ∧ (tables.find? kind identifier).isSome
  · obtain ⟨hfree, hsome⟩ := h
    obtain ⟨⟨resource, phase⟩, hthere⟩ := Option.isSome_iff_exists.mp hsome
    obtain ⟨_, hserved, hleft⟩ := serve_delete_of_free hlive hfree hthere
    rw [hserved, hleft, hthere]
    exact .deleted hlive hfree
  · obtain ⟨_, hserved⟩ := @serve_delete_refused config _ _ _ h
    exact .of_unchanged rfl (by rw [hserved])

/-- A call that is served moves every resource in one of these ways. -/
theorem moves_serve (config : SimulatorConfig) (tables : Tables) (call : Call)
    (kind : ResourceKind) (identifier : String) :
    Moves config tables kind identifier call (tables.find? kind identifier)
      ((serve config tables call).2.find? kind identifier) := by
  by_cases htarget : call.target = (kind, identifier)
  · cases hdry : config.dryRun with
    | true =>
      cases hwrite : call.isWrite with
      | true => exact .of_unchanged hwrite ((judged_serve tables hwrite).tables_of_dryRun hdry)
      | false =>
        cases call with
        | describe => cases htarget; exact moves_describe
        | create | modify | delete => cases hwrite
    | false =>
      cases call with
      | describe => cases htarget; exact moves_describe
      | create _ request =>
        cases htarget
        obtain ⟨spec, rfl⟩ := exists_creation kind request
        rw [kind.createdIdentifier_creation]
        exact moves_create hdry spec
      | modify => cases htarget; exact moves_modify hdry _
      | delete => cases htarget; exact moves_delete hdry
  · rw [find?_serve_of_ne config tables call htarget]
    exact .kept fun h => absurd h htarget

end Reconciler.Simulator
