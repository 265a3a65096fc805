import Reconciler.Proofs.Drift
import Reconciler.Proofs.Simulator.Building

/-!
# Creating resources at the simulator

The simulator refuses to create a resource until what the resource needs is there (`Supplied`),
and changes nothing when it refuses. What an adapter creates is what the spec asks for: the
parameters of a group are set right after its creation, and the result has no drift.
-/

set_option autoImplicit false

namespace Reconciler.Simulator

/-- What the simulator needs to find before it creates a resource. -/
def Supplied (tables : Tables) : (kind : ResourceKind) → kind.Spec → Prop
  | .cluster, spec =>
    (∀ group ∈ spec.subnetGroup, (tables.find? .subnetGroup group).isSome) ∧
      ∀ group ∈ spec.parameterGroup, (tables.find? .clusterParameterGroup group).isSome
  | .dbInstance, spec =>
    (∃ cluster phase, tables.find? .cluster spec.cluster = some (cluster, phase) ∧
        cluster.engine = spec.engine) ∧
      ∀ group ∈ spec.parameterGroup, (tables.find? .parameterGroup group).isSome
  | .subnetGroup, spec => 2 ≤ spec.subnets.length
  | _, _ => True

/-- What a spec asks for as it is right after the creation, where groups have no parameters. -/
def bare : (kind : ResourceKind) → kind.Spec → kind.Snapshot
  | .cluster, spec => newCluster spec.creation
  | .dbInstance, spec => newInstance spec.creation
  | .parameterGroup, spec => ⟨spec.name, spec.family, spec.description, ∅⟩
  | .clusterParameterGroup, spec => ⟨spec.name, spec.family, spec.description, ∅⟩
  | .subnetGroup, spec => ⟨spec.name, spec.description, spec.subnets, "Complete"⟩

def built : (kind : ResourceKind) → kind.Spec → kind.Snapshot
  | .parameterGroup, spec =>
    ⟨spec.name, spec.family, spec.description, setParameters ∅ spec.parameters⟩
  | .clusterParameterGroup, spec =>
    ⟨spec.name, spec.family, spec.description, setParameters ∅ spec.parameters⟩
  | kind, spec => bare kind spec

variable {config : SimulatorConfig} {tables : Tables}

/-- A live write that is accepted takes effect. -/
theorem accept_live {α : Type} (hlive : config.dryRun = false) (reply : α) (after : Tables) :
    accept config tables reply after = (.ok reply, after) := by
  simp [accept, hlive]

/-! ## The creation -/

/-- Nothing is looked up under a name exactly when the name is not in the map. -/
theorem getElem?_eq_none_iff {V : Type} {map : Std.ExtTreeMap String V} {name : String} :
    map[name]? = none ↔ name ∉ map := by
  rw [Std.ExtTreeMap.mem_iff_isSome_getElem?, Option.not_isSome_iff_eq_none]

/-- Nothing that is wanted is missing exactly when all of it is there. -/
theorem filter_notMem_eq_none_iff {V : Type} {map : Std.ExtTreeMap String V}
    {wanted : Option String} :
    wanted.filter (· ∉ map) = none ↔ ∀ name ∈ wanted, (map[name]?).isSome := by
  simp only [Option.filter_eq_none_iff, decide_eq_true_eq, Decidable.not_not, Option.mem_def,
    Std.ExtTreeMap.mem_iff_isSome_getElem?]

/-- Nothing forbids the creation of a cluster that is not there and has what it needs. -/
theorem clusterObstacle?_eq_none_iff {spec : ClusterSpec} :
    clusterObstacle? tables spec.creation = none ↔
      tables.find? .cluster spec.id = none ∧ Supplied tables .cluster spec := by
  simp only [clusterObstacle?, ClusterSpec.creation, Supplied, Tables.find?, Option.isSome_map,
    ← filter_notMem_eq_none_iff, Option.map_eq_none_iff, getElem?_eq_none_iff]
  by_cases hthere : spec.id ∈ tables.clusters
  · simp only [hthere]
    simp
  · cases hgroup : spec.subnetGroup.filter (· ∉ tables.subnetGroups) <;> simp [hthere]

/-- Nothing forbids the creation of an instance that is not there and has what it needs. -/
theorem instanceObstacle?_eq_none_iff {spec : InstanceSpec} :
    instanceObstacle? tables spec.creation = none ↔
      tables.find? .dbInstance spec.id = none ∧ Supplied tables .dbInstance spec := by
  simp only [instanceObstacle?, InstanceSpec.creation, Supplied, Tables.find?, Option.isSome_map,
    ← filter_notMem_eq_none_iff, Option.map_eq_none_iff, getElem?_eq_none_iff]
  by_cases hthere : spec.id ∈ tables.instances
  · simp only [hthere]
    simp
  · cases hcluster : tables.clusters[spec.cluster]? with
    | none => simp [hthere]
    | some cluster =>
      by_cases hengine : cluster.resource.engine = spec.engine <;> simp [hthere, hengine]

/-- A parameter group that is there is not created again. -/
theorem createGroup_of_there (scope : Scope) {spec : ParameterGroupSpec}
    (hthere : spec.name ∈ tables.groups scope) :
    ∃ error, createGroup config tables scope spec.creation = (.error error, tables) :=
  ⟨_, if_pos hthere⟩

/-- A parameter group that is not there is created without parameters. -/
theorem createGroup_of_absent (hlive : config.dryRun = false) (scope : Scope)
    {spec : ParameterGroupSpec} (habsent : spec.name ∉ tables.groups scope) :
    createGroup config tables scope spec.creation =
      (.ok ⟨spec.name, spec.family, spec.description, ∅⟩,
        tables.withGroups scope ((tables.groups scope).insert spec.name
          ⟨spec.name, spec.family, spec.description, ∅⟩)) := by
  simp only [createGroup, ParameterGroupSpec.creation, habsent, if_false]
  exact accept_live hlive _ _

/-- A creation is refused, and changes nothing, when the resource is there already or lacks what
it needs. -/
theorem serve_create_refused (kind : ResourceKind) {spec : kind.Spec}
    (h : ¬ (tables.find? kind (kind.identifier spec) = none ∧ Supplied tables kind spec)) :
    ∃ error, serve config tables (.create kind (kind.creation spec)) = (.error error, tables) := by
  cases kind with
  | cluster =>
    obtain ⟨obstacle, hobstacle⟩ :=
      Option.ne_none_iff_exists'.mp (mt clusterObstacle?_eq_none_iff.mp h)
    exact ⟨_, by simp only [serve, createCluster, ResourceKind.creation, hobstacle]; rfl⟩
  | dbInstance =>
    obtain ⟨obstacle, hobstacle⟩ :=
      Option.ne_none_iff_exists'.mp (mt instanceObstacle?_eq_none_iff.mp h)
    exact ⟨_, by simp only [serve, createInstance, ResourceKind.creation, hobstacle]; rfl⟩
  | parameterGroup =>
    refine createGroup_of_there .ofInstances (Decidable.byContradiction fun hnew => ?_)
    exact h ⟨Option.map_eq_none_iff.mpr (getElem?_eq_none_iff.mpr hnew), trivial⟩
  | clusterParameterGroup =>
    refine createGroup_of_there .ofClusters (Decidable.byContradiction fun hnew => ?_)
    exact h ⟨Option.map_eq_none_iff.mpr (getElem?_eq_none_iff.mpr hnew), trivial⟩
  | subnetGroup =>
    simp only [serve, createSubnetGroup]
    split
    · exact ⟨_, rfl⟩
    · next hnew =>
      split
      · exact ⟨_, rfl⟩
      · next hmany =>
        exact absurd ⟨Option.map_eq_none_iff.mpr (getElem?_eq_none_iff.mpr hnew),
          Nat.not_lt.mp hmany⟩ h

/-- A resource that is not there and has what it needs is created. -/
theorem serve_create_accepted (hlive : config.dryRun = false) (kind : ResourceKind)
    {spec : kind.Spec} (habsent : tables.find? kind (kind.identifier spec) = none)
    (hsupplied : Supplied tables kind spec) :
    ∃ after, serve config tables (.create kind (kind.creation spec)) =
        (.ok (bare kind spec), after) ∧
      after.find? kind (kind.identifier spec) = some (bare kind spec, firstPhase config kind) := by
  cases kind with
  | cluster =>
    have hfree := clusterObstacle?_eq_none_iff.mpr ⟨habsent, hsupplied⟩
    refine ⟨tables.putCluster spec.id (newCluster spec.creation) (firstPhase config .cluster),
      ?_, ?_⟩
    · simp only [serve, createCluster, ResourceKind.creation, hfree]
      exact accept_live hlive _ _
    · simp [Tables.find?, Tables.putCluster, ResourceKind.identifier, bare]
  | dbInstance =>
    have hfree := instanceObstacle?_eq_none_iff.mpr ⟨habsent, hsupplied⟩
    refine ⟨tables.putInstance spec.id (newInstance spec.creation)
      (firstPhase config .dbInstance), ?_, ?_⟩
    · simp only [serve, createInstance, ResourceKind.creation, hfree]
      exact accept_live hlive _ _
    · simp [Tables.find?, Tables.putInstance, ResourceKind.identifier, bare]
  | parameterGroup =>
    have hnew := getElem?_eq_none_iff.mp (Option.map_eq_none_iff.mp habsent)
    refine ⟨_, createGroup_of_absent hlive .ofInstances hnew, ?_⟩
    simp [Tables.find?, Tables.withGroups, ResourceKind.identifier, bare, firstPhase]
  | clusterParameterGroup =>
    have hnew := getElem?_eq_none_iff.mp (Option.map_eq_none_iff.mp habsent)
    refine ⟨_, createGroup_of_absent hlive .ofClusters hnew, ?_⟩
    simp [Tables.find?, Tables.withGroups, ResourceKind.identifier, bare, firstPhase]
  | subnetGroup =>
    have hnew : spec.creation.name ∉ tables.subnetGroups :=
      getElem?_eq_none_iff.mp (Option.map_eq_none_iff.mp habsent)
    have hmany : ¬ spec.creation.subnets.length < 2 := Nat.not_lt.mpr hsupplied
    refine ⟨{ tables with
      subnetGroups := tables.subnetGroups.insert spec.name (bare .subnetGroup spec) }, ?_, ?_⟩
    · simp only [serve, createSubnetGroup, ResourceKind.creation, hnew, hmany, if_false]
      exact accept_live hlive _ _
    · simp [Tables.find?, ResourceKind.identifier, firstPhase]

/-- A creation that is refused changes nothing, and is refused only for want of what the
resource needs. -/
theorem serve_create_cases (hlive : config.dryRun = false) (kind : ResourceKind)
    {spec : kind.Spec} (habsent : tables.find? kind (kind.identifier spec) = none) :
    (¬ Supplied tables kind spec ∧ ∃ error,
      serve config tables (.create kind (kind.creation spec)) = (.error error, tables)) ∨
    ∃ after, serve config tables (.create kind (kind.creation spec)) =
        (.ok (bare kind spec), after) ∧
      after.find? kind (kind.identifier spec) = some (bare kind spec, firstPhase config kind) := by
  by_cases hsupplied : Supplied tables kind spec
  · exact .inr (serve_create_accepted hlive kind habsent hsupplied)
  · exact .inl ⟨hsupplied, serve_create_refused kind fun h => hsupplied h.2⟩

/-! ## The parameters of a group -/

/-- No parameter is declared with two values. -/
def Consistent (parameters : List Parameter) : Prop :=
  ∀ p ∈ parameters, ∀ q ∈ parameters, p.name = q.name → p.value = q.value

/-- Setting other parameters keeps the value of a parameter. -/
theorem getElem?_setParameters_of_ne {parameters : List Parameter} {name : String}
    (h : ∀ p ∈ parameters, p.name ≠ name) (map : ParameterMap) :
    (setParameters map parameters)[name]? = map[name]? := by
  induction parameters generalizing map with
  | nil => rfl
  | cons parameter rest ih =>
    have hparameter : parameter.name ≠ name := h parameter List.mem_cons_self
    have hrest := ih (fun p hp => h p (List.mem_cons_of_mem _ hp))
      (map.insert parameter.name parameter.value)
    rw [setParameters, List.foldl_cons, ← setParameters, hrest, Std.ExtTreeMap.getElem?_insert]
    simp [hparameter]

/-- Every declared parameter has its value once all were set. -/
theorem getElem?_setParameters {parameters : List Parameter} (hconsistent : Consistent parameters)
    {parameter : Parameter} (hmem : parameter ∈ parameters) (map : ParameterMap) :
    (setParameters map parameters)[parameter.name]? = some parameter.value := by
  induction parameters generalizing parameter map with
  | nil => cases hmem
  | cons first rest ih =>
    have hrest : Consistent rest := fun p hp q hq =>
      hconsistent p (List.mem_cons_of_mem _ hp) q (List.mem_cons_of_mem _ hq)
    rw [setParameters, List.foldl_cons, ← setParameters]
    by_cases hagain : ∃ p ∈ rest, p.name = parameter.name
    · obtain ⟨p, hp, hname⟩ := hagain
      have hvalue := hconsistent p (List.mem_cons_of_mem _ hp) parameter hmem hname
      rw [← hname, ← hvalue]
      exact ih hrest hp _
    · -- the parameter is the first one, and it is not set again
      have hunset : ∀ p ∈ rest, p.name ≠ parameter.name := fun p hp hname =>
        hagain ⟨p, hp, hname⟩
      rcases List.mem_cons.mp hmem with rfl | hlater
      · rw [getElem?_setParameters_of_ne hunset, Std.ExtTreeMap.getElem?_insert_self]
      · exact absurd rfl (hunset parameter hlater)

/-- A group without parameters lacks all that are declared. -/
theorem parameterChanges_bare (spec : ParameterGroupSpec) :
    Adapter.parameterChanges ⟨spec.name, spec.family, spec.description, ∅⟩ spec =
      spec.parameters := by
  unfold Adapter.parameterChanges
  rw [List.filter_eq_self]
  intro parameter _
  simp

/-- The parameters of a change are set in the group, over those that it had. -/
theorem modifyGroup_of_some (hlive : config.dryRun = false) (scope : Scope)
    (request : ParameterGroupChange) {group : ParameterGroupSnapshot}
    (h : (tables.groups scope)[request.name]? = some group) :
    modifyGroup config tables scope request = (.ok (), tables.withGroups scope
      ((tables.groups scope).insert request.name
        { group with parameters := setParameters group.parameters request.parameters })) := by
  simp only [modifyGroup, h]
  exact accept_live hlive _ _

/-- A group that was just created is changed by all its declared parameters, if there are any. -/
theorem groupChange?_bare (spec : ParameterGroupSpec) :
    Adapter.groupChange? ⟨spec.name, spec.family, spec.description, ∅⟩ spec =
      if spec.parameters = [] then none else some ⟨spec.name, spec.parameters⟩ := by
  rw [Adapter.groupChange?, parameterChanges_bare]
  cases spec.parameters <;> rfl

/-! ## What an adapter creates -/

/-- The simulator with no error to come. -/
def State.calm (tables : Tables) : State := ⟨tables, none⟩

/-- A simulator without an injected error answers from its tables. -/
@[simp]
theorem provider_calm (call : Call) :
    provider config call (.calm tables) =
      ((serve config tables call).1, .calm (serve config tables call).2) := rfl

/-- A script that asks about one target leaves all other resources alone. -/
theorem find?_of_run {α : Type} {script : Script Call Call.Answer α} {target : Target}
    (hasks : script.Asks fun call => call.target = target) {result : α} {after : Tables}
    (hrun : script.run (provider config) (.calm tables) = (result, .calm after))
    {kind : ResourceKind} {identifier : String} (hne : target ≠ (kind, identifier)) :
    after.find? kind identifier = tables.find? kind identifier := by
  have hkept : ∃ current, (script.run (provider config) (.calm tables)).2 = .calm current ∧
      current.find? kind identifier = tables.find? kind identifier := by
    refine hasks.run_invariant (fun state => ∃ current, state = State.calm current ∧
      current.find? kind identifier = tables.find? kind identifier) ?_ ⟨tables, rfl, rfl⟩
    rintro call _ htarget ⟨current, rfl, hcurrent⟩
    refine ⟨(serve config current call).2, rfl, ?_⟩
    rw [find?_serve_of_ne config current call (htarget ▸ hne), hcurrent]
  obtain ⟨current, hafter, hcurrent⟩ := hkept
  rw [hrun] at hafter
  cases hafter
  exact hcurrent

/-- Updating a resource without drift asks for nothing. -/
theorem runWith_update_of_none {kind : ResourceKind} {existing : kind.Snapshot} {spec : kind.Spec}
    (hchange : Adapter.change? kind existing spec = none) :
    (Adapter.update kind existing spec).runWith (provider config) (.calm tables) =
      (.ok (), .calm tables) := by
  simp only [Adapter.update, hchange]
  rfl

/-- An update that changes something is one modify call. -/
theorem runWith_update_of_some {kind : ResourceKind} {existing : kind.Snapshot} {spec : kind.Spec}
    {change : kind.Change} {reply : (Call.modify kind change).Reply} {after : Tables}
    (hchange : Adapter.change? kind existing spec = some change)
    (hmodified : serve config tables (.modify kind change) = (.ok reply, after)) :
    (Adapter.update kind existing spec).runWith (provider config) (.calm tables) =
      (.ok (), .calm after) := by
  simp only [Adapter.update, hchange]
  rw [Calls.runWith_discard, Calls.modify, Calls.runWith_perform, provider_calm, hmodified]
  rfl

/-- A group that was just created gets its parameters. -/
theorem runWith_update_bare (hlive : config.dryRun = false) {kind : ResourceKind}
    {spec : kind.Spec} (hbare : Adapter.createdBare kind = true)
    (hthere : tables.find? kind (kind.identifier spec) = some (bare kind spec, .settled)) :
    ∃ after, (Adapter.update kind (bare kind spec) spec).runWith (provider config)
        (.calm tables) = (.ok (), .calm after) ∧
      after.find? kind (kind.identifier spec) = some (built kind spec, .settled) := by
  cases kind with
  | cluster | dbInstance | subnetGroup => cases hbare
  | parameterGroup =>
    obtain ⟨group, hgroup, heq⟩ := Option.map_eq_some_iff.mp hthere
    cases heq
    have hchange := groupChange?_bare spec
    by_cases hnone : spec.parameters = []
    · rw [if_pos hnone] at hchange
      refine ⟨tables, runWith_update_of_none hchange, ?_⟩
      rw [hthere, built, hnone]
      rfl
    · rw [if_neg hnone] at hchange
      have hmodified := modifyGroup_of_some hlive .ofInstances ⟨spec.name, spec.parameters⟩ hgroup
      refine ⟨_, runWith_update_of_some hchange hmodified, ?_⟩
      simp [Tables.find?, Tables.withGroups, ResourceKind.identifier, built, bare]
  | clusterParameterGroup =>
    obtain ⟨group, hgroup, heq⟩ := Option.map_eq_some_iff.mp hthere
    cases heq
    have hchange := groupChange?_bare spec
    by_cases hnone : spec.parameters = []
    · rw [if_pos hnone] at hchange
      refine ⟨tables, runWith_update_of_none hchange, ?_⟩
      rw [hthere, built, hnone]
      rfl
    · rw [if_neg hnone] at hchange
      have hmodified := modifyGroup_of_some hlive .ofClusters ⟨spec.name, spec.parameters⟩ hgroup
      refine ⟨_, runWith_update_of_some hchange hmodified, ?_⟩
      simp [Tables.find?, Tables.withGroups, ResourceKind.identifier, built, bare]

/-- A resource that is created with all its values is built at once. -/
theorem built_of_not_createdBare {kind : ResourceKind} {spec : kind.Spec}
    (h : ¬ Adapter.createdBare kind = true) : built kind spec = bare kind spec := by
  cases kind with
  | cluster | dbInstance | subnetGroup => rfl
  | parameterGroup | clusterParameterGroup => exact absurd rfl h

/-- What is created without its values is a group, and settled at once. -/
theorem firstPhase_of_createdBare {kind : ResourceKind} (h : Adapter.createdBare kind = true) :
    firstPhase config kind = .settled := by
  cases kind with
  | cluster | dbInstance => cases h
  | subnetGroup | parameterGroup | clusterParameterGroup => rfl

/-- An adapter creates what the spec asks for, unless the simulator refuses to. -/
theorem runWith_create (hlive : config.dryRun = false) (kind : ResourceKind) {spec : kind.Spec}
    (habsent : tables.find? kind (kind.identifier spec) = none) :
    (¬ Supplied tables kind spec ∧ ∃ error,
      (Adapter.create kind spec).runWith (provider config) (.calm tables) =
        (.error error, .calm tables)) ∨
    ∃ created after, (Adapter.create kind spec).runWith (provider config) (.calm tables) =
        (.ok created, .calm after) ∧
      after.find? kind (kind.identifier spec) =
        some (built kind spec, firstPhase config kind) := by
  rw [Adapter.create, Calls.runWith_bind, Calls.create, Calls.runWith_perform, provider_calm]
  rcases serve_create_cases hlive kind habsent with ⟨hlacking, error, hrefused⟩ | hcreated
  · rw [hrefused]
    exact .inl ⟨hlacking, error, rfl⟩
  · obtain ⟨after, hcreated, hthere⟩ := hcreated
    rw [hcreated]
    refine .inr ?_
    dsimp only
    by_cases hbare : Adapter.createdBare kind = true
    · rw [firstPhase_of_createdBare hbare] at hthere ⊢
      obtain ⟨last, hupdated, hbuilt⟩ := runWith_update_bare hlive hbare hthere
      refine ⟨bare kind spec, last, ?_, hbuilt⟩
      rw [if_pos hbare, Calls.runWith_bind, hupdated]
      rfl
    · refine ⟨bare kind spec, after, ?_, ?_⟩
      · rw [if_neg hbare]
        rfl
      · rw [built_of_not_createdBare hbare]
        exact hthere

/-! ## No drift -/

/-- A spec that can be met: no parameter has two values, and a subnet group has two subnets. -/
def Sound : (kind : ResourceKind) → kind.Spec → Prop
  | .parameterGroup, spec => Consistent spec.parameters
  | .clusterParameterGroup, spec => Consistent spec.parameters
  | .subnetGroup, spec => 2 ≤ spec.subnets.length
  | _, _ => True

/-- Parameters without contradictions are all found as they were declared. -/
theorem flatMap_compareParameter {parameters : List Parameter} (h : Consistent parameters) :
    parameters.flatMap (Drift.compareParameter (setParameters ∅ parameters)) = [] := by
  refine Drift.flatMap_compareParameter_eq_nil_iff.mpr fun parameter hmem => ?_
  exact getElem?_setParameters h hmem ∅

/-- What was built of a sound spec has no drift from it. -/
theorem drift_built {kind : ResourceKind} {spec : kind.Spec} (h : Sound kind spec) :
    Drift.of kind (built kind spec) spec = [] := by
  cases kind with
  | cluster =>
    simp only [Drift.of, Drift.ofCluster, built, bare, newCluster, ClusterSpec.creation,
      Drift.compare_self, Drift.compareDeclared_self, Drift.compareMembers_self,
      List.append_nil]
    cases hversion : spec.engineVersion with
    | none => rfl
    | some version => exact Drift.compare_self _ _
  | dbInstance =>
    simp only [Drift.of, Drift.ofInstance, built, bare, newInstance,
      InstanceSpec.creation, Drift.compare_self, Drift.compareDeclared_self, List.append_nil]
  | parameterGroup | clusterParameterGroup =>
    simp only [Drift.of, Drift.ofParameterGroup, built, Drift.compare_self,
      List.nil_append]
    exact flatMap_compareParameter h
  | subnetGroup =>
    simp only [Drift.of, Drift.ofSubnetGroup, built, bare, Drift.compare_self,
      Drift.compareMembers_self, List.append_nil]

end Reconciler.Simulator
