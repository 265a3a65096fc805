import Reconciler.Proofs.Deletion.Guard
import Reconciler.Proofs.Simulator.Moves

/-!
# Dependencies as the guard and the simulator see them

The guard reads from the manifests what a resource depends on, and the simulator reads it from its
tables. When the tables were filled by creations only, they hold what the manifests of the accepted
creations ask for and nothing else (`Filled`), so both see the same dependencies and the simulator
refuses a deletion exactly when the guard knows a reference (`delete_agrees_with_guard`).
-/

set_option autoImplicit false

namespace Reconciler

/-! ## The dependencies that the guard sees -/

/-- The guard tells of a reference to a resource. -/
def Guard.TellsReference (target : Target) (objects : List Declaration) : Prop :=
  ∃ key, .referenced key ∈ Guard.blockers target objects

/-- A reference is told exactly of a target that some object depends on. -/
theorem Guard.tellsReference_iff (target : Target) (objects : List Declaration) :
    TellsReference target objects ↔
      ∃ object ∈ objects, target ∈ object.manifest.dependencies := by
  simp only [TellsReference, blockers, List.mem_flatMap]
  constructor
  · rintro ⟨key, object, hobject, hkey⟩
    refine ⟨object, hobject, ?_⟩
    rw [blockersOf, List.mem_append] at hkey
    rcases hkey with hkey | hkey
    · split at hkey <;> simp at hkey
    · split at hkey
      · assumption
      · cases hkey
  · rintro ⟨object, hobject, hdepends⟩
    refine ⟨object.key, object, hobject, List.mem_append_right _ ?_⟩
    rw [if_pos hdepends]
    exact List.mem_singleton_self _

namespace Simulator

variable {config : SimulatorConfig} {tables after : Tables} {kind : ResourceKind}
  {identifier : String}

/-! ## The dependencies that the simulator sees -/

/-- A resource that was just created names what its manifest depends on. -/
theorem names_bare_iff {user : ResourceKind} (spec : user.Spec) (kind : ResourceKind)
    (identifier : String) :
    Tables.Names user kind (bare user spec) identifier ↔
      (kind, identifier) ∈ (Manifest.resource user spec).dependencies := by
  cases user with
  | cluster | dbInstance =>
    cases kind <;> simp [Tables.Names, bare, newCluster, newInstance, ClusterSpec.creation,
      InstanceSpec.creation, Manifest.dependencies, eq_comm]
  | parameterGroup | clusterParameterGroup | subnetGroup =>
    simp [Tables.Names, Manifest.dependencies]

/-- The tables hold what some manifests ask for, as it is right after its creation. -/
def Filled (manifests : List Manifest) (tables : Tables) : Prop :=
  ∀ kind identifier resource,
    (∃ phase, tables.find? kind identifier = some (resource, phase)) ↔
      ∃ spec, .resource kind spec ∈ manifests ∧ kind.identifier spec = identifier ∧
        bare kind spec = resource

/-- Empty tables are filled by no manifest. -/
theorem filled_empty : Filled [] .empty := by
  intro kind identifier resource
  simp

/-- A resource is there exactly if one of the manifests manages it. -/
theorem Filled.isSome_find?_iff {manifests : List Manifest} (h : Filled manifests tables) :
    (tables.find? kind identifier).isSome = true ↔
      ∃ manifest ∈ manifests, manifest.manages? = some (kind, identifier) := by
  constructor
  · intro hthere
    obtain ⟨⟨resource, phase⟩, hthere⟩ := Option.isSome_iff_exists.mp hthere
    obtain ⟨spec, hmem, rfl, -⟩ := (h kind identifier resource).mp ⟨phase, hthere⟩
    exact ⟨_, hmem, rfl⟩
  · rintro ⟨manifest, hmem, hmanages⟩
    obtain ⟨kind, spec, rfl, htarget⟩ := Manifest.exists_of_manages? hmanages
    cases htarget
    obtain ⟨phase, hthere⟩ := (h kind _ (bare kind spec)).mpr ⟨spec, hmem, rfl, rfl⟩
    rw [hthere]
    rfl

/-- A resource is in use exactly when one of the manifests depends on it. -/
theorem Filled.inUse_iff {manifests : List Manifest} (h : Filled manifests tables) :
    tables.inUse kind identifier = true ↔
      ∃ manifest ∈ manifests, (kind, identifier) ∈ manifest.dependencies := by
  rw [Tables.inUse_iff]
  constructor
  · rintro ⟨user, name, resource, phase, hthere, hnames⟩
    obtain ⟨spec, hmem, -, rfl⟩ := (h user name resource).mp ⟨phase, hthere⟩
    exact ⟨_, hmem, (names_bare_iff spec kind identifier).mp hnames⟩
  · rintro ⟨manifest, hmem, hdepends⟩
    cases manifest with
    | deletion spec => cases hdepends
    | resource user spec =>
      obtain ⟨phase, hthere⟩ := (h user _ (bare user spec)).mpr ⟨spec, hmem, rfl, rfl⟩
      exact ⟨user, _, _, phase, hthere, (names_bare_iff spec kind identifier).mpr hdepends⟩

/-- A creation that is accepted puts in what its manifest asks for. -/
theorem Filled.concat {manifests : List Manifest} (h : Filled manifests tables)
    {spec : kind.Spec} {phase : Phase}
    (habsent : tables.find? kind (kind.identifier spec) = none)
    (hthere : after.find? kind (kind.identifier spec) = some (bare kind spec, phase))
    (helsewhere : Tables.Elsewhere (kind, kind.identifier spec) tables after) :
    Filled (manifests ++ [.resource kind spec]) after := by
  intro other identifier resource
  by_cases htarget : ((kind, kind.identifier spec) : Target) = (other, identifier)
  · cases htarget
    rw [hthere]
    constructor
    · rintro ⟨phase, heq⟩
      cases heq
      exact ⟨spec, List.mem_append_right _ (List.mem_singleton_self _), rfl, rfl⟩
    · rintro ⟨same, hmem, hidentifier, rfl⟩
      rcases List.mem_append.mp hmem with hbefore | hnew
      · -- the identifier was free, so no accepted manifest has it
        obtain ⟨_, hfound⟩ := (h kind _ _).mpr ⟨same, hbefore, hidentifier, rfl⟩
        rw [habsent] at hfound
        cases hfound
      · cases List.mem_singleton.mp hnew
        exact ⟨phase, rfl⟩
  · rw [helsewhere other identifier htarget, h other identifier resource]
    refine exists_congr fun same => and_congr_left fun hsame => ?_
    rw [List.mem_append, List.mem_singleton, or_iff_left]
    intro hnew
    cases hnew
    exact htarget (congrArg (Prod.mk kind) hsame.1)

/-! ## Creations in a row -/

/-- A spec of a resource with its kind. -/
abbrev Order : Type := (kind : ResourceKind) × kind.Spec

/-- The manifests whose creation has succeeded so far, and the simulator as it is by then. -/
abbrev Stock : Type := List Manifest × State

/-- Asks for one more creation. -/
def Stock.add (config : SimulatorConfig) (stock : Stock) (order : Order) : Stock :=
  match provider config (.create order.1 (order.1.creation order.2)) stock.2 with
  | (.ok _, state) => (stock.1 ++ [.resource order.1 order.2], state)
  | (.error _, state) => (stock.1, state)

/-- The creations of a list of specs, one after the other, at a fresh simulator. -/
def stock (config : SimulatorConfig) (orders : List Order) : Stock :=
  orders.foldl (Stock.add config) ([], .fresh)

/-- The simulator holds what the accepted manifests ask for, and has no error to come. -/
def Stock.Sound (stock : Stock) : Prop :=
  ∃ tables, stock.2 = .calm tables ∧ Filled stock.1 tables

/-- An order that is carried out keeps a stock sound. -/
theorem Stock.Sound.add (hlive : config.dryRun = false) {stock : Stock} (h : stock.Sound)
    (order : Order) : (stock.add config order).Sound := by
  obtain ⟨tables, hcalm, hfilled⟩ := h
  obtain ⟨kind, spec⟩ := order
  rw [Stock.add, hcalm, provider_calm]
  by_cases hfree : tables.find? kind (kind.identifier spec) = none ∧ Supplied tables kind spec
  · have helsewhere := elsewhere_create config tables kind (kind.creation spec)
    obtain ⟨after, hserve, hthere⟩ := serve_create_accepted hlive kind hfree.1 hfree.2
    rw [kind.createdIdentifier_creation, hserve] at helsewhere
    rw [hserve]
    exact ⟨after, rfl, hfilled.concat hfree.1 hthere helsewhere⟩
  · obtain ⟨error, hserve⟩ := @serve_create_refused config _ kind _ hfree
    rw [hserve]
    exact ⟨tables, rfl, hfilled⟩

/-- A stock is sound whatever was ordered. -/
theorem sound_stock (hlive : config.dryRun = false) (orders : List Order) :
    (stock config orders).Sound :=
  List.foldlRecOn orders (Stock.add config) ⟨.empty, rfl, filled_empty⟩
    fun _ hsound order _ => hsound.add hlive order

/-! ## Deletions -/

/-- The guard and the simulator agree on dependencies. After any creations, the simulator refuses
to delete a resource exactly when the guard tells of a reference to it by one of the objects whose
creation succeeded; otherwise it deletes what one of them manages and does not find the rest. -/
theorem delete_agrees_with_guard (hlive : config.dryRun = false) (orders : List Order)
    {objects : List Declaration}
    (hobjects : ∀ manifest, manifest ∈ (stock config orders).1 ↔
      ∃ object ∈ objects, object.manifest = manifest)
    (kind : ResourceKind) (identifier : String) :
    let answer := (provider config (.delete kind identifier) (stock config orders).2).1
    let managed := ∃ manifest ∈ (stock config orders).1,
      manifest.manages? = some (kind, identifier)
    ((∃ name message, answer = .error (.provider name message)) ↔
      Guard.TellsReference (kind, identifier) objects) ∧
    (¬ Guard.TellsReference (kind, identifier) objects →
      (answer = .ok () ↔ managed) ∧
        ((∃ subject, answer = .error (.notFound subject)) ↔ ¬ managed)) := by
  obtain ⟨tables, hcalm, hfilled⟩ := sound_stock hlive orders
  have htells : Guard.TellsReference (kind, identifier) objects ↔
      tables.inUse kind identifier = true := by
    rw [Guard.tellsReference_iff, hfilled.inUse_iff]
    constructor
    · rintro ⟨object, hobject, hdepends⟩
      exact ⟨object.manifest, (hobjects _).mpr ⟨object, hobject, rfl⟩, hdepends⟩
    · rintro ⟨manifest, hmanifest, hdepends⟩
      obtain ⟨object, hobject, rfl⟩ := (hobjects manifest).mp hmanifest
      exact ⟨object, hobject, hdepends⟩
  -- all in terms of the tables: what is in use is refused, and what else is there is deleted
  dsimp only
  rw [htells, ← hfilled.isSome_find?_iff, hcalm, provider_calm]
  cases hused : tables.inUse kind identifier with
  | true =>
    obtain ⟨name, message, hserve⟩ := @serve_delete_of_inUse config _ _ _ hused
    rw [hserve]
    exact ⟨iff_of_true ⟨name, message, rfl⟩ rfl, fun h => absurd rfl h⟩
  | false =>
    cases hthere : tables.find? kind identifier with
    | none =>
      obtain ⟨subject, hserve⟩ := @serve_delete_of_absent config _ _ _ hused hthere
      rw [hserve]
      simp
    | some entry =>
      obtain ⟨_, hserve, -⟩ := serve_delete_of_free hlive hused hthere
      rw [hserve]
      simp

/-- A cluster in a subnet group with one instance, and an instance of a cluster that is not
there. -/
def clusterOrders : List Order :=
  [⟨.subnetGroup, ⟨"private", "", ["subnet-a", "subnet-b"]⟩⟩,
   ⟨.cluster, ⟨"db1", "aurora-mysql", none, "admin", "secret", [], some "private", none⟩⟩,
   ⟨.dbInstance, ⟨"db1-a", "db1", "aurora-mysql", "db.r6g.large", none, none⟩⟩,
   ⟨.dbInstance, ⟨"db2-a", "db2", "aurora-mysql", "db.r6g.large", none, none⟩⟩]

/-- The objects that the first three of these declare. -/
def clusterObjects : List Declaration :=
  (clusterOrders.take 3).map fun order => .fresh "db1" (.resource order.1 order.2)

/-- The orders of the example stock the manifests of its objects. -/
theorem stock_clusterOrders :
    (stock .default clusterOrders).1 = clusterObjects.map (·.manifest) := rfl

/-- The group is referenced by the cluster, the instance is referenced by nothing, and the refused
instance was never there. -/
theorem delete_agrees_with_guard_clusterOrders :
    let after := (stock .default clusterOrders).2
    (∃ name message, (provider .default (.delete .subnetGroup "private") after).1 =
      .error (.provider name message)) ∧
    (provider .default (.delete .dbInstance "db1-a") after).1 = .ok () ∧
    ∃ subject, (provider .default (.delete .dbInstance "db2-a") after).1 =
      .error (.notFound subject) := by
  have hobjects : ∀ manifest, manifest ∈ (stock .default clusterOrders).1 ↔
      ∃ object ∈ clusterObjects, object.manifest = manifest := fun manifest => by
    rw [stock_clusterOrders, List.mem_map]
  have hagrees := delete_agrees_with_guard rfl clusterOrders hobjects
  have hfree : ∀ identifier ∈ ["db1-a", "db2-a"],
      ¬ Guard.TellsReference (.dbInstance, identifier) clusterObjects := by
    simp only [Guard.tellsReference_iff]
    decide
  refine ⟨?_, ?_, ?_⟩
  · refine (hagrees .subnetGroup "private").1.mpr ((Guard.tellsReference_iff _ _).mpr ?_)
    decide
  · refine ((hagrees .dbInstance "db1-a").2 (hfree _ (by simp))).1.mpr ?_
    rw [stock_clusterOrders]
    decide
  · refine ((hagrees .dbInstance "db2-a").2 (hfree _ (by simp))).2.mpr ?_
    rw [stock_clusterOrders]
    decide

end Simulator

end Reconciler
