import Reconciler.Proofs.Simulator.Locality
import Reconciler.Proofs.Site
import Reconciler.Proofs.Site.Conclude

/-!
# Independent passes

A site with a store in memory and the simulator is seen through its places: the objects under
their keys and the resources at the simulator. A pass over an object that stands for a resource
depends on the object, the resource and what its manifest depends on, and it writes to the first two
only (`confined_pass`). So passes over objects that have nothing to do with each other can be made
in either order (`passes_commute`).
-/

set_option autoImplicit false

namespace Reconciler

/-- A simulator without an error to come is its tables. -/
theorem Simulator.State.eq_calm {state : State} (h : state.pending = none) :
    state = .calm state.tables := by
  obtain ⟨tables, pending⟩ := state
  cases h
  rfl

/-! ## Statuses in memory -/

/-- A status that is offered moves the table of a store and leaves its watches. -/
theorem MemoryStore.updateStatus_snd (store : MemoryStore) (key : Key) (expected : UInt64)
    (status : Status) : (store.updateStatus key expected status).2 =
      { store with table := store.table.offered key expected status } := by
  unfold updateStatus Table.offered
  cases store.table.updateStatus key expected status <;> rfl

/-- What becomes of an offered status depends on the object that it is offered to. -/
theorem MemoryStore.updateStatus_congr {store other : MemoryStore} {key : Key}
    (h : store.table.get? key = other.table.get? key) (expected : UInt64) (status : Status) :
    (store.updateStatus key expected status).1 = (other.updateStatus key expected status).1 ∧
      (store.table.offered key expected status).get? key =
        (other.table.offered key expected status).get? key := by
  have hfound : store.table.objects[key]? = other.table.objects[key]? := h
  unfold updateStatus Table.offered Table.updateStatus
  rw [hfound]
  cases other.table.objects[key]? with
  | none => exact ⟨rfl, h⟩
  | some object =>
    by_cases hversion : object.version = expected
    · cases hfits : status.fits key.kind with
      | true => simp [hversion, Table.get?]
      | false => simp [hversion, h]
    · simp [hversion, h]

/-- A status that is offered keeps the spec of every object. -/
theorem Table.manifest_offered (table : Table) (key : Key) (expected : UInt64) (status : Status)
    (other : Key) :
    ((table.offered key expected status).get? other).map (·.manifest) =
      (table.get? other).map (·.manifest) := by
  unfold offered
  split
  · next version after h =>
    rw [get?_of_updateStatus h]
    split
    · next heq =>
      subst heq
      cases table.get? key <;> rfl
    · rfl
  · rfl

namespace Site

/-- A place at a site with the simulator. -/
inductive Place where
  | object (key : Key)
  | resource (target : Target)

def Place.Content : Place → Type
  | .object _ => Option Declaration
  | .resource target => Option (target.1.Snapshot × Simulator.Phase)

variable {φ : Type}

/-- What is found at a place. -/
def view (place : Place) (site : Site φ Simulator.State) : place.Content :=
  match place with
  | .object key => site.table.get? key
  | .resource target => site.memory.tables.find? target.1 target.2

/-- A site with a store in memory and no error to come that differs from another one in no more
than the statuses of its objects and the resources at the simulator. -/
structure Resting (origin site : Site φ Simulator.State) : Prop where
  store : ∃ table, site.store = .memory ⟨table, origin.store.watches⟩
  watch : site.watch = origin.watch
  files : site.files = origin.files
  calm : site.memory.pending = none
  manifests : ∀ key, (site.table.get? key).map (·.manifest) =
    (origin.table.get? key).map (·.manifest)

variable {origin site other : Site φ Simulator.State}

/-- Such sites are the same when the same is found at all places. -/
theorem Resting.eq_of_view (hsite : Resting origin site) (hother : Resting origin other)
    (h : ∀ place, view place site = view place other) : site = other := by
  obtain ⟨table, hstore⟩ := hsite.store
  obtain ⟨otherTable, hotherStore⟩ := hother.store
  have htable : table = otherTable := Table.eq_of_get? fun key => by
    have hsame : site.table.get? key = other.table.get? key := h (.object key)
    rwa [Site.table, Site.table, hstore, hotherStore] at hsame
  have htables : site.memory.tables = other.memory.tables :=
    Simulator.Tables.eq_of_find? fun kind identifier => h (.resource (kind, identifier))
  have hmemory : site.memory = other.memory := by
    rw [Simulator.State.eq_calm hsite.calm, Simulator.State.eq_calm hother.calm, htables]
  have hstores : site.store = other.store := by rw [hstore, hotherStore, htable]
  have hwatch := hsite.watch.trans hother.watch.symm
  have hfiles := hsite.files.trans hother.files.symm
  cases site
  cases other
  dsimp only at hstores hwatch hfiles hmemory
  rw [hstores, hwatch, hfiles, hmemory]

/-- A site with a store in memory and no error to come rests where it is. -/
theorem Resting.refl {store : MemoryStore} (hstore : origin.store = .memory store)
    (hcalm : origin.memory.pending = none) : Resting origin origin where
  store := ⟨store.table, by rw [hstore]; rfl⟩
  watch := rfl
  files := rfl
  calm := hcalm
  manifests _ := rfl

/-! ## The requests of a pass -/

variable (system : FileSystem φ) (config : SimulatorConfig) {key : Key} {kind : ResourceKind}
  {spec : kind.Spec}

/-- The places that a pass over an object with a manifest depends on. -/
def Sees (key : Key) (kind : ResourceKind) (spec : kind.Spec) (place : Place) : Prop :=
  place = .object key ∨
    ∃ target ∈ (kind, kind.identifier spec) :: (Manifest.resource kind spec).dependencies,
      place = .resource target

/-- The places that such a pass may write to. -/
def Touches (key : Key) (kind : ResourceKind) (spec : kind.Spec) (place : Place) : Prop :=
  place = .object key ∨ place = .resource (kind, kind.identifier spec)

/-- A pass depends on every place that it writes to. -/
theorem Touches.sees {place : Place} (h : Touches key kind spec place) :
    Sees key kind spec place :=
  h.imp_right fun heq => ⟨_, List.mem_cons_self, heq⟩

variable {system} {config}

/-- At a resting site a call is answered from the tables, and moves nothing else. -/
theorem Resting.serve_call (h : Resting origin site) (call : Call) :
    serve system (Simulator.provider config) (.call call) site =
      ((Simulator.serve config site.memory.tables call).1,
        { site with memory := .calm (Simulator.serve config site.memory.tables call).2 }) := by
  simp only [serve, Simulator.provider, h.calm]
  rfl

/-- A site rests on whatever its resources become. -/
theorem Resting.withTables (h : Resting origin site) (tables : Simulator.Tables) :
    Resting origin { site with memory := .calm tables } where
  store := h.store
  watch := h.watch
  files := h.files
  calm := rfl
  manifests := h.manifests

/-- A call that serves a manifest keeps to the places of the manifest. -/
theorem confined_call {call : Call} (hcall : call.Serves kind spec) :
    Confined view (Resting origin) (Sees key kind spec) (Touches key kind spec)
      (serve system (Simulator.provider config) (.call call)) where
  within _ := Touches.sees
  valid site h := by
    rw [h.serve_call]
    exact h.withTables _
  keeps site h place hplace := by
    rw [h.serve_call]
    cases place with
    | object other => rfl
    | resource target =>
      refine Simulator.find?_serve_of_ne config site.memory.tables call fun htarget => hplace ?_
      rw [hcall.provides.1] at htarget
      exact .inr (congrArg Place.resource htarget.symm)
  agrees s t hs ht hsame := by
    have htarget : s.memory.tables.find? kind (kind.identifier spec) =
        t.memory.tables.find? kind (kind.identifier spec) :=
      hsame (.resource (kind, kind.identifier spec)) (Touches.sees (.inr rfl))
    have hneeds : Simulator.AgreeOn (Manifest.resource kind spec).dependencies s.memory.tables
        t.memory.tables := fun target hmem =>
      hsame (.resource target) (.inr ⟨target, List.mem_cons_of_mem _ hmem, rfl⟩)
    obtain ⟨hanswer, hafter⟩ := Simulator.agree_serve hcall htarget hneeds
    rw [hs.serve_call, ht.serve_call]
    refine ⟨hanswer, ?_⟩
    rintro _ (rfl | rfl)
    · exact hsame (.object key) (.inl rfl)
    · exact hafter

/-- At a resting site a commit moves the table of the store, and nothing else. -/
theorem Resting.serve_commit (h : Resting origin site) (expected : UInt64) (status : Status) :
    ∃ store : MemoryStore, site.table = store.table ∧
      store.watches = origin.store.watches ∧
      serve system (Simulator.provider config) (.commit key expected status) site =
        ((store.updateStatus key expected status).1, { site with
          store := .memory { store with table := store.table.offered key expected status } }) := by
  obtain ⟨table, hstore⟩ := h.store
  refine ⟨⟨table, origin.store.watches⟩, by rw [Site.table, hstore]; rfl, rfl, ?_⟩
  rw [serve_commit_memory system _ hstore, MemoryStore.updateStatus_snd]

/-- A commit keeps to the object that it is for. -/
theorem confined_commit (expected : UInt64) (status : Status) :
    Confined view (Resting origin) (Sees key kind spec) (Touches key kind spec)
      (serve system (Simulator.provider config) (.commit key expected status)) where
  within _ := Touches.sees
  valid site h := by
    obtain ⟨store, htable, hwatches, hserve⟩ := h.serve_commit expected status
    rw [hserve]
    refine ⟨⟨_, by rw [hwatches]⟩, h.watch, h.files, h.calm, fun other => ?_⟩
    rw [← h.manifests other, htable]
    exact Table.manifest_offered store.table key expected status other
  keeps site h place hplace := by
    obtain ⟨store, htable, -, hserve⟩ := h.serve_commit expected status
    rw [hserve]
    cases place with
    | object other =>
      have hne : key ≠ other := fun heq => hplace (.inl (congrArg Place.object heq.symm))
      show (store.table.offered key expected status).get? other = site.table.get? other
      rw [Table.get?_offered_of_ne expected status hne, htable]
    | resource target => rfl
  agrees s t hs ht hsame := by
    obtain ⟨store, htable, -, hserve⟩ := hs.serve_commit expected status
    obtain ⟨other, hother, -, hserveOther⟩ := ht.serve_commit expected status
    have hobject : store.table.get? key = other.table.get? key := by
      rw [← htable, ← hother]
      exact hsame (.object key) (.inl rfl)
    obtain ⟨hanswer, hafter⟩ := MemoryStore.updateStatus_congr hobject expected status
    rw [hserve, hserveOther]
    refine ⟨hanswer, ?_⟩
    rintro _ (rfl | rfl)
    · exact hafter
    · exact hsame (.resource _) (Touches.sees (.inr rfl))

end Site

/-! ## Passes -/

/-- What the work on an object that stands for a resource asks for. -/
theorem Dispatch.asks_resource (config : EngineConfig) (now : Int64) (key : Key)
    {object : Declaration} {kind : ResourceKind} {spec : kind.Spec}
    (hmanifest : object.manifest = .resource kind spec) :
    ((engine config now object).bind (conclude config key object)).Asks fun request =>
      (∃ call, request = .call call ∧ call.Serves kind spec) ∨
        ∃ expected status, request = .commit key expected status := by
  refine Script.Asks.bind ?_ fun result => ?_
  · cases hstatus : object.status with
    | lifecycle status =>
      rw [engine_resource config now hmanifest hstatus]
      have hcalls := Work.asks_ofCalls (Lifecycle.asks_pass_serves kind spec config status now)
      exact (hcalls.imp fun _ => .inl).bind fun _ => trivial
    | deletion state =>
      obtain ⟨_, version, manifest, _⟩ := object
      subst hmanifest hstatus
      trivial
  · rcases result with error | failure | outcome
    · trivial
    · trivial
    · simp only [conclude, commit]
      split
      · trivial
      · refine ⟨.inr ⟨_, _, rfl⟩, fun answer => ?_⟩
        rcases answer with error | version
        · dsimp only
          split <;> trivial
        · trivial

namespace Site

variable {φ : Type} {origin : Site φ Simulator.State} {system : FileSystem φ}
  {config : EngineConfig} {simulator : SimulatorConfig} {now : Int64} {key : Key}
  {kind : ResourceKind} {spec : kind.Spec}

/-- A pass over an object that stands for a resource is the work on that object. -/
theorem Resting.exists_work {site : Site φ Simulator.State} (h : Resting origin site)
    (hmanifest : (origin.table.get? key).map (·.manifest) = some (.resource kind spec)) :
    ∃ object, site.table.get? key = some object ∧ object.manifest = .resource kind spec ∧
      site.pass system (Simulator.provider simulator) config now key =
        ((Dispatch.engine config now object).bind (Dispatch.conclude config key object)).run
          (serve system (Simulator.provider simulator)) site := by
  rw [← h.manifests key] at hmanifest
  obtain ⟨object, hobject, hresource⟩ := Option.map_eq_some_iff.mp hmanifest
  refine ⟨object, hobject, hresource, ?_⟩
  rw [pass_of_get? system _ config now hobject, Script.run_bind]

/-- A pass over an object that stands for a resource keeps to the places of its manifest. -/
theorem confined_pass
    (hmanifest : (origin.table.get? key).map (·.manifest) = some (.resource kind spec)) :
    Confined view (Resting origin) (Sees key kind spec) (Touches key kind spec)
      fun site => site.pass system (Simulator.provider simulator) config now key := by
  have hwork : ∀ object : Declaration, object.manifest = .resource kind spec →
      Confined view (Resting origin) (Sees key kind spec) (Touches key kind spec)
        (((Dispatch.engine config now object).bind (Dispatch.conclude config key object)).run
          (serve system (Simulator.provider simulator))) := fun object hobject => by
    refine (Dispatch.asks_resource config now key hobject).confined (fun _ => Touches.sees) ?_
    rintro _ (⟨call, rfl, hcall⟩ | ⟨expected, status, rfl⟩)
    · exact confined_call hcall
    · exact confined_commit expected status
  refine ⟨fun _ => Touches.sees, fun site h => ?_, fun site h place hplace => ?_,
    fun s t hs ht hsame => ?_⟩
  · obtain ⟨object, -, hresource, hpass⟩ := h.exists_work hmanifest
    rw [hpass]
    exact (hwork object hresource).valid site h
  · obtain ⟨object, -, hresource, hpass⟩ := h.exists_work hmanifest
    rw [hpass]
    exact (hwork object hresource).keeps site h place hplace
  · obtain ⟨object, hobject, hresource, hpass⟩ := hs.exists_work hmanifest
    obtain ⟨other, hother, -, hpassOther⟩ := ht.exists_work hmanifest
    -- the object is seen, so it is the same at both sites
    have hread : s.table.get? key = t.table.get? key := hsame (.object key) (.inl rfl)
    rw [hobject, hother] at hread
    cases hread
    rw [hpass, hpassOther]
    exact (hwork object hresource).agrees s t hs ht hsame

/-- A pass does not write where another one looks, if they are over different objects and resources
and the second resource is none that the first object depends on. -/
theorem not_touches_of_sees {first second : Key} {otherKind : ResourceKind}
    {otherSpec : otherKind.Spec} (hkeys : first ≠ second)
    (hne : (kind, kind.identifier spec) ≠ (otherKind, otherKind.identifier otherSpec))
    (hfree : (otherKind, otherKind.identifier otherSpec) ∉
      (Manifest.resource kind spec).dependencies)
    (place : Place) (h : Sees first kind spec place) :
    ¬ Touches second otherKind otherSpec place := by
  rcases h with rfl | ⟨target, hmem, rfl⟩
  · rintro (heq | heq)
    · cases heq
      exact hkeys rfl
    · cases heq
  · rintro (heq | heq)
    · cases heq
    · cases heq
      rcases List.mem_cons.mp hmem with hsame | hdepends
      · exact hne hsame.symm
      · exact hfree hdepends

/-- Independent passes commute. Passes over two objects that stand for different resources, neither
of which depends on the resource of the other, report the same and leave the same store and the
same resources in either order. -/
theorem passes_commute (config : EngineConfig) (simulator : SimulatorConfig) (now : Int64)
    (site : Site φ Simulator.State) {store : MemoryStore} (hstore : site.store = .memory store)
    (hcalm : site.memory.pending = none) {first second : Key} {object other : Declaration}
    (hfirst : store.table.get? first = some object)
    (hsecond : store.table.get? second = some other) {target otherTarget : Target}
    (hmanages : object.manifest.manages? = some target)
    (hmanagesOther : other.manifest.manages? = some otherTarget) (hne : target ≠ otherTarget)
    (hfree : otherTarget ∉ object.manifest.dependencies)
    (hfreeOther : target ∉ other.manifest.dependencies) :
    let pass := fun key (site : Site φ Simulator.State) =>
      site.pass system (Simulator.provider simulator) config now key
    (pass second (pass first site).2).2 = (pass first (pass second site).2).2 ∧
      (pass first (pass second site).2).1 = (pass first site).1 ∧
      (pass second (pass first site).2).1 = (pass second site).1 := by
  have htable : site.table = store.table := by rw [table, hstore]; rfl
  have hkeys : first ≠ second := by
    rintro rfl
    rw [hfirst] at hsecond
    cases hsecond
    exact hne (Option.some.inj (hmanages.symm.trans hmanagesOther))
  obtain ⟨kind, spec, hmanifest, rfl⟩ := Manifest.exists_of_manages? hmanages
  obtain ⟨otherKind, otherSpec, hmanifestOther, rfl⟩ := Manifest.exists_of_manages? hmanagesOther
  rw [hmanifest] at hfree
  rw [hmanifestOther] at hfreeOther
  have hone : (site.table.get? first).map (·.manifest) = some (.resource kind spec) := by
    rw [htable, hfirst, ← hmanifest]
    rfl
  have htwo : (site.table.get? second).map (·.manifest) = some (.resource otherKind otherSpec) := by
    rw [htable, hsecond, ← hmanifestOther]
    rfl
  have hpass : Confined view (Resting site) _ _
      fun site => site.pass system (Simulator.provider simulator) config now first :=
    confined_pass hone
  have hpassOther : Confined view (Resting site) _ _
      fun site => site.pass system (Simulator.provider simulator) config now second :=
    confined_pass htwo
  -- neither pass writes where the other one looks, so both orders come to the same places
  obtain ⟨hreport, hreportOther, hsame⟩ := hpass.comm hpassOther
    (not_touches_of_sees hkeys hne hfree) (not_touches_of_sees hkeys.symm hne.symm hfreeOther)
    (fun _ _ => Resting.eq_of_view) (Resting.refl hstore hcalm)
  exact ⟨hsame.symm, hreport, hreportOther⟩

/-! ## A cluster and an instance of another one -/

def clusterKey : Key := ⟨.resource .cluster, "db1"⟩

def instanceKey : Key := ⟨.resource .dbInstance, "db2-a"⟩

def clusterObject : Declaration :=
  ⟨clusterKey, 2, .resource .cluster
    ⟨"db1", "aurora-mysql", none, "admin", "secret", [], none, none⟩,
    .lifecycle ⟨.unprovisioned, 0, .empty⟩⟩

def instanceObject : Declaration :=
  ⟨instanceKey, 2, .resource .dbInstance
    ⟨"db2-a", "db2", "aurora-mysql", "db.r6g.large", none, none⟩,
    .lifecycle ⟨.unprovisioned, 0, .empty⟩⟩

def pairSite : Site Disk Simulator.State :=
  inMemory ⟨.ofList [clusterObject, instanceObject], []⟩ .fresh

/-- The cluster is created and the instance waits for its own one, whichever comes first. -/
theorem passes_commute_pairSite :
    let pass := fun key (site : Site Disk Simulator.State) =>
      site.pass Disk.system (Simulator.provider .default) .default 0 key
    (pass instanceKey (pass clusterKey pairSite).2).2 =
        (pass clusterKey (pass instanceKey pairSite).2).2 ∧
      (pass clusterKey (pass instanceKey pairSite).2).1.next = .ok (some .zero) ∧
      (pass instanceKey (pass clusterKey pairSite).2).1.next =
        .ok (some EngineConfig.default.onError) := by
  have hcluster : (Table.ofList [clusterObject, instanceObject]).get? clusterKey =
      some clusterObject := rfl
  have hinstance : (Table.ofList [clusterObject, instanceObject]).get? instanceKey =
      some instanceObject := rfl
  have hmanages : clusterObject.manifest.manages? = some (.cluster, "db1") := rfl
  have hmanagesOther : instanceObject.manifest.manages? = some (.dbInstance, "db2-a") := rfl
  obtain ⟨hsame, hreport, hreportOther⟩ := passes_commute .default .default 0 pairSite rfl rfl
    hcluster hinstance hmanages hmanagesOther (by decide) (by decide) (by decide)
  refine ⟨hsame, ?_, ?_⟩
  · rw [hreport]
    rfl
  · rw [hreportOther]
    rfl

end Site

end Reconciler
