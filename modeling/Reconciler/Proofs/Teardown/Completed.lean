import Reconciler.Proofs.Teardown.Rounds

/-!
# Completion of a teardown

Whatever uses what, and in whichever order the requests are tried, all deletion requests are
completed after five rounds and twice as many more as a deleted resource takes looks, and the
simulator is empty.
-/

set_option autoImplicit false

namespace Reconciler

open Deletion Simulator

namespace Teardown

variable {φ : Type} {sim : SimulatorConfig} {table : Table} {tables : Tables}
  {site : Site φ State}

/-- At the start of a teardown all that stays true of its site is true. -/
theorem sound_start (teardown : Teardown table tables) {store : MemoryStore}
    (hstore : site.store = .memory store) (htable : site.table = table)
    (hmemory : site.memory = .calm tables) : Sound table site where
  inMemory := ⟨store, hstore⟩
  calm := by rw [hmemory]; rfl
  manifests key := by rw [htable]
  covered kind identifier hthere := by
    rw [hmemory] at hthere
    exact (teardown.covered kind identifier hthere).exists

/-- At the start every request is near enough to being completed. -/
theorem near_start (teardown : Teardown table tables) (htable : site.table = table)
    (hmemory : site.memory = .calm tables) {key : Key} {object : Declaration}
    (hobject : table.get? key = some object) : Near sim 0 key site := by
  obtain ⟨-, hstatus, kind, identifier, hmanifest, hthere⟩ := teardown.asked key object hobject
  obtain ⟨⟨resource, phase⟩, hfound⟩ := Option.isSome_iff_exists.mp hthere
  have hphase : phase.goneIn? = none := by
    cases phase with
    | settled | creating _ | modifying _ => rfl
    | deleting left => exact absurd hfound (teardown.settled kind identifier resource left)
  refine ⟨kind, identifier, looks sim kind + 2, ⟨object, .noState, ?_, hmanifest, hstatus, ?_⟩, ?_⟩
  · rw [htable, hobject]
  · have hcurrent : site.memory.tables.find? kind identifier = some (resource, phase) := by
      rw [hmemory]
      exact hfound
    rw [hcurrent]
    exact .fresh resource phase hphase
  · exact looks_le_deadline sim kind

end Teardown

/-- A teardown is completed. A round is one pass over every request, in any order and at any
times. In the end the objects are those of the start, all of them completed, and the simulator
has no resource left. -/
theorem teardown_completes {φ : Type} (system : FileSystem φ) (config : EngineConfig)
    (sim : SimulatorConfig) (hlive : sim.dryRun = false) (store : MemoryStore) (tables : Tables)
    (teardown : Teardown store.table tables) (site : Site φ State)
    (hstore : site.store = .memory store) (hmemory : site.memory = ⟨tables, none⟩)
    (rounds : List Round)
    (horder : ∀ visits ∈ rounds, (visits.map Prod.fst).Perm store.table.objects.keys)
    (hlong : 5 + 2 * max 1 sim.deleteAfter.toNat ≤ rounds.length) :
    let final := site.passes system (provider sim) config rounds.flatten
    (∀ key, (final.table.get? key).map Declaration.manifest =
      (store.table.get? key).map Declaration.manifest) ∧
    (∀ key object, final.table.get? key = some object →
      object.status = .deletion .completed) ∧
    final.memory = .fresh := by
  have htable : site.table = store.table := by rw [Site.table, hstore]; rfl
  have hkeys : ∀ key, (store.table.get? key).isSome ↔ key ∈ store.table.objects.keys := by
    intro key
    rw [Std.ExtTreeMap.mem_keys, Std.ExtTreeMap.mem_iff_isSome_getElem?]
    rfl
  have hstart : ∀ key ∈ store.table.objects.keys, Teardown.Near sim 0 key site := by
    intro key hkey
    obtain ⟨object, hobject⟩ := Option.isSome_iff_exists.mp ((hkeys key).mpr hkey)
    exact teardown.near_start htable hmemory hobject
  obtain ⟨hsound, hnear⟩ :=
    (Teardown.advances system config hlive teardown hkeys).rounds (fun _ _ _ => .of_succ)
      Std.ExtTreeMap.nodup_keys rounds horder (teardown.sound_start hstore htable hmemory) hstart
  intro final
  have hlate : ∀ kind, Teardown.deadline sim kind ≤ 0 + rounds.length := fun kind => by
    have hbound := Teardown.deadline_le sim kind
    omega
  refine ⟨hsound.manifests, fun key object hobject => ?_, ?_⟩
  · -- the object is the request that was there at the start, and its deadline is over
    have hrequest := hsound.manifests key
    rw [show site.passes system (provider sim) config rounds.flatten = final from rfl, hobject,
      Option.map_some] at hrequest
    obtain ⟨request, hget, hmanifest⟩ := Option.map_eq_some_iff.mp hrequest.symm
    obtain ⟨-, -, kind, identifier, hspec, -⟩ := teardown.asked key request hget
    have hkey : key ∈ store.table.objects.keys := (hkeys key).mp (by rw [hget]; rfl)
    obtain ⟨-, object', hobject', -, hstatus⟩ :=
      (hnear key hkey).completed hsound (by rw [hget, Option.map_some, hspec]) (hlate kind)
    obtain rfl := Option.some.inj (hobject.symm.trans hobject')
    exact hstatus
  · -- every deadline is over, so no kind has a resource left
    have hempty : final.memory.tables = .empty := Tables.eq_empty_of_find? fun kind =>
      Teardown.gone_of_late hsound (fun key => (hkeys key).mp) hnear (hlate kind)
    have hcalm : final.memory.pending = none := hsound.calm
    generalize final.memory = memory at hempty hcalm
    obtain ⟨current, pending⟩ := memory
    cases hempty
    cases hcalm
    rfl

/-! ## An instance, its cluster and the subnet group of the cluster -/

def smallTables : Tables where
  clusters := Std.ExtTreeMap.empty.insert "db1" ⟨newCluster ⟨"db1", "aurora-postgresql", none,
    "admin", "hunter22", [], some "private", none⟩, .settled⟩
  instances := Std.ExtTreeMap.empty.insert "db1-a" ⟨newInstance ⟨"db1-a", "db1",
    "aurora-postgresql", "db.r6g.large", none, none⟩, .creating 1⟩
  instanceGroups := ∅
  clusterGroups := ∅
  subnetGroups := Std.ExtTreeMap.empty.insert "private"
    ⟨"private", "private subnets", ["subnet-a", "subnet-b"], "Complete"⟩

def smallTargets : List Target :=
  [(.dbInstance, "db1-a"), (.cluster, "db1"), (.subnetGroup, "private")]

def smallRequest (target : Target) : Declaration :=
  .fresh target.2 (.deletion ⟨target.1, target.2⟩)

def smallRequests : Table :=
  .ofList (smallTargets.map smallRequest)

/-- There are three requests in the small teardown, one for each resource. -/
theorem get?_smallRequests (key : Key) : smallRequests.get? key =
    if ⟨.deletion, "private"⟩ = key then some (smallRequest (.subnetGroup, "private"))
    else if ⟨.deletion, "db1"⟩ = key then some (smallRequest (.cluster, "db1"))
    else if ⟨.deletion, "db1-a"⟩ = key then some (smallRequest (.dbInstance, "db1-a"))
    else none := by
  simp only [smallRequests, smallTargets, Table.ofList, List.map_cons, List.map_nil,
    List.foldl_cons, List.foldl_nil, Table.get?_put, Table.get?_empty]
  rfl

/-- Every request of the small teardown is for one of its targets. -/
theorem target_of_get? {key : Key} {object : Declaration}
    (h : smallRequests.get? key = some object) :
    ∃ target ∈ smallTargets, key = ⟨.deletion, target.2⟩ ∧ object = smallRequest target := by
  rw [get?_smallRequests] at h
  split at h
  · next hkey => exact ⟨(.subnetGroup, "private"), by decide, hkey.symm, (Option.some.inj h).symm⟩
  split at h
  · next hkey => exact ⟨(.cluster, "db1"), by decide, hkey.symm, (Option.some.inj h).symm⟩
  split at h
  · next hkey => exact ⟨(.dbInstance, "db1-a"), by decide, hkey.symm, (Option.some.inj h).symm⟩
  cases h

/-- Every target of the small teardown has a request. -/
theorem get?_of_target : ∀ target ∈ smallTargets,
    smallRequests.get? ⟨.deletion, target.2⟩ = some (smallRequest target) := by
  simp only [get?_smallRequests]
  decide

/-- The resources of the small teardown are its targets. -/
theorem isSome_find?_smallTables (kind : ResourceKind) (identifier : String) :
    (smallTables.find? kind identifier).isSome ↔ (kind, identifier) ∈ smallTargets := by
  cases kind with
  | parameterGroup | clusterParameterGroup => simp [smallTables, smallTargets, Tables.find?]
  | cluster | dbInstance | subnetGroup =>
    simpa [smallTables, smallTargets, Tables.find?, Std.ExtTreeMap.getElem?_insert] using eq_comm

/-- The small tables and their requests are a teardown. -/
theorem teardown_smallTables : Teardown smallRequests smallTables where
  asked key object hobject := by
    obtain ⟨⟨kind, identifier⟩, htarget, rfl, rfl⟩ := target_of_get? hobject
    exact ⟨rfl, rfl, kind, identifier, rfl, (isSome_find?_smallTables kind identifier).mpr htarget⟩
  covered kind identifier hthere := by
    have hthere := (isSome_find?_smallTables kind identifier).mp hthere
    refine ⟨⟨.deletion, identifier⟩, ?_, ?_⟩
    · exact congrArg (Option.map Declaration.manifest) (get?_of_target _ hthere)
    · intro key hkey
      obtain ⟨object, hobject, hmanifest⟩ := Option.map_eq_some_iff.mp hkey
      obtain ⟨⟨other, name⟩, -, rfl, rfl⟩ := target_of_get? hobject
      cases hmanifest
      rfl
  settled kind identifier resource left := by
    cases kind <;> simp [smallTables, Tables.find?, Std.ExtTreeMap.getElem?_insert]

/-- Nine rounds of which every second one is the other way round. -/
def teardownRounds : List Round :=
  (List.range 9).map fun n =>
    (if n % 2 = 0 then smallRequests.objects.keys else smallRequests.objects.keys.reverse).map
      fun key => (key, Int64.ofNat n)

/-- After nine rounds in changing order all three requests are completed and no resource is left. -/
theorem teardown_completes_smallRequests :
    let start := Site.inMemory ⟨smallRequests, []⟩ ⟨smallTables, none⟩
    let final := start.passes Disk.system (provider ⟨2, 2, false⟩) .default teardownRounds.flatten
    (∀ target ∈ smallTargets, ∃ object, final.table.get? ⟨.deletion, target.2⟩ = some object ∧
      object.status = .deletion .completed) ∧
    final.memory = .fresh := by
  have horder : ∀ visits ∈ teardownRounds,
      (visits.map Prod.fst).Perm smallRequests.objects.keys := by
    intro visits hvisits
    obtain ⟨n, -, rfl⟩ := List.mem_map.mp hvisits
    simp only [List.map_map, Function.comp_def, List.map_id']
    split
    · exact .refl _
    · exact List.reverse_perm _
  obtain ⟨hsame, hcompleted, hempty⟩ :=
    teardown_completes Disk.system .default ⟨2, 2, false⟩ rfl ⟨smallRequests, []⟩ smallTables
      teardown_smallTables (Site.inMemory ⟨smallRequests, []⟩ ⟨smallTables, none⟩) rfl rfl
      teardownRounds horder (by decide)
  refine ⟨fun target htarget => ?_, hempty⟩
  have hmanifest := hsame ⟨.deletion, target.2⟩
  rw [get?_of_target target htarget] at hmanifest
  obtain ⟨object, hobject, -⟩ := Option.map_eq_some_iff.mp hmanifest
  exact ⟨object, hobject, hcompleted _ object hobject⟩

end Reconciler
