import Reconciler.Proofs.Convergence.Rounds
import Reconciler.Proofs.Site

/-!
# Convergence of a topology

A topology at a fresh live simulator is provisioned after five rounds and as many more as a new
resource takes looks, and from then on stays as it is: no pass writes to the store or asks the
simulator to change anything.
-/

set_option autoImplicit false

namespace Reconciler

open Lifecycle Simulator

variable {config : EngineConfig} {sim : SimulatorConfig} {store : MemoryStore} {tables : Tables}
  {entries : List Entry}

/-! ## Once all objects are provisioned -/

section

variable {φ : Type} (system : FileSystem φ) (topology : Topology entries)
include topology

/-- A pass over an object leaves the store as it is and all objects provisioned. -/
theorem provisioned_pass {entry : Entry} (hentry : entry ∈ entries) (now : Int64)
    {site : Site φ State} (hstore : site.store = .memory store)
    (hmemory : site.memory = .calm tables)
    (hall : ∀ other ∈ entries, Stands config sim [] store tables other 0) :
    ∃ current,
      (site.pass system (provider sim) config now entry.key).2 =
        { site with memory := .calm current } ∧
      ∀ other ∈ entries, Stands config sim [] store current other 0 := by
  obtain ⟨object, status, hobject, hmanifest, hstatus, hstage⟩ := hall entry hentry
  generalize hresource : tables.find? entry.kind (entry.kind.identifier entry.spec) = resource
    at hstage
  cases hstage with
  | provisioned since =>
    obtain ⟨current, hrun, hcurrent⟩ :=
      run_verified config now sim (drift_built (topology.sound entry hentry)) since hresource
    have hrunSite := hrun
    rw [← hmemory] at hrunSite
    obtain ⟨after, object', hpass, -, -, -, -, hsame⟩ :=
      site.pass_resource system (provider sim) config now hstore hobject rfl hmanifest hstatus
        hrunSite
    obtain rfl := hsame rfl
    refine ⟨current, ?_, fun other hother => ?_⟩
    · rw [hpass, ← hstore]
    · by_cases hkey : other.key = entry.key
      · obtain rfl := List.inj_on_of_nodup_map topology.keys hother hentry hkey
        refine (hall other hother).congr rfl ?_
        rw [hcurrent, hresource]
      · have hothers := find?_of_run_pass hrun (topology.target_ne hentry hother hkey)
        exact (hall other hother).congr rfl hothers

/-- Passes over a topology that stands change nothing but the tables of the simulator, and it still
stands. -/
theorem provisioned_passes (visits : List (Key × Int64)) (site : Site φ State)
    (hstore : site.store = .memory store) (hmemory : site.memory = .calm tables)
    (hkeys : ∀ visit ∈ visits, visit.1 ∈ entries.map Entry.key)
    (hall : ∀ entry ∈ entries, Stands config sim [] store tables entry 0) :
    ∃ current,
      site.passes system (provider sim) config visits = { site with memory := .calm current } ∧
      ∀ entry ∈ entries, Stands config sim [] store current entry 0 := by
  induction visits generalizing site tables with
  | nil =>
    refine ⟨tables, ?_, hall⟩
    rw [← hmemory]
    rfl
  | cons visit rest ih =>
    obtain ⟨entry, hentry, hkey⟩ := List.mem_map.mp (hkeys visit List.mem_cons_self)
    obtain ⟨current, hpass, hnext⟩ :=
      provisioned_pass system topology hentry visit.2 hstore hmemory hall
    rw [hkey] at hpass
    obtain ⟨last, hpasses, hlast⟩ := ih { site with memory := .calm current } hstore rfl
      (fun visit h => hkeys visit (List.mem_cons_of_mem _ h)) hnext
    refine ⟨last, ?_, hlast⟩
    rw [Site.passes_cons, hpass]
    exact hpasses

end

/-- A provisioned object is in the store with its status. -/
theorem Stands.provisioned {times : List Int64} {entry : Entry}
    (h : Stands config sim times store tables entry 0) :
    ∃ object status, store.table.get? entry.key = some object ∧
      object.manifest = entry.manifest ∧ object.status = .lifecycle status ∧
      status.state = .provisioned := by
  obtain ⟨object, status, hobject, hmanifest, hstatus, hstage⟩ := h
  generalize tables.find? entry.kind (entry.kind.identifier entry.spec) = resource at hstage
  cases hstage with
  | provisioned since => exact ⟨object, _, hobject, hmanifest, hstatus, rfl⟩

/-! ## From the declaration on -/

/-- Declared objects are not reconciled yet, and a fresh simulator has nothing. -/
theorem layerBound_filled (topology : Topology entries) (watches : Watches)
    {times : List Int64} {entry : Entry} (hentry : entry ∈ entries) :
    LayerBound config sim times (MemoryStore.filled entries ⟨.empty, watches⟩) .empty 0 entry := by
  have hfilled := (MemoryStore.get?_filled ⟨.empty, watches⟩ topology.named topology.keys
    (fun _ _ => by simp [Table.empty, Table.get?])).1 entry hentry
  refine ⟨max 1 sim.readyAfter.toNat + 3, ⟨_, .initial, hfilled, rfl, rfl, ?_⟩, by omega⟩
  rw [Tables.find?_empty]
  exact .fresh

/-- A declared topology converges. A round is one pass over every object, in any order, and the
clock moves on by the window from one round to the next. No pass over an object that comes
later, whatever its time and its place in a round, changes the store or asks for a change. -/
theorem topology_converges {φ : Type} (system : FileSystem φ) (config : EngineConfig)
    (sim : SimulatorConfig) (hlive : sim.dryRun = false) {entries : List Entry}
    (topology : Topology entries) (watches : Watches) (site : Site φ State)
    (hstore : site.store = .memory (MemoryStore.filled entries ⟨.empty, watches⟩))
    (hmemory : site.memory = .fresh) (rounds : List Round)
    (horder : ∀ visits ∈ rounds, (visits.map Prod.fst).Perm (entries.map Entry.key))
    (hclock : ∀ visits ∈ rounds, ∀ visit ∈ visits, 1 ≤ visit.2.toInt)
    (hspaced : rounds.Pairwise fun earlier later => ∀ visit ∈ earlier, ∀ other ∈ later,
      visit.2.toInt + 1000 * (config.stabilizationSecs.toNat : Int) ≤ other.2.toInt)
    (hlong : 5 + max 1 sim.readyAfter.toNat ≤ rounds.length) :
    let converged := site.passes system (provider sim) config rounds.flatten
    (∀ entry ∈ entries, ∃ object status, converged.table.get? entry.key = some object ∧
      object.manifest = entry.manifest ∧ object.status = .lifecycle status ∧
      status.state = .provisioned) ∧
    ∀ later : List (Key × Int64), (∀ visit ∈ later, visit.1 ∈ entries.map Entry.key) →
      let current := converged.passes system (provider sim) config later
      current.store = converged.store ∧
        ∀ key ∈ entries.map Entry.key, ∀ now call moment,
          (.call call, moment) ∈ current.requests system (provider sim) config now key →
            call.isWrite = false := by
  obtain ⟨store, tables, hconverged, hbounds⟩ :=
    layerBound_rounds system topology hlive rounds site hstore hmemory horder hclock hspaced
      (fun entry hentry => layerBound_filled topology watches hentry)
  -- there are as many rounds as the last layer takes, so no object has a pass left to settle
  have hall : ∀ entry ∈ entries, Stands config sim [] store tables entry 0 := by
    intro entry hentry
    obtain ⟨left, hstands, hbound⟩ := hbounds entry hentry
    have hlayer : entry.kind.layer ≤ 2 := by cases entry.kind <;> decide
    obtain rfl : left = 0 := by omega
    exact hstands
  intro converged
  have hsite : converged = { site with store := .memory store, memory := .calm tables } :=
    hconverged
  refine ⟨fun entry hentry => ?_, fun later hkeys => ?_⟩
  · rw [hsite]
    exact (hall entry hentry).provisioned
  · obtain ⟨current, hpasses, hstill⟩ := provisioned_passes system topology later converged
      (by rw [hsite]) (by rw [hsite]) hkeys hall
    rw [hpasses]
    refine ⟨rfl, ?_⟩
    intro key hkey now call moment hcall
    obtain ⟨entry, hentry, rfl⟩ := List.mem_map.mp hkey
    obtain ⟨object, status, hobject, hmanifest, hstatus, hstate⟩ :=
      (hstill entry hentry).provisioned
    refine Site.isWrite_of_provisioned system (provider sim) config now ?_ hmanifest hstatus
      hstate hcall
    rw [hsite]
    exact hobject

/-! ## An instance, its cluster and the groups of the cluster -/

/-- Dependents come first, so that the simulator refuses to create them at the start. -/
def smallTopology : List Entry :=
  [⟨"db1-a", .dbInstance, ⟨"db1-a", "db1", "aurora-postgresql", "db.r6g.large", none, none⟩⟩,
   ⟨"db1", .cluster, ⟨"db1", "aurora-postgresql", some "15.4", "admin", "hunter22", ["sg-1"],
     some "private", some "pg15-cluster"⟩⟩,
   ⟨"pg15-cluster", .clusterParameterGroup, ⟨"pg15-cluster", "aurora-postgresql15",
     "cluster defaults", [⟨"log_min_duration_statement", "500"⟩]⟩⟩,
   ⟨"private", .subnetGroup, ⟨"private", "private subnets", ["subnet-a", "subnet-b"]⟩⟩]

/-- An instance in a cluster with its parameter group and its subnet group are a topology. -/
theorem topology_smallTopology : Topology smallTopology where
  named := by decide
  keys := by decide
  targets := by decide
  closed := by decide
  engines := by
    intro name spec cluster clusterSpec hinstance hcluster _
    simp only [smallTopology, List.mem_cons, Entry.mk.injEq, reduceCtorEq, false_and, and_false,
      List.not_mem_nil, or_false, false_or, true_and, heq_eq_eq] at hinstance hcluster
    rw [hinstance.2, hcluster.2]
  sound := by
    intro entry hentry
    simp only [smallTopology, List.mem_cons, List.not_mem_nil, or_false] at hentry
    rcases hentry with rfl | rfl | rfl | rfl
    · trivial
    · trivial
    · intro p hp q hq _
      rw [List.mem_singleton.mp hp, List.mem_singleton.mp hq]
    · exact Nat.le_refl 2

/-- Seven rounds of which every second one is the other way round, two minutes apart. -/
def smallRounds : List Round :=
  (List.range 7).map fun n =>
    (if n % 2 = 0 then smallTopology else smallTopology.reverse).map fun entry =>
      (entry.key, Int64.ofNat (1 + 120000 * n))

/-- The small topology is provisioned after seven rounds in changing order, and seven rounds more
write nothing. -/
theorem topology_converges_smallTopology :
    let start := Site.inMemory (MemoryStore.filled smallTopology ⟨.empty, []⟩) .fresh
    let converged :=
      start.passes Disk.system (provider ⟨2, 2, false⟩) .default smallRounds.flatten
    (∀ entry ∈ smallTopology, ∃ object status,
      converged.table.get? entry.key = some object ∧ object.manifest = entry.manifest ∧
        object.status = .lifecycle status ∧ status.state = .provisioned) ∧
    (converged.passes Disk.system (provider ⟨2, 2, false⟩) .default smallRounds.flatten).store =
      converged.store := by
  have horder : ∀ visits ∈ smallRounds,
      (visits.map Prod.fst).Perm (smallTopology.map Entry.key) := by
    intro visits hvisits
    obtain ⟨n, -, rfl⟩ := List.mem_map.mp hvisits
    rw [List.map_map]
    refine List.Perm.map _ ?_
    split
    · exact .refl _
    · exact List.reverse_perm _
  have hclock : ∀ visits ∈ smallRounds, ∀ visit ∈ visits, 1 ≤ visit.2.toInt := by decide
  have hkeys : ∀ visit ∈ smallRounds.flatten, visit.1 ∈ smallTopology.map Entry.key := by
    intro visit hvisit
    obtain ⟨visits, hvisits, hvisit⟩ := List.mem_flatten.mp hvisit
    exact (horder visits hvisits).mem_iff.mp (List.mem_map_of_mem hvisit)
  obtain ⟨hprovisioned, hstill⟩ :=
    topology_converges Disk.system .default ⟨2, 2, false⟩ rfl topology_smallTopology []
      (Site.inMemory (MemoryStore.filled smallTopology ⟨.empty, []⟩) .fresh) rfl rfl smallRounds
      horder hclock (by decide) (by decide)
  exact ⟨hprovisioned, (hstill smallRounds.flatten hkeys).1⟩

end Reconciler
