import Reconciler.Proofs.Simulator.Creation
import Reconciler.Store.Memory

/-!
# Topologies

What is declared when a store is filled with manifests of resources that fit together, and in
which order the resources can come into being: groups first, then clusters, then instances.
-/

set_option autoImplicit false

namespace Reconciler

structure Entry where
  name : String
  kind : ResourceKind
  spec : kind.Spec

namespace Entry

def manifest (entry : Entry) : Manifest := .resource entry.kind entry.spec

def key (entry : Entry) : Key := ⟨.resource entry.kind, entry.name⟩

def target (entry : Entry) : Target := (entry.kind, entry.kind.identifier entry.spec)

end Entry

/-- The manifests fit together. -/
structure Topology (entries : List Entry) : Prop where
  named : ∀ entry ∈ entries, Text.isBlank entry.name = false
  keys : (entries.map Entry.key).Nodup
  targets : (entries.map Entry.target).Nodup
  closed : ∀ entry ∈ entries, ∀ target ∈ entry.manifest.dependencies,
    ∃ other ∈ entries, other.target = target
  engines : ∀ name spec cluster clusterSpec, ⟨name, .dbInstance, spec⟩ ∈ entries →
    ⟨cluster, .cluster, clusterSpec⟩ ∈ entries → clusterSpec.id = spec.cluster →
    clusterSpec.engine = spec.engine
  sound : ∀ entry ∈ entries, Simulator.Sound entry.kind entry.spec

/-! ## Filling a store -/

def MemoryStore.filled (entries : List Entry) (store : MemoryStore) : MemoryStore :=
  entries.foldl (fun store entry => (store.apply entry.name entry.manifest).2) store

namespace MemoryStore

/-- A manifest under a new key is declared afresh. -/
theorem get?_apply (store : MemoryStore) {entry : Entry}
    (hnamed : Text.isBlank entry.name = false) (habsent : store.table.get? entry.key = none)
    (key : Key) :
    (store.apply entry.name entry.manifest).2.table.get? key =
      if entry.key = key then some (.fresh entry.name entry.manifest)
      else store.table.get? key := by
  have hnone : store.table.objects[(⟨entry.manifest.kind, entry.name⟩ : Key)]? = none := habsent
  have hresult : store.table.apply entry.name entry.manifest =
      .ok (.fresh entry.name entry.manifest, ⟨store.table.objects.insert
        ⟨entry.manifest.kind, entry.name⟩ (.fresh entry.name entry.manifest)⟩) := by
    simp only [Table.apply, hnamed, hnone]
    rfl
  have hget := Table.get?_of_apply hresult key
  simp only [apply, hresult]
  exact hget

/-- A store that is filled with manifests under new keys has each of them afresh, and otherwise
what it had. -/
theorem get?_filled {entries : List Entry} (store : MemoryStore)
    (hnamed : ∀ entry ∈ entries, Text.isBlank entry.name = false)
    (hkeys : (entries.map Entry.key).Nodup)
    (habsent : ∀ entry ∈ entries, store.table.get? entry.key = none) :
    (∀ entry ∈ entries, (store.filled entries).table.get? entry.key =
      some (.fresh entry.name entry.manifest)) ∧
    ∀ key, key ∉ entries.map Entry.key →
      (store.filled entries).table.get? key = store.table.get? key := by
  -- By induction on the entries: the first is declared, and the rest have other keys.
  induction entries generalizing store with
  | nil => exact ⟨by simp, fun _ _ => rfl⟩
  | cons first rest ih =>
    obtain ⟨hfirst, hrest⟩ := List.nodup_cons.mp hkeys
    have hget := store.get?_apply (hnamed first List.mem_cons_self)
      (habsent first List.mem_cons_self)
    have hnew : ∀ entry ∈ rest, (store.apply first.name first.manifest).2.table.get? entry.key =
        none := by
      intro entry hentry
      have hne : first.key ≠ entry.key := fun h =>
        hfirst (h ▸ List.mem_map_of_mem hentry)
      rw [hget, if_neg hne]
      exact habsent entry (List.mem_cons_of_mem _ hentry)
    obtain ⟨hthere, hother⟩ := ih (store.apply first.name first.manifest).2
      (fun entry hentry => hnamed entry (List.mem_cons_of_mem _ hentry)) hrest hnew
    refine ⟨?_, ?_⟩
    · intro entry hentry
      rcases List.mem_cons.mp hentry with rfl | hentry
      · have hkept := hother entry.key hfirst
        rw [hget, if_pos rfl] at hkept
        exact hkept
      · exact hthere entry hentry
    · intro key hkey
      obtain ⟨hne, hkey⟩ := not_or.mp (mt List.mem_cons.mpr hkey)
      have hkept := hother key hkey
      rw [hget, if_neg (Ne.symm hne)] at hkept
      exact hkept

end MemoryStore

/-! ## Layers -/

/-- The layer in which resources of a kind come into being. -/
def ResourceKind.layer : ResourceKind → Nat
  | .cluster => 1
  | .dbInstance => 2
  | _ => 0

/-- What a resource builds on is of a lower layer than the resource. -/
theorem layer_lt_of_mem_dependencies {kind : ResourceKind} {spec : kind.Spec} {target : Target}
    (h : target ∈ (Manifest.resource kind spec).dependencies) :
    target.1.layer < kind.layer := by
  cases kind with
  | parameterGroup | clusterParameterGroup | subnetGroup => cases h
  | cluster =>
    rcases List.mem_append.mp h with h | h
    · obtain ⟨group, -, rfl⟩ := Option.map_eq_some_iff.mp (Option.mem_toList.mp h)
      exact Nat.zero_lt_one
    · obtain ⟨group, -, rfl⟩ := Option.map_eq_some_iff.mp (Option.mem_toList.mp h)
      exact Nat.zero_lt_one
  | dbInstance =>
    rcases List.mem_cons.mp h with rfl | h
    · exact Nat.one_lt_two
    · obtain ⟨group, -, rfl⟩ := Option.map_eq_some_iff.mp (Option.mem_toList.mp h)
      exact Nat.zero_lt_two

/-- Once the resources of the earlier layers are there, the simulator finds what it needs. -/
theorem Topology.supplied {entries : List Entry} (topology : Topology entries)
    {tables : Simulator.Tables} {entry : Entry} (hentry : entry ∈ entries)
    (hearlier : ∀ other ∈ entries, other.kind.layer < entry.kind.layer →
      ∃ phase, tables.find? other.kind (other.kind.identifier other.spec) =
        some (Simulator.built other.kind other.spec, phase)) :
    Simulator.Supplied tables entry.kind entry.spec := by
  have hthere : ∀ target ∈ entry.manifest.dependencies,
      (tables.find? target.1 target.2).isSome := by
    intro target htarget
    obtain ⟨other, hother, rfl⟩ := topology.closed entry hentry target htarget
    obtain ⟨phase, hphase⟩ := hearlier other hother (layer_lt_of_mem_dependencies htarget)
    rw [Entry.target, hphase]
    rfl
  have hsound := topology.sound entry hentry
  obtain ⟨name, kind, spec⟩ := entry
  cases kind with
  | parameterGroup | clusterParameterGroup => trivial
  | subnetGroup => exact hsound
  | cluster =>
    refine ⟨fun group hgroup => ?_, fun group hgroup => ?_⟩
    · refine hthere (.subnetGroup, group) (List.mem_append_right _ ?_)
      exact Option.mem_toList.mpr (Option.map_eq_some_iff.mpr ⟨group, hgroup, rfl⟩)
    · refine hthere (.clusterParameterGroup, group) (List.mem_append_left _ ?_)
      exact Option.mem_toList.mpr (Option.map_eq_some_iff.mpr ⟨group, hgroup, rfl⟩)
  | dbInstance =>
    have howner : (ResourceKind.cluster, spec.cluster) ∈
        (Manifest.resource .dbInstance spec).dependencies := List.mem_cons_self
    refine ⟨?_, fun group hgroup => ?_⟩
    -- the cluster must be there with the engine of the instance, so its own spec is needed
    · obtain ⟨other, hother, htarget⟩ := topology.closed _ hentry _ howner
      have hlayer := layer_lt_of_mem_dependencies howner
      obtain ⟨cluster, kind, clusterSpec⟩ := other
      obtain ⟨rfl, hid⟩ := Prod.mk.inj htarget
      obtain ⟨phase, hphase⟩ := hearlier _ hother hlayer
      dsimp only at hphase
      rw [hid] at hphase
      exact ⟨_, phase, hphase, topology.engines name spec cluster clusterSpec hentry hother hid⟩
    · refine hthere (.parameterGroup, group) (List.mem_cons_of_mem _ ?_)
      exact Option.mem_toList.mpr (Option.map_eq_some_iff.mpr ⟨group, hgroup, rfl⟩)

end Reconciler
