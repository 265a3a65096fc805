import Mathlib.Data.List.Nodup
import Reconciler.Proofs.Convergence.Stage
import Reconciler.Proofs.Convergence.Topology
import Reconciler.Proofs.Site.Resource
import Reconciler.Proofs.Site.Rounds

/-!
# Convergence in rounds

A topology that is declared at a store in memory, next to a simulator without resources, is
provisioned after a number of rounds that depends on the simulator only. Each round has a pass
over every object, in any order, and the clock moves on by the window from round to round.

The number of passes that an object is away from being provisioned falls with every round, but
for the rounds in which it waits for an earlier layer (`LayerBound`). An object of layer `l` is
created in round `l + 2` at the latest, because by then all earlier layers have been.
-/

set_option autoImplicit false

namespace Reconciler

open Lifecycle Simulator

/-- The object of an entry is at a stage. -/
def Stands (config : EngineConfig) (sim : SimulatorConfig) (times : List Int64)
    (store : MemoryStore) (tables : Tables) (entry : Entry) (rounds : Nat) : Prop :=
  ∃ object status, store.table.get? entry.key = some object ∧
    object.manifest = entry.manifest ∧ object.status = .lifecycle status ∧
    Stage config sim times entry.kind entry.spec status
      (tables.find? entry.kind (entry.kind.identifier entry.spec)) rounds

/-- The object of an entry is as near to being provisioned as it has to be after a number of
rounds. -/
def LayerBound (config : EngineConfig) (sim : SimulatorConfig) (times : List Int64)
    (store : MemoryStore) (tables : Tables) (round : Nat) (entry : Entry) : Prop :=
  ∃ rounds, Stands config sim times store tables entry rounds ∧
    rounds ≤ max 1 sim.readyAfter.toNat + 3 + entry.kind.layer - round

variable {config : EngineConfig} {sim : SimulatorConfig} {times later : List Int64}
  {store : MemoryStore} {tables : Tables} {entries : List Entry} {round : Nat}

/-- A stage depends on the object and its resource only. -/
theorem Stands.congr {entry : Entry} {rounds : Nat} {after : MemoryStore} {current : Tables}
    (h : Stands config sim times store tables entry rounds)
    (hobject : after.table.get? entry.key = store.table.get? entry.key)
    (hresource : current.find? entry.kind (entry.kind.identifier entry.spec) =
      tables.find? entry.kind (entry.kind.identifier entry.spec)) :
    Stands config sim times after current entry rounds := by
  obtain ⟨object, status, hget, hmanifest, hstatus, hstage⟩ := h
  refine ⟨object, status, ?_, hmanifest, hstatus, ?_⟩
  · rw [hobject, hget]
  · rw [hresource]
    exact hstage

/-- An object is as near to provisioned at some of the times as it is at all of them. -/
theorem LayerBound.mono {entry : Entry}
    (h : LayerBound config sim times store tables round entry) (hsub : later ⊆ times) :
    LayerBound config sim later store tables round entry := by
  obtain ⟨rounds, ⟨object, status, hobject, hmanifest, hstatus, hstage⟩, hbound⟩ := h
  exact ⟨rounds, ⟨object, status, hobject, hmanifest, hstatus, hstage.mono hsub⟩, hbound⟩

/-- The bound of a later round is the stricter one. -/
theorem LayerBound.of_succ {entry : Entry}
    (h : LayerBound config sim times store tables (round + 1) entry) :
    LayerBound config sim times store tables round entry := by
  obtain ⟨rounds, hstands, hbound⟩ := h
  exact ⟨rounds, hstands, by omega⟩

/-- Different objects of a topology declare different resources. -/
theorem Topology.target_ne (topology : Topology entries) {entry other : Entry}
    (hentry : entry ∈ entries) (hother : other ∈ entries) (hkey : other.key ≠ entry.key) :
    entry.target ≠ other.target := by
  intro h
  obtain rfl := List.inj_on_of_nodup_map topology.targets hentry hother h
  exact hkey rfl

/-- From the round on in which the layer of an entry is due, its earlier layers are there. -/
theorem Topology.supplied_of_layerBound (topology : Topology entries)
    (hbounds : ∀ entry ∈ entries, ∃ times, LayerBound config sim times store tables round entry)
    {entry : Entry} (hentry : entry ∈ entries) (hdue : entry.kind.layer < round) :
    Supplied tables entry.kind entry.spec := by
  refine topology.supplied hentry fun other hother hlayer => ?_
  obtain ⟨times, rounds, ⟨object, status, -, -, -, hstage⟩, hbound⟩ := hbounds other hother
  rcases hstage.resource_cases with hmany | hthere
  · omega
  · exact hthere

section

variable {φ : Type} (system : FileSystem φ) (topology : Topology entries)
  (hlive : sim.dryRun = false)
include topology hlive

/-- A pass over one object brings it one round closer and leaves all others as they are. -/
theorem layerBound_pass {entry : Entry} (hentry : entry ∈ entries) {now : Int64}
    (hnow : now ∈ times) (hlater : Due config later (max now 1))
    {site : Site φ State} (hstore : site.store = .memory store)
    (hmemory : site.memory = .calm tables)
    (hentryBound : LayerBound config sim times store tables round entry)
    (hbounds : ∀ other ∈ entries,
      ∃ times, LayerBound config sim times store tables round other) :
    ∃ after current,
      (site.pass system (provider sim) config now entry.key).2 =
        { site with store := .memory after, memory := .calm current } ∧
      LayerBound config sim later after current (round + 1) entry ∧
      ∀ other ∈ entries, other.key ≠ entry.key → ∀ times round,
        LayerBound config sim times store tables round other →
          LayerBound config sim times after current round other := by
  obtain ⟨rounds, ⟨object, status, hobject, hmanifest, hstatus, hstage⟩, hbound⟩ := hentryBound
  obtain ⟨result, current, left, hrun, hnext, hleft⟩ :=
    hstage.step hlive (topology.sound entry hentry) hnow hlater
  rw [← hmemory] at hrun
  obtain ⟨after, object', hpass, hothers, hobject', hmanifest', hstatus', -⟩ :=
    site.pass_resource system (provider sim) config now hstore hobject rfl hmanifest hstatus hrun
  refine ⟨after, current, hpass, ⟨left, ⟨object', _, hobject', ?_, hstatus', hnext⟩, ?_⟩, ?_⟩
  · rw [hmanifest', hmanifest]
  · rcases hleft with hcloser | ⟨hlacking, hsame, hwaiting⟩
    · omega
    · -- it was refused, so its layer is not due yet
      have hearly : ¬ entry.kind.layer < round := fun hdue =>
        hlacking (topology.supplied_of_layerBound hbounds hentry hdue)
      omega
  · rintro other hother hkey times round ⟨rounds, hstands, hbound⟩
    rw [hmemory] at hrun
    have hresource := find?_of_run_pass hrun (topology.target_ne hentry hother hkey)
    exact ⟨rounds, hstands.congr (hothers other.key (Ne.symm hkey)) hresource, hbound⟩

/-- What is left of a round: the objects whose passes are still to come are where the round
before left them, and all others are one round further. -/
theorem layerBound_round (visits : Round) {site : Site φ State}
    (hstore : site.store = .memory store) (hmemory : site.memory = .calm tables)
    (hkeys : ∀ visit ∈ visits, visit.1 ∈ entries.map Entry.key)
    (hnodup : (visits.map Prod.fst).Nodup)
    (hlater : ∀ visit ∈ visits, Due config later (max visit.2 1))
    (hbefore : ∀ entry ∈ entries, entry.key ∈ visits.map Prod.fst →
      LayerBound config sim (visits.map Prod.snd ++ later) store tables round entry)
    (hafter : ∀ entry ∈ entries, entry.key ∉ visits.map Prod.fst →
      LayerBound config sim later store tables (round + 1) entry) :
    ∃ after current,
      site.passes system (provider sim) config visits =
        { site with store := .memory after, memory := .calm current } ∧
      ∀ entry ∈ entries, LayerBound config sim later after current (round + 1) entry := by
  -- By induction on the passes that are left: the first of them moves its object from those still
  -- to come to those that are done.
  induction visits generalizing site store tables with
  | nil =>
    refine ⟨store, tables, ?_, fun entry hentry => hafter entry hentry (by simp)⟩
    rw [← hstore, ← hmemory]
    rfl
  | cons visit rest ih =>
    obtain ⟨hfirst, hrest⟩ := List.nodup_cons.mp hnodup
    obtain ⟨entry, hentry, hkey⟩ := List.mem_map.mp (hkeys visit List.mem_cons_self)
    have hbounds : ∀ other ∈ entries,
        ∃ times, LayerBound config sim times store tables round other := by
      intro other hother
      by_cases hcoming : other.key ∈ (visit :: rest).map Prod.fst
      · exact ⟨_, hbefore other hother hcoming⟩
      · exact ⟨_, (hafter other hother hcoming).of_succ⟩
    have hentryBound := hbefore entry hentry (by simp [hkey])
    obtain ⟨after, current, hpass, hnext, hothers⟩ :=
      layerBound_pass system topology hlive hentry (List.mem_cons_self)
        (hlater visit List.mem_cons_self) hstore hmemory hentryBound hbounds
    rw [hkey] at hpass
    rw [Site.passes_cons, hpass]
    refine ih rfl rfl (fun visit h => hkeys visit (List.mem_cons_of_mem _ h)) hrest
      (fun visit h => hlater visit (List.mem_cons_of_mem _ h)) ?_ ?_
    · intro other hother hcoming
      have hne : other.key ≠ entry.key := fun h => hfirst (hkey ▸ h ▸ hcoming)
      refine (hothers other hother hne _ _ (hbefore other hother ?_)).mono ?_
      · exact List.mem_cons_of_mem _ hcoming
      · exact List.subset_cons_self _ _
    · intro other hother hpassed
      by_cases hsame : other.key = entry.key
      · obtain rfl := List.inj_on_of_nodup_map topology.keys hother hentry hsame
        exact hnext
      · refine hothers other hother hsame _ _ (hafter other hother ?_)
        intro hmem
        rcases List.mem_cons.mp hmem with h | h
        · exact hsame (h.trans hkey.symm)
        · exact hpassed h

/-- Every round brings every object closer, as far as its layer allows. -/
theorem layerBound_rounds (rounds : List Round) (site : Site φ State)
    (hstore : site.store = .memory store) (hmemory : site.memory = .calm tables)
    (horder : ∀ visits ∈ rounds, (visits.map Prod.fst).Perm (entries.map Entry.key))
    (hclock : ∀ visits ∈ rounds, ∀ visit ∈ visits, 1 ≤ visit.2.toInt)
    (hspaced : rounds.Pairwise fun earlier later => ∀ visit ∈ earlier, ∀ other ∈ later,
      visit.2.toInt + 1000 * (config.stabilizationSecs.toNat : Int) ≤ other.2.toInt)
    (hbounds : ∀ entry ∈ entries,
      LayerBound config sim (rounds.flatten.map Prod.snd) store tables round entry) :
    ∃ after current,
      site.passes system (provider sim) config rounds.flatten =
        { site with store := .memory after, memory := .calm current } ∧
      ∀ entry ∈ entries,
        LayerBound config sim [] after current (round + rounds.length) entry := by
  induction rounds generalizing site store tables round with
  | nil =>
    refine ⟨store, tables, ?_, hbounds⟩
    rw [← hstore, ← hmemory]
    rfl
  | cons visits rest ih =>
    obtain ⟨hfirst, hrest⟩ := List.pairwise_cons.mp hspaced
    have hperm := horder visits List.mem_cons_self
    have hall : ∀ entry ∈ entries, entry.key ∈ visits.map Prod.fst := fun entry hentry =>
      hperm.mem_iff.mpr (List.mem_map_of_mem hentry)
    have hlater : ∀ visit ∈ visits, Due config (rest.flatten.map Prod.snd) (max visit.2 1) := by
      intro visit hvisit now hnow
      obtain ⟨other, hother, rfl⟩ := List.mem_map.mp hnow
      obtain ⟨others, hothers, hother⟩ := List.mem_flatten.mp hother
      have hgap := hfirst others hothers visit hvisit other hother
      have hpos := hclock visits List.mem_cons_self visit hvisit
      -- a stamp is at least one, and so is the clock, so the gap counts from the stamp as well
      rw [Readiness.toInt_stamp]
      omega
    obtain ⟨after, current, hround, hnext⟩ :=
      layerBound_round system topology hlive visits hstore hmemory
        (fun visit h => hperm.mem_iff.mp (List.mem_map_of_mem h))
        (hperm.nodup_iff.mpr topology.keys) hlater
        (fun entry hentry _ => by simpa using hbounds entry hentry)
        (fun entry hentry hnone => absurd (hall entry hentry) hnone)
    obtain ⟨last, lastTables, hpasses, hbound⟩ := ih
      { site with store := .memory after, memory := .calm current } rfl rfl
      (fun visits h => horder visits (List.mem_cons_of_mem _ h))
      (fun visits h => hclock visits (List.mem_cons_of_mem _ h)) hrest hnext
    rw [List.flatten_cons, Site.passes_append, hround]
    refine ⟨last, lastTables, hpasses, fun entry hentry => ?_⟩
    rw [List.length_cons, Nat.add_comm rest.length, ← Nat.add_assoc]
    exact hbound entry hentry

end

end Reconciler
