import Mathlib.Logic.ExistsUnique
import Reconciler.Proofs.Site
import Reconciler.Proofs.Site.Deletion
import Reconciler.Proofs.Site.Rounds
import Reconciler.Proofs.Teardown.Stage

/-!
# Teardown in rounds

When there is a deletion request for every resource of a live simulator and nothing else is
declared, all requests are completed after a number of rounds that depends on the simulator
only, and the simulator is empty. Each round has a pass over every request, in any order.

The number of passes that a request is away from being completed falls with every round, but for
the rounds in which its target is in use (`Near`). Nothing uses an instance; what uses any other
resource is of one kind, and all resources of that kind are gone by their own deadline.
-/

set_option autoImplicit false

namespace Reconciler

open Deletion Simulator

/-- The objects of a table are new deletion requests, one for every resource of the simulator,
where nothing is being deleted yet. -/
structure Teardown (table : Table) (tables : Tables) : Prop where
  /-- Every object asks for the deletion of a resource. -/
  asked : ∀ key object, table.get? key = some object →
    key.kind = .deletion ∧ object.status = .deletion .noState ∧
      ∃ kind identifier, object.manifest = .deletion ⟨kind, identifier⟩ ∧
        (tables.find? kind identifier).isSome
  /-- Every resource has exactly one object that asks for its deletion. -/
  covered : ∀ kind identifier, (tables.find? kind identifier).isSome →
    ∃! key, (table.get? key).map Declaration.manifest = some (.deletion ⟨kind, identifier⟩)
  /-- No resource is going away. -/
  settled : ∀ kind identifier resource left,
    tables.find? kind identifier ≠ some (resource, .deleting left)

namespace Teardown

/-- The round in which the requests for resources of a kind are completed at the latest. -/
def deadline (sim : SimulatorConfig) : ResourceKind → Nat
  | .dbInstance => max 1 sim.deleteAfter.toNat + 2
  | .cluster => 2 * max 1 sim.deleteAfter.toNat + 3
  | .parameterGroup => max 1 sim.deleteAfter.toNat + 4
  | .clusterParameterGroup => 2 * max 1 sim.deleteAfter.toNat + 5
  | .subnetGroup => 2 * max 1 sim.deleteAfter.toNat + 5

variable {config : EngineConfig} {sim : SimulatorConfig} {requested : Table}

/-- The looks at a deleted resource, and two rounds for its request, fit before its deadline. -/
theorem looks_le_deadline (sim : SimulatorConfig) (kind : ResourceKind) :
    looks sim kind + 2 ≤ deadline sim kind := by
  cases kind <;> simp only [looks, ResourceKind.lingers, deadline, if_true, Bool.false_eq_true,
    if_false] <;> omega

/-- There is time for a deletion after the deadline of the resources that use its target. -/
theorem deadline_user (sim : SimulatorConfig) {kind user : ResourceKind} (h : user ∈ kind.user?) :
    deadline sim user + looks sim kind + 1 ≤ deadline sim kind := by
  cases kind <;> cases h <;> simp only [looks, ResourceKind.lingers, deadline, if_true,
    Bool.false_eq_true, if_false] <;> omega

/-- No deadline is later than five rounds and twice the looks at a deleted resource. -/
theorem deadline_le (sim : SimulatorConfig) (kind : ResourceKind) :
    deadline sim kind ≤ 5 + 2 * max 1 sim.deleteAfter.toNat := by
  cases kind <;> simp only [deadline] <;> omega

section

variable {φ : Type}

/-- The request at a key is at a stage. -/
def Stands (sim : SimulatorConfig) (key : Key) (site : Site φ State) (kind : ResourceKind)
    (identifier : String) (rounds : Nat) : Prop :=
  ∃ object state, site.table.get? key = some object ∧
    object.manifest = .deletion ⟨kind, identifier⟩ ∧ object.status = .deletion state ∧
    Stage sim kind state (site.memory.tables.find? kind identifier) rounds

/-- The request at a key is as near to being completed as it has to be after a number of
rounds. -/
def Near (sim : SimulatorConfig) (round : Nat) (key : Key) (site : Site φ State) : Prop :=
  ∃ kind identifier rounds, Stands sim key site kind identifier rounds ∧
    rounds ≤ deadline sim kind - round

/-- What stays true of a site while its requests are carried out. -/
structure Sound (requested : Table) (site : Site φ State) : Prop where
  inMemory : ∃ store, site.store = .memory store
  calm : site.memory.pending = none
  manifests : ∀ key, (site.table.get? key).map Declaration.manifest =
    (requested.get? key).map Declaration.manifest
  covered : ∀ kind identifier, (site.memory.tables.find? kind identifier).isSome →
    ∃ key, (requested.get? key).map Declaration.manifest = some (.deletion ⟨kind, identifier⟩)

variable {site : Site φ State} {tables : Tables}

/-- What is near enough to being completed after one round more is so now. -/
theorem Near.of_succ {round : Nat} {key : Key} (h : Near sim (round + 1) key site) :
    Near sim round key site := by
  obtain ⟨kind, identifier, rounds, hstands, hbound⟩ := h
  exact ⟨kind, identifier, rounds, hstands, by omega⟩

/-- A request at a stage names the resource that it was declared for. -/
theorem Stands.manifest {key : Key} {kind : ResourceKind} {identifier : String} {rounds : Nat}
    (h : Stands sim key site kind identifier rounds) (hsound : Sound requested site) :
    (requested.get? key).map Declaration.manifest = some (.deletion ⟨kind, identifier⟩) := by
  obtain ⟨object, state, hobject, hmanifest, -, -⟩ := h
  rw [← hsound.manifests key, hobject, Option.map_some, hmanifest]

/-- A request whose deadline is over is completed, and its target is gone. -/
theorem Near.completed {round : Nat} {key : Key} {kind : ResourceKind} {identifier : String}
    (h : Near sim round key site) (hsound : Sound requested site)
    (hkey : (requested.get? key).map Declaration.manifest = some (.deletion ⟨kind, identifier⟩))
    (hlate : deadline sim kind ≤ round) :
    site.memory.tables.find? kind identifier = none ∧ ∃ object,
      site.table.get? key = some object ∧ object.manifest = .deletion ⟨kind, identifier⟩ ∧
        object.status = .deletion .completed := by
  obtain ⟨kind', identifier', rounds, hstands, hbound⟩ := h
  have hsame := (hstands.manifest hsound).symm.trans hkey
  cases hsame
  obtain ⟨object, state, hobject, hmanifest, hstatus, hstage⟩ := hstands
  obtain rfl : rounds = 0 := by omega
  obtain ⟨rfl, hgone⟩ := hstage.eq_of_zero
  exact ⟨hgone, object, hobject, hmanifest, hstatus⟩

/-- Resources of a kind whose deadline is over are gone. -/
theorem gone_of_late {round : Nat} {keys : List Key} (hsound : Sound requested site)
    (hkeys : ∀ key, (requested.get? key).isSome → key ∈ keys)
    (hnear : ∀ key ∈ keys, Near sim round key site) {kind : ResourceKind}
    (hlate : deadline sim kind ≤ round) (identifier : String) :
    site.memory.tables.find? kind identifier = none := by
  refine Option.eq_none_iff_forall_ne_some.mpr fun found hfound => ?_
  obtain ⟨key, hkey⟩ := hsound.covered kind identifier (by rw [hfound]; rfl)
  have hrequested : (requested.get? key).isSome := by
    rw [← Option.isSome_map (f := Declaration.manifest), hkey]
    rfl
  have hgone := ((hnear key (hkeys key hrequested)).completed hsound hkey hlate).1
  rw [hfound] at hgone
  cases hgone

/-- While a target is in use, the deadline of what uses it is not over. -/
theorem early_of_inUse {round : Nat} {keys : List Key} (hsound : Sound requested site)
    (hkeys : ∀ key, (requested.get? key).isSome → key ∈ keys)
    (hnear : ∀ key ∈ keys, Near sim round key site) {kind : ResourceKind} {identifier : String}
    (hinUse : site.memory.tables.inUse kind identifier = true) :
    ∃ user ∈ kind.user?, round < deadline sim user := by
  have hfree : ¬ ∀ user ∈ kind.user?, ∀ other, site.memory.tables.find? user other = none := by
    intro hgone
    rw [Tables.inUse_of_gone kind identifier hgone] at hinUse
    cases hinUse
  cases huser : kind.user? with
  | none =>
    rw [huser] at hfree
    exact absurd (fun _ hmem => by cases hmem) hfree
  | some user =>
    refine ⟨user, rfl, Nat.lt_of_not_le fun hlate => hfree fun other hother => ?_⟩
    obtain rfl := Option.some.inj (huser.symm.trans hother)
    exact gone_of_late hsound hkeys hnear hlate

/-- Nothing blocks a deletion when all objects are deletion requests. -/
theorem check_eq_ok {requested current : Table} (target : Target)
    (hmanifests : ∀ key, (current.get? key).map Declaration.manifest =
      (requested.get? key).map Declaration.manifest)
    (hrequests : ∀ key object, requested.get? key = some object →
      ∃ spec, object.manifest = .deletion spec) :
    Guard.check target current.toList = .ok () := by
  refine (Guard.check_eq_ok_iff _ _).mpr fun object hobject => ?_
  obtain ⟨key, hkey⟩ := (Table.mem_toList_iff _ _).mp hobject
  have hmanifest := hmanifests key
  rw [hkey, Option.map_some] at hmanifest
  obtain ⟨request, hrequest, hsame⟩ := Option.map_eq_some_iff.mp hmanifest.symm
  obtain ⟨spec, hspec⟩ := hrequests key request hrequest
  exact Guard.not_blocks_of_deletion (hsame.symm.trans hspec)

/-- What a pass over the request at a key moves: the request, whose manifest stays, and its
target. -/
structure Moves (key : Key) (target : Target) (before after : Site φ State) : Prop where
  inMemory : ∃ store, after.store = .memory store
  calm : after.memory.pending = none
  manifest : (after.table.get? key).map Declaration.manifest =
    (before.table.get? key).map Declaration.manifest
  objects : ∀ other, key ≠ other → after.table.get? other = before.table.get? other
  resources : ∀ kind identifier, target ≠ (kind, identifier) →
    after.memory.tables.find? kind identifier = before.memory.tables.find? kind identifier

/-- A site stays sound when a request and its target move. -/
theorem Sound.of_moves {key : Key} {kind : ResourceKind} {identifier : String}
    {after : Site φ State} (hsound : Sound requested site)
    (hmoves : Moves key (kind, identifier) site after)
    (hkey : (requested.get? key).map Declaration.manifest = some (.deletion ⟨kind, identifier⟩)) :
    Sound requested after where
  inMemory := hmoves.inMemory
  calm := hmoves.calm
  manifests other := by
    rw [← hsound.manifests other]
    by_cases hsame : key = other
    · rw [← hsame]
      exact hmoves.manifest
    · rw [hmoves.objects other hsame]
  covered other name hthere := by
    by_cases hsame : (kind, identifier) = (other, name)
    · cases hsame
      exact ⟨key, hkey⟩
    · refine hsound.covered other name ?_
      rw [← hmoves.resources other name hsame]
      exact hthere

/-- A request stays where it stands when another one with another target moves. -/
theorem Stands.of_moves {key other : Key} {target : Target} {kind : ResourceKind}
    {identifier : String} {rounds : Nat} {after : Site φ State}
    (h : Stands sim other site kind identifier rounds) (hmoves : Moves key target site after)
    (hkey : key ≠ other) (htarget : target ≠ (kind, identifier)) :
    Stands sim other after kind identifier rounds := by
  obtain ⟨object, state, hobject, hmanifest, hstatus, hstage⟩ := h
  refine ⟨object, state, ?_, hmanifest, hstatus, ?_⟩
  · rw [hmoves.objects other hkey, hobject]
  · rw [hmoves.resources kind identifier htarget]
    exact hstage

/-! ## One pass -/

section

variable (system : FileSystem φ) (config : EngineConfig) (hlive : sim.dryRun = false)
  (teardown : Teardown requested tables)
include hlive teardown

/-- A pass over a request brings it one closer to being completed, unless its target is in
use. -/
theorem stands_pass (now : Int64) (hsound : Sound requested site) {key : Key}
    {kind : ResourceKind} {identifier : String} {rounds : Nat}
    (h : Stands sim key site kind identifier rounds) :
    Moves key (kind, identifier) site (site.pass system (provider sim) config now key).2 ∧
    ∃ left,
      Stands sim key (site.pass system (provider sim) config now key).2 kind identifier left ∧
      (left ≤ rounds - 1 ∨ site.memory.tables.inUse kind identifier = true ∧ left = rounds ∧
        rounds = looks sim kind + 1) := by
  obtain ⟨store, hstore⟩ := hsound.inMemory
  have htable : site.table = store.table := by rw [Site.table, hstore]; rfl
  have hmemory : site.memory = .calm site.memory.tables := by rw [State.calm, ← hsound.calm]
  obtain ⟨initial, hinitial, -⟩ := Option.map_eq_some_iff.mp (h.manifest hsound)
  have hkind := (teardown.asked key initial hinitial).1
  obtain ⟨object, state, hobject, hmanifest, hstatus, hstage⟩ := h
  rw [htable] at hobject
  -- there are deletion requests only, and these block nothing
  have hunblocked : Guard.check (kind, identifier) store.table.toList = .ok () := by
    refine check_eq_ok _ (htable ▸ hsound.manifests) fun other request hrequest => ?_
    obtain ⟨-, -, kind, identifier, hmanifest, -⟩ := teardown.asked other request hrequest
    exact ⟨_, hmanifest⟩
  obtain ⟨result, current, left, hrun, hnext, hleft⟩ :=
    hstage.step config hlive hunblocked
  have hresources : ∀ other name, (kind, identifier) ≠ (other, name) →
      current.find? other name = site.memory.tables.find? other name := fun other name hne =>
    find?_of_run ((asks_pass config ⟨kind, identifier⟩ _ state).imp fun _ hcall => hcall.1) hrun hne
  rw [← hmemory] at hrun
  obtain ⟨after, object', hpass, hothers, hobject', hmanifest', hstatus'⟩ :=
    site.pass_deletion system (provider sim) config now hstore hobject hkind hmanifest hstatus hrun
  rw [hpass]
  refine ⟨⟨⟨after, rfl⟩, rfl, ?_, ?_, hresources⟩, left, ?_, hleft⟩
  · have hafter : (after.table.get? key).map Declaration.manifest = some object.manifest := by
      rw [hobject', Option.map_some, hmanifest']
    rw [htable, hobject]
    exact hafter
  · intro other hne
    rw [htable]
    exact hothers other hne
  · exact ⟨object', _, hobject', hmanifest'.trans hmanifest, hstatus', hnext⟩

variable {keys : List Key} (hkeys : ∀ key, (requested.get? key).isSome ↔ key ∈ keys)
include hkeys

/-- A pass over one request brings it one round closer and leaves all others as they are. -/
theorem advances :
    Site.Advances system (provider sim) config keys (Sound requested) (Near sim) := by
  intro round key now site hkey hsound hnear
  obtain ⟨kind, identifier, rounds, hstands, hbound⟩ := hnear key hkey
  have hrequest := hstands.manifest hsound
  obtain ⟨hmoves, left, hnext, hleft⟩ :=
    stands_pass system config hlive teardown now hsound hstands
  refine ⟨hsound.of_moves hmoves hrequest, ⟨kind, identifier, left, hnext, ?_⟩, ?_⟩
  · rcases hleft with hcloser | ⟨hinUse, hsame, hwaiting⟩
    · omega
    · -- its target is in use, so the deadline of what uses it is not over
      obtain ⟨user, huser, hearly⟩ :=
        early_of_inUse hsound (fun key => (hkeys key).mp) hnear hinUse
      have hspare := deadline_user sim huser
      omega
  · rintro other - hne rounds' ⟨kind', identifier', left', hstands', hbound'⟩
    have hother := hstands'.manifest hsound
    refine ⟨kind', identifier', left', hstands'.of_moves hmoves (Ne.symm hne) ?_, hbound'⟩
    rintro ⟨⟩
    have hthere : (tables.find? kind identifier).isSome := by
      obtain ⟨request, hget, hmanifest⟩ := Option.map_eq_some_iff.mp hrequest
      obtain ⟨-, -, kind₀, identifier₀, hmanifest₀, hthere⟩ := teardown.asked key request hget
      cases hmanifest.symm.trans hmanifest₀
      exact hthere
    exact hne ((teardown.covered kind identifier hthere).unique hother hrequest)

end

end

end Teardown

end Reconciler
