import Reconciler.Proofs.Deletion.Pass
import Reconciler.Proofs.Site.Conclude

/-!
# Passes over deletion requests

At a store in memory a pass over a deletion request commits the state that its engine came to,
and touches no other object.
-/

set_option autoImplicit false

namespace Reconciler

namespace Site

variable {φ μ : Type} (system : FileSystem φ) (provider : Provider μ) (config : EngineConfig)

/-- The engine of a deletion request is given all objects, and then runs at the provider
alone. -/
theorem run_engine_deletion (now : Int64) (site : Site φ μ) {object : Declaration}
    {spec : DeletionSpec} {state : DeletionState} (hmanifest : object.manifest = .deletion spec)
    (hstatus : object.status = .deletion state)
    {result : Except Failure (Outcome DeletionState)} {memory : μ}
    (hrun : (Deletion.pass Deletion.allRemovers config spec state site.table.toList).run provider
      site.memory = (result, memory)) :
    (Dispatch.engine config now object).run (serve system provider) site =
      (.ok (result.map (Outcome.map .deletion)), { site with memory }) := by
  rw [Dispatch.engine_deletion config now hmanifest hstatus, Script.run_ask, serve_list]
  dsimp only
  rw [Script.run_bind, run_ofCalls, hrun]
  rfl

/-- A pass over a deletion request in memory leaves all other objects alone and gives the
request the state that the engine came to. -/
theorem pass_deletion (now : Int64) {key : Key} {site : Site φ μ} {store : MemoryStore}
    (hstore : site.store = .memory store) {object : Declaration} {spec : DeletionSpec}
    {state : DeletionState} (hobject : store.table.get? key = some object)
    (hkey : key.kind = .deletion) (hmanifest : object.manifest = .deletion spec)
    (hstatus : object.status = .deletion state)
    {result : Except Failure (Outcome DeletionState)} {memory : μ}
    (hrun : (Deletion.pass Deletion.allRemovers config spec state store.table.toList).run provider
      site.memory = (result, memory)) :
    ∃ after current,
      (site.pass system provider config now key).2 =
        { site with store := .memory after, memory } ∧
      (∀ other, key ≠ other → after.table.get? other = store.table.get? other) ∧
      after.table.get? key = some current ∧ current.manifest = object.manifest ∧
      current.status = .deletion (Deletion.carried state result) := by
  have htable : site.table = store.table := by rw [table, hstore]; rfl
  rw [← htable] at hrun
  have hengine := run_engine_deletion system provider config now site hmanifest hstatus hrun
  have hcarried : Dispatch.carried object.status (result.map (Outcome.map .deletion)) =
      .deletion (Deletion.carried state result) := by
    rw [hstatus]
    cases result <;> rfl
  have hfits : (Dispatch.carried object.status (result.map (Outcome.map .deletion))).fits
      key.kind = true := by
    rw [hcarried, hkey]
    rfl
  obtain ⟨after, current, hpass, hothers, hcurrent, hmanifest', hstatus', -⟩ :=
    pass_of_run_engine system provider config now hstore hobject hengine hfits
  exact ⟨after, current, hpass, hothers, hcurrent, hmanifest', hstatus'.trans hcarried⟩

end Site

end Reconciler
