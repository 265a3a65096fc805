import Reconciler.Proofs.Site.Requests
import Reconciler.Proofs.Store.Commits

/-!
# How a pass ends in memory

At a store in memory nothing stands in the way of a commit: the status that an engine came to is
stored under the key of the pass, and no other object is touched.
-/

set_option autoImplicit false

namespace Reconciler

/-- The status that an object has after a run of its engine. -/
def Dispatch.carried (status : Status) : Except Failure (Outcome Status) → Status
  | .ok outcome => outcome.status
  | .error _ => status

namespace Site

variable {φ μ : Type} (system : FileSystem φ) (provider : Provider μ) (config : EngineConfig)

/-- At a store in memory a commit is one operation on the store. -/
theorem serve_commit_memory {site : Site φ μ} {store : MemoryStore}
    (hstore : site.store = .memory store) (key : Key) (expected : UInt64) (status : Status) :
    serve system provider (.commit key expected status) site =
      ((store.updateStatus key expected status).1,
        { site with store := .memory (store.updateStatus key expected status).2 }) := by
  simp only [serve, operate, hstore]
  rfl

/-- A status of the right kind that is offered against the version of the object is committed. -/
theorem operate_updateStatus_memory (site : Site φ μ) {store : MemoryStore}
    (hstore : site.store = .memory store) {key : Key} {object : Declaration} {status : Status}
    (hobject : store.table.get? key = some object) (hfits : status.fits key.kind = true) :
    ∃ version after,
      store.table.updateStatus key object.version status = .ok (version, after) ∧
      site.operate system (·.updateStatus key object.version status) =
        (.ok version, { site with store := .memory { store with table := after } }) := by
  have hversion : store.table.version? key = some object.version := by
    rw [Table.version?, hobject]
    rfl
  obtain ⟨version, after, haccepted⟩ :=
    (store.table.accepts_iff key object.version status).mpr ⟨hfits, hversion⟩
  refine ⟨version, after, haccepted, ?_⟩
  rw [operate, hstore, Store.run_updateStatus_memory system site.files haccepted]

/-- The status that an object has is not stored anew. -/
theorem run_conclude_same (site : Site φ μ) (key : Key) {object : Declaration}
    {outcome : Outcome Status} (hsame : outcome.status = object.status) :
    (Dispatch.conclude config key object (.ok (.ok outcome))).run (serve system provider) site =
      (Dispatch.succeeded config key outcome false, site) := by
  simp only [Dispatch.conclude, Dispatch.commit, if_pos hsame]
  rfl

/-- Another status is stored with its object under the next version, and that is all. -/
theorem run_conclude_new (site : Site φ μ) {store : MemoryStore}
    (hstore : site.store = .memory store) {key : Key} {object : Declaration}
    (hobject : store.table.get? key = some object) {outcome : Outcome Status}
    (hfits : outcome.status.fits key.kind = true) (hnew : outcome.status ≠ object.status) :
    ∃ after,
      (Dispatch.conclude config key object (.ok (.ok outcome))).run (serve system provider) site =
        (Dispatch.succeeded config key outcome true,
          { site with store := .memory { store with table := after } }) ∧
      ∀ other, after.get? other =
        if key = other then
          some { object with status := outcome.status, version := object.version + 1 }
        else store.table.get? other := by
  obtain ⟨version, after, haccepted, hoperate⟩ :=
    operate_updateStatus_memory system site hstore hobject hfits
  have hserve : serve system provider (.commit key object.version outcome.status) site =
      (.ok version, { site with store := .memory { store with table := after } }) := hoperate
  have hversion := Table.eq_add_one_of_onVersion hobject
    (Table.version_of_updateStatus haccepted).1
  refine ⟨after, ?_, fun other => ?_⟩
  · simp only [Dispatch.conclude, Dispatch.commit, if_neg hnew]
    rw [Script.run_ask, hserve]
    rfl
  · rw [Table.get?_of_updateStatus haccepted, hobject, hversion]
    rfl

/-- A pass whose engine has run leaves all other objects alone and gives its object the status that
the engine came to; when that is the status it had, the store stays as it is. -/
theorem pass_of_run_engine (now : Int64) {key : Key} {site : Site φ μ} {store : MemoryStore}
    (hstore : site.store = .memory store) {object : Declaration}
    (hobject : store.table.get? key = some object) {result : Except Failure (Outcome Status)}
    {memory : μ}
    (hengine : (Dispatch.engine config now object).run (serve system provider) site =
      (.ok result, { site with memory }))
    (hfits : (Dispatch.carried object.status result).fits key.kind = true) :
    ∃ after current,
      (site.pass system provider config now key).2 =
        { site with store := .memory after, memory } ∧
      (∀ other, key ≠ other → after.table.get? other = store.table.get? other) ∧
      after.table.get? key = some current ∧ current.manifest = object.manifest ∧
      current.status = Dispatch.carried object.status result ∧
      (Dispatch.carried object.status result = object.status → after = store) := by
  have htable : site.table.get? key = some object := by rw [table, hstore]; exact hobject
  rw [pass_of_get? system provider config now htable, hengine]
  cases result with
  | error failure =>
    refine ⟨store, object, ?_, fun _ _ => rfl, hobject, rfl, rfl, fun _ => rfl⟩
    rw [← hstore]
    rfl
  | ok outcome =>
    by_cases hsame : outcome.status = object.status
    · refine ⟨store, object, ?_, fun _ _ => rfl, hobject, rfl, hsame.symm, fun _ => rfl⟩
      rw [run_conclude_same system provider config _ key hsame, ← hstore]
    · obtain ⟨after, hrun, hget⟩ := run_conclude_new system provider config
        { site with memory } hstore hobject hfits hsame
      refine ⟨{ store with table := after },
        { object with status := outcome.status, version := object.version + 1 },
        congrArg Prod.snd hrun, fun other hother => ?_, ?_, rfl, rfl, fun h => absurd h hsame⟩
      · rw [hget, if_neg hother]
      · rw [hget, if_pos rfl]

end Site

end Reconciler
