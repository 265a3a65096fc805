import Reconciler.Proofs.Site.Commits
import Reconciler.Proofs.Site.Deletion
import Reconciler.Proofs.Site.Resource
import Reconciler.Proofs.Store.Sound

/-!
# What a pass over a store in memory comes to

A pass reads one object and writes at most that one: it stores the status that the engine of the
object came to, under the next version, when that is another status than the object had. When the
next pass is due follows from the engine as well (`CommitRule`). On a store that operations have
filled, every pass ends so (`commitRule_pass`); it fails for no other reason than the engine, since
the spec, the status and the key of every object there agree.
-/

set_option autoImplicit false

namespace Reconciler

variable {φ μ : Type}

namespace Dispatch

/-- What the engine of an object comes to at a provider, given all declared objects, and what the
provider remembers then. An object whose spec and status are of different kinds has no engine. -/
def work? (provider : Provider μ) (config : EngineConfig) (now : Int64)
    (objects : List Declaration) (object : Declaration) (memory : μ) :
    Option (Except Failure (Outcome Status) × μ) :=
  match object.manifest, object.status with
  | .resource kind spec, .lifecycle status =>
    some (((Lifecycle.pass kind spec config status now).run provider memory).map
      (Except.map (Outcome.map .lifecycle)) id)
  | .deletion spec, .deletion state =>
    some (((Deletion.pass Deletion.allRemovers config spec state objects).run provider memory).map
      (Except.map (Outcome.map .deletion)) id)
  | _, _ => none

/-- When the next pass is due after one that did not fail: never for a completed deletion request,
else after the delay that the engine asked for, or after a given one when it asked for none. -/
def wait (outcome : Outcome Status) (otherwise : Duration) : Option Duration :=
  if outcome.status = .deletion .completed then none else some (outcome.delay.getD otherwise)

/-- A sound object has an engine. -/
theorem exists_work (provider : Provider μ) (config : EngineConfig) (now : Int64)
    (objects : List Declaration) {object : Declaration} (h : object.Sound) (memory : μ) :
    ∃ result left, work? provider config now objects object memory = some (result, left) := by
  obtain ⟨key, version, manifest, status⟩ := object
  obtain ⟨hkind, hfits⟩ := h
  dsimp only at hkind hfits
  rw [← hkind] at hfits
  cases manifest <;> cases status
  · exact ⟨_, _, rfl⟩
  · cases hfits
  · cases hfits
  · exact ⟨_, _, rfl⟩

/-- An outcome that was put in another form has a status in that form. -/
theorem exists_outcome_of_map {S : Type} {form : S → Status}
    {result : Except Failure (Outcome S)} {outcome : Outcome Status}
    (h : result.map (Outcome.map form) = .ok outcome) : ∃ status, outcome.status = form status := by
  cases result with
  | error failure => cases h
  | ok inner =>
    cases h
    exact ⟨inner.status, rfl⟩

/-- The status that the engine of an object comes to is of the form that the object calls for. -/
theorem fits_of_work {provider : Provider μ} {config : EngineConfig} {now : Int64}
    {objects : List Declaration} {object : Declaration} (h : object.Sound) {memory left : μ}
    {outcome : Outcome Status}
    (hwork : work? provider config now objects object memory = some (.ok outcome, left)) :
    outcome.status.fits object.key.kind = true := by
  rw [← h.1]
  unfold work? at hwork
  split at hwork
  · next kind spec status hmanifest _ =>
    obtain ⟨carried, hcarried⟩ := exists_outcome_of_map (congrArg Prod.fst (Option.some.inj hwork))
    rw [hmanifest, hcarried]
    rfl
  · next spec state hmanifest _ =>
    obtain ⟨carried, hcarried⟩ := exists_outcome_of_map (congrArg Prod.fst (Option.some.inj hwork))
    rw [hmanifest, hcarried]
    rfl
  · cases hwork

/-- The engine of a completed deletion request does not fail. -/
theorem work_of_completed {provider : Provider μ} {config : EngineConfig} {now : Int64}
    {objects : List Declaration} {object : Declaration} {memory left : μ} {failure : Failure}
    (hstatus : object.status = .deletion .completed) :
    work? provider config now objects object memory ≠ some (.error failure, left) := by
  obtain ⟨key, version, manifest, status⟩ := object
  obtain rfl : status = .deletion .completed := hstatus
  cases manifest with
  | resource kind spec => exact nofun
  | deletion spec => exact fun h => nomatch h

end Dispatch

namespace Site

/-- What a pass over a key comes to: the delay before the next pass, the objects that it leaves and
what the provider remembers then. -/
inductive CommitRule (provider : Provider μ) (config : EngineConfig) (now : Int64) (key : Key)
    (table : Table) (memory : μ) : Option Duration → Table → μ → Prop where
  | absent (hobject : table.get? key = none) :
      CommitRule provider config now key table memory none table memory
  | failed {object : Declaration} {failure : Failure} {left : μ}
      (hobject : table.get? key = some object)
      (hwork : Dispatch.work? provider config now table.toList object memory =
        some (.error failure, left)) :
      CommitRule provider config now key table memory (some failure.delay) table left
  | unchanged {object : Declaration} {outcome : Outcome Status} {left : μ}
      (hobject : table.get? key = some object)
      (hwork : Dispatch.work? provider config now table.toList object memory =
        some (.ok outcome, left))
      (hsame : outcome.status = object.status) :
      CommitRule provider config now key table memory
        (Dispatch.wait outcome config.resync) table left
  | committed {object : Declaration} {outcome : Outcome Status} {left : μ} {after : Table}
      (hobject : table.get? key = some object)
      (hwork : Dispatch.work? provider config now table.toList object memory =
        some (.ok outcome, left))
      (hnew : outcome.status ≠ object.status)
      (hafter : ∀ other, after.get? other =
        if key = other then
          some { object with status := outcome.status, version := object.version + 1 }
        else table.get? other) :
      CommitRule provider config now key table memory (Dispatch.wait outcome .zero) after left

namespace CommitRule

variable {provider : Provider μ} {config : EngineConfig} {now : Int64} {key : Key}
  {table after : Table} {memory left : μ} {delay : Option Duration}

/-- The object under the key is the only one that changes. -/
theorem get?_of_ne (h : CommitRule provider config now key table memory delay after left)
    {other : Key} (hother : key ≠ other) : after.get? other = table.get? other := by
  cases h with
  | absent => rfl
  | failed => rfl
  | unchanged => rfl
  | committed _ _ _ hafter => rw [hafter, if_neg hother]

/-- The object under the key stays there; it keeps its key and its spec, and it has the same version
as before or, with another status, the next one. -/
theorem exists_current (h : CommitRule provider config now key table memory delay after left)
    {object : Declaration} (hobject : table.get? key = some object) :
    ∃ current, after.get? key = some current ∧ current.key = object.key ∧
      current.manifest = object.manifest ∧
      (current = object ∨
        current.status ≠ object.status ∧ current.version = object.version + 1) := by
  cases h with
  | absent hnone => rw [hnone] at hobject; cases hobject
  | failed => exact ⟨object, hobject, rfl, rfl, .inl rfl⟩
  | unchanged => exact ⟨object, hobject, rfl, rfl, .inl rfl⟩
  | @committed former outcome _ _ hformer _ hnew hafter =>
    obtain rfl := Option.some.inj (hformer.symm.trans hobject)
    exact ⟨_, (hafter key).trans (if_pos rfl), rfl, rfl, .inr ⟨hnew, rfl⟩⟩

/-- No pass is left to do exactly when there is no object or its deletion is completed. -/
theorem delay_eq_none_iff
    (h : CommitRule provider config now key table memory delay after left) :
    delay = none ↔ table.get? key = none ∨
      ∃ current, after.get? key = some current ∧ current.status = .deletion .completed := by
  have hwait (outcome : Outcome Status) (otherwise : Duration) :
      Dispatch.wait outcome otherwise = none ↔ outcome.status = .deletion .completed := by
    rw [Dispatch.wait]
    split <;> simp [*]
  cases h with
  | absent hnone => simp [hnone]
  | @failed object failure _ hobject hwork =>
    have hstatus : object.status ≠ .deletion .completed := fun h =>
      Dispatch.work_of_completed h hwork
    simp [hobject, hstatus]
  | unchanged hobject _ hsame => simp [hwait, hobject, hsame]
  | committed hobject _ _ hafter => simp [hwait, hobject, hafter]

end CommitRule

/-! ## Passes over a store in memory -/

variable (system : FileSystem φ) (provider : Provider μ) (config : EngineConfig)

/-- The engine of an object runs at the provider alone. -/
theorem run_engine_of_work (now : Int64) (site : Site φ μ) {object : Declaration}
    {result : Except Failure (Outcome Status)} {left : μ}
    (hwork : Dispatch.work? provider config now site.table.toList object site.memory =
      some (result, left)) :
    (Dispatch.engine config now object).run (serve system provider) site =
      (.ok result, { site with memory := left }) := by
  obtain ⟨key, version, manifest, status⟩ := object
  cases manifest with
  | resource kind spec =>
    cases status with
    | lifecycle status =>
      obtain ⟨rfl, rfl⟩ := Prod.mk.inj (Option.some.inj hwork)
      exact run_engine_resource system provider config now site rfl rfl rfl
    | deletion state => cases hwork
  | deletion spec =>
    cases status with
    | lifecycle status => cases hwork
    | deletion state =>
      obtain ⟨rfl, rfl⟩ := Prod.mk.inj (Option.some.inj hwork)
      exact run_engine_deletion system provider config now site rfl rfl rfl

/-- A pass over a table of sound objects in memory follows the rule. -/
theorem commitRule_of_sound (now : Int64) (key : Key) {site : Site φ μ} {store : MemoryStore}
    (hstore : site.store = .memory store) (hkeyed : store.table.Keyed)
    (hsound : store.table.Sound) :
    ∃ delay after left,
      (site.pass system provider config now key).1.next = .ok delay ∧
      (site.pass system provider config now key).2 =
        { site with store := .memory { store with table := after }, memory := left } ∧
      CommitRule provider config now key store.table site.memory delay after left := by
  have htable : site.table = store.table := by rw [table, hstore]; rfl
  have hsame : site.store = .memory { store with table := store.table } := hstore
  cases hobject : store.table.get? key with
  | none =>
    have hpass : site.pass system provider config now key = (⟨.ok none, none⟩, site) := by
      rw [pass, Dispatch.pass, Script.run_ask, serve_get, htable, hobject]
      rfl
    refine ⟨none, store.table, site.memory, ?_, ?_, .absent hobject⟩
    · rw [hpass]
    · rw [hpass, ← hsame]
  | some object =>
    obtain ⟨result, left, hwork⟩ := Dispatch.exists_work provider config now store.table.toList
      (hsound key object hobject) site.memory
    have hengine : (Dispatch.engine config now object).run (serve system provider) site =
        (.ok result, { site with memory := left }) :=
      run_engine_of_work system provider config now site (htable ▸ hwork)
    rw [pass_of_get? system provider config now (htable ▸ hobject), hengine]
    cases result with
    | error failure =>
      refine ⟨some failure.delay, store.table, left, rfl, ?_, .failed hobject hwork⟩
      rw [← hsame]
      rfl
    | ok outcome =>
      by_cases hstatus : outcome.status = object.status
      · rw [run_conclude_same system provider config _ key hstatus]
        refine ⟨_, store.table, left, rfl, ?_, .unchanged hobject hwork hstatus⟩
        rw [← hsame]
      · have hfits := Dispatch.fits_of_work (hsound key object hobject) hwork
        rw [hkeyed key object hobject] at hfits
        obtain ⟨after, hrun, hafter⟩ := run_conclude_new system provider config
          { site with memory := left } hstore hobject hfits hstatus
        rw [hrun]
        exact ⟨_, _, _, rfl, rfl, .committed hobject hwork hstatus hafter⟩

/-- What a pass over a store in memory comes to, whatever operations have filled the store and
whoever watches it: it ends by the rule, tells the watches nothing and leaves every object but the
one under its key alone. That object keeps its key and its spec, and its version grows by one
exactly with another status, short of so many writes that a version comes round. -/
theorem commitRule_pass (now : Int64) (key : Key) {site : Site φ μ} {operations : List Operation}
    {watches : Watches} (hstore : site.store = .memory ⟨Table.empty.after operations, watches⟩) :
    let before := Table.empty.after operations
    ∃ delay after left,
      (site.pass system provider config now key).1.next = .ok delay ∧
      (site.pass system provider config now key).2 =
        { site with store := .memory ⟨after, watches⟩, memory := left } ∧
      CommitRule provider config now key before site.memory delay after left ∧
      (∀ other, key ≠ other → after.get? other = before.get? other) ∧
      (∀ object, before.get? key = some object → ∃ current, after.get? key = some current ∧
        current.key = object.key ∧ current.manifest = object.manifest ∧
        ((Table.empty.log operations).length < UInt64.size - 1 →
          current.version.toNat =
            object.version.toNat + if current.status = object.status then 0 else 1)) ∧
      (delay = none ↔ before.get? key = none ∨
        ∃ current, after.get? key = some current ∧ current.status = .deletion .completed) := by
  intro before
  obtain ⟨delay, after, left, hnext, hleft, hrule⟩ :=
    commitRule_of_sound system provider config now key hstore
      (Table.keyed_empty.after operations) (Table.sound_empty.after Table.keyed_empty operations)
  refine ⟨delay, after, left, hnext, hleft, hrule, fun other => hrule.get?_of_ne,
    fun object hobject => ?_, hrule.delay_eq_none_iff⟩
  obtain ⟨current, hcurrent, hkey, hmanifest, hversion⟩ := hrule.exists_current hobject
  refine ⟨current, hcurrent, hkey, hmanifest, fun hfew => ?_⟩
  rcases hversion with rfl | ⟨hstatus, hversion⟩
  · rw [if_pos rfl]
    rfl
  · rw [if_neg hstatus, hversion]
    have hrecords := Table.records_after_empty key operations
    rw [hobject] at hrecords
    have hlength := (Table.length_logOn_le key operations).trans_lt hfew
    -- the version is no greater than the number of writes, so one more does not wrap around
    have hle := hrecords.toNat_version_le (hlength.trans (by decide))
    have hsize : UInt64.size = 18446744073709551616 := rfl
    rw [UInt64.toNat_add, UInt64.toNat_one]
    omega

/-- A store with a declared group that nobody has passed over yet, and one watch. -/
def unpassedSite : Site Disk Simulator.State :=
  inMemory ⟨Table.empty.after [.apply "private" (privateGroup "first")], [.fresh]⟩ .fresh

/-- The first pass over the group commits the state before its creation, and the next pass is due at
once. -/
theorem commitRule_pass_unpassed :
    ∃ after left,
      CommitRule (Simulator.provider .default) .default 0 privateKey unpassedSite.table .fresh
        (some .zero) after left ∧
      after.get? privateKey = some ⟨privateKey, 2, privateGroup "first", unprovisioned⟩ := by
  obtain ⟨delay, after, left, hnext, hleft, hrule, -⟩ :=
    commitRule_pass Disk.system (Simulator.provider .default) .default 0 privateKey
      (rfl : unpassedSite.store = _)
  have hpass : (unpassedSite.pass Disk.system (Simulator.provider .default) .default 0
      privateKey).1.next = .ok (some .zero) := rfl
  have hcurrent : ((unpassedSite.pass Disk.system (Simulator.provider .default) .default 0
      privateKey).2.table).get? privateKey =
        some ⟨privateKey, 2, privateGroup "first", unprovisioned⟩ := rfl
  obtain rfl := Except.ok.inj (hnext.symm.trans hpass)
  rw [hleft] at hcurrent
  exact ⟨after, left, hrule, hcurrent⟩

end Site

end Reconciler
