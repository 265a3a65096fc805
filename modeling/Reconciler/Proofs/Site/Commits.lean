import Reconciler.Proofs.Site
import Reconciler.Proofs.Site.Requests
import Reconciler.Proofs.Store.Commits

/-!
# Commits amid other clients

When a commit against the version of an earlier reading succeeds, in both sorts of store and
whatever happened in between; and that the commit of a pass is such a commit, when other
clients are at work before every request of the pass.
-/

set_option autoImplicit false

namespace Reconciler

namespace Table

/-- A status that was computed from an object is accepted after operations exactly when it fits
and the version of the object recurs. -/
theorem accepts_after_iff {table : Table} {key : Key} {object : Declaration}
    (hread : table.get? key = some object) (operations : List Operation) (status : Status) :
    (table.after operations).Accepts key object.version status ↔
      status.fits key.kind = true ∧ Recurs object.version (writes key operations table) := by
  have hversion : table.version? key = some object.version := by rw [version?, hread]; rfl
  rw [accepts_iff, after, version?_foldl_onTable, hversion, foldl_onVersion_eq_iff]

end Table

namespace Dispatch

/-- The engine of an object lists the objects and makes provider calls; it writes nothing to the
store. -/
theorem asks_engine (config : EngineConfig) (now : Int64) (object : Declaration) :
    (engine config now object).Asks fun request =>
      request = .list ∨ ∃ call, request = .call call := by
  have hcalls : ∀ {α β : Type} {p : Call → Prop} {calls : Script Call Call.Answer α}
      (f : α → β), calls.Asks p →
      ((Work.ofCalls calls).bind fun value => .done (f value)).Asks fun request =>
        request = .list ∨ ∃ call, request = .call call := by
    intro α β p calls f h
    refine ((Work.asks_ofCalls h).imp ?_).bind fun value => trivial
    rintro request ⟨call, hrequest, -⟩
    exact .inr ⟨call, hrequest⟩
  unfold engine
  split
  · next kind spec status _ _ => exact hcalls _ (Lifecycle.asks_pass kind spec config status now)
  · next spec state _ _ =>
    refine ⟨.inl rfl, fun answer => ?_⟩
    cases answer with
    | error error => trivial
    | ok objects => exact hcalls _ (Deletion.asks_pass config spec objects state)
  · trivial

end Dispatch

namespace Site

variable {φ μ : Type} (system : FileSystem φ) (provider : Provider μ)

/-- Operations at a site move its table one after the other. -/
theorem table_foldl_perform (operations : List Operation) (site : Site φ μ) :
    (operations.foldl (perform system) site).table = site.table.after operations := by
  induction operations generalizing site with
  | nil => rfl
  | cons operation rest ih =>
    rw [List.foldl_cons, ih, table_perform]
    rfl

/-- A site where the other clients have batches of operations in store. -/
abbrev Crowded (φ μ : Type) : Type := Site φ μ × List (List Operation)

def disturbed (crowd : Crowded φ μ) : Site φ μ :=
  (crowd.2.headD []).foldl (perform system) crowd.1

/-- Answers a request of the dispatcher after the next batch of the other clients. -/
def serveAmid : Handler Request Request.Answer (Crowded φ μ)
  | request, crowd =>
    let served := serve system provider request (disturbed system crowd)
    (served.1, (served.2, crowd.2.tail))

/-- The table is what operations of the other clients made of an earlier one. -/
def Since (table : Table) (batches : List (List Operation)) (crowd : Crowded φ μ) : Prop :=
  ∃ operations, crowd.1.table = table.after operations ∧
    operations ++ crowd.2.flatten = batches.flatten

/-- The table is what operations since the first reading made of it, and all others are still in
store. -/
theorem disturbed_of_since {table : Table} {batches : List (List Operation)}
    {crowd : Crowded φ μ} (h : Since table batches crowd) :
    ∃ operations, (disturbed system crowd).table = table.after operations ∧
      operations ++ crowd.2.tail.flatten = batches.flatten := by
  obtain ⟨operations, htable, hflatten⟩ := h
  refine ⟨operations ++ crowd.2.headD [], ?_, ?_⟩
  · rw [disturbed, table_foldl_perform, htable, Table.after, Table.after, Table.after,
      List.foldl_append]
  · rw [List.append_assoc, ← hflatten]
    cases crowd.2 <;> rfl

/-- Looking and calling leave all writing to the other clients. -/
theorem since_serveAmid {table : Table} {batches : List (List Operation)} (request : Request)
    (crowd : Crowded φ μ) (hrequest : request = .list ∨ ∃ call, request = .call call)
    (h : Since table batches crowd) :
    Since table batches (serveAmid system provider request crowd).2 := by
  obtain ⟨operations, htable, hflatten⟩ := disturbed_of_since system h
  refine ⟨operations, ?_, hflatten⟩
  rw [← htable]
  obtain rfl | ⟨call, rfl⟩ := hrequest <;> rfl

/-- The commit of a pass is for the key of the pass and against the version of the object that
the pass read, and the table has only been moved by the other clients since. -/
theorem commit_of_mem_trace (config : EngineConfig) (now : Int64) {key other : Key}
    {crowd moment : Crowded φ μ} {expected : UInt64} {status : Status}
    (h : (.commit other expected status, moment) ∈
      (Dispatch.pass config now key).trace (serveAmid system provider) crowd) :
    other = key ∧ ∃ object operations,
      (disturbed system crowd).table.get? key = some object ∧ object.version = expected ∧
      operations ++ moment.2.tail.flatten = crowd.2.tail.flatten ∧
      (disturbed system moment).table = (disturbed system crowd).table.after operations := by
  have hstart : Since (disturbed system crowd).table crowd.2.tail
      (disturbed system crowd, crowd.2.tail) := ⟨[], rfl, rfl⟩
  have hget : serveAmid system provider (.get key) crowd =
      (.ok ((disturbed system crowd).table.get? key),
        (disturbed system crowd, crowd.2.tail)) := rfl
  -- the commit is not the reading that the pass begins with
  rw [Dispatch.pass, Script.trace_ask, hget, List.mem_cons] at h
  rcases h with h | h
  · cases h
  cases hobject : (disturbed system crowd).table.get? key with
  | none => simp [hobject] at h
  | some object =>
    have hbind : (.commit other expected status, moment) ∈
        ((Dispatch.engine config now object).bind (Dispatch.conclude config key object)).trace
          (serveAmid system provider) (disturbed system crowd, crowd.2.tail) := by
      rw [hobject] at h
      exact h
    rw [Script.trace_bind, List.mem_append] at hbind
    rcases hbind with hengine | hconclude
    · rcases (Dispatch.asks_engine config now object).of_mem_trace hengine with h | ⟨call, h⟩
      · cases h
      · cases h
    · obtain ⟨status, hcommit⟩ := Dispatch.mem_trace_conclude hconclude
      cases hcommit
      have hmoment := (Dispatch.asks_engine config now object).run_invariant _
        (since_serveAmid system provider) hstart
      obtain ⟨operations, htable, hflatten⟩ := disturbed_of_since system hmoment
      exact ⟨rfl, object, operations, rfl, rfl, hflatten, htable⟩

/-- A commit against the version of an object read earlier succeeds exactly when the status
fits, the version recurs after the writes in between, and the table can be written through. -/
theorem operate_updateStatus_ok_iff {table : Table} {key : Key} {object : Declaration}
    (hread : table.get? key = some object) {operations : List Operation} {later : Site φ μ}
    (hlater : later.table = table.after operations) (status : Status) :
    (∃ version,
      (later.operate system (·.updateStatus key object.version status)).1 = .ok version) ↔
      status.fits key.kind = true ∧ Recurs object.version (writes key operations table) ∧
        (later.store.withTable (later.table.offered key object.version status)).Persists system
          later.files := by
  have haccepts := Table.accepts_after_iff hread operations status
  rw [← hlater] at haccepts
  rw [← and_assoc, ← haccepts]
  exact Store.run_updateStatus_ok_iff system later.store later.files key object.version status

/-- What optimistic commits overlook. Whatever clients do in between, a commit against the
version of an object read earlier succeeds exactly when the version recurs, not only when
nothing was written. The commit of a pass is such a commit, with other clients at work before
every request of the pass. -/
theorem commit_succeeds_iff_recurs (config : EngineConfig) :
    (∀ (site : Site φ μ) key object operations status, site.table.get? key = some object →
      let later := operations.foldl (perform system) site
      ((∃ version,
        (later.operate system (·.updateStatus key object.version status)).1 = .ok version) ↔
        status.fits key.kind = true ∧
          Recurs object.version (writes key operations site.table) ∧
          (later.store.withTable (later.table.offered key object.version status)).Persists
            system later.files)) ∧
    (∀ now key (crowd moment : Crowded φ μ) other expected status,
      (.commit other expected status, moment) ∈
        (Dispatch.pass config now key).trace (serveAmid system provider) crowd →
      let start := disturbed system crowd
      let later := disturbed system moment
      other = key ∧ ∃ object operations, start.table.get? key = some object ∧
        object.version = expected ∧ operations ++ moment.2.tail.flatten = crowd.2.tail.flatten ∧
        later.table = start.table.after operations ∧
        ((∃ version,
          (later.operate system (·.updateStatus key expected status)).1 = .ok version) ↔
          status.fits key.kind = true ∧
            Recurs expected (writes key operations start.table) ∧
            (later.store.withTable (later.table.offered key expected status)).Persists system
              later.files)) := by
  refine ⟨?_, ?_⟩
  · intro site key object operations status hread
    exact operate_updateStatus_ok_iff system hread (table_foldl_perform system operations site)
      status
  · intro now key crowd moment other expected status h
    obtain ⟨hkey, object, operations, hread, rfl, hpart, htable⟩ :=
      commit_of_mem_trace system provider config now h
    exact ⟨hkey, object, operations, hread, rfl, hpart, htable,
      operate_updateStatus_ok_iff system hread htable status⟩

/-! ## A removal that is overlooked -/

def privateGroup (description : String) : Manifest :=
  .resource .subnetGroup ⟨"private", description, ["subnet-a", "subnet-b"]⟩

def privateKey : Key := ⟨.resource .subnetGroup, "private"⟩

/-- A site at which the group was declared and not reconciled yet. -/
def declaredSite : Site Disk Simulator.State :=
  inMemory ⟨.ofList [.fresh "private" (privateGroup "first")], []⟩ .fresh

/-- The group is removed and declared anew. -/
def redeclaring : List Operation :=
  [.delete privateKey, .apply "private" (privateGroup "second")]

def unprovisioned : Status := .lifecycle ⟨.unprovisioned, 0, .empty⟩

/-- The declared site has its group, which was not reconciled yet. -/
theorem get?_declaredSite :
    declaredSite.table.get? privateKey = some (.fresh "private" (privateGroup "first")) := by
  show (Table.empty.put _).get? privateKey = _
  rw [Table.get?_put]
  exact if_pos rfl

/-- Declaring the group anew removes it and stores it. -/
theorem writes_redeclaring :
    writes privateKey redeclaring declaredSite.table = [.removed, .stored] := by
  have hdelete : (declaredSite.table.delete privateKey).1 = true := by
    rw [Table.delete_fst, get?_declaredSite]
    rfl
  have hremoved : (Operation.delete privateKey).write? privateKey declaredSite.table =
      some .removed := by
    rw [Operation.write?, if_pos ⟨rfl, hdelete⟩]
  have hstored (table : Table) :
      (Operation.apply "private" (privateGroup "second")).write? privateKey table =
        some .stored := by
    have hblank : Text.isBlank "private" = false := by decide
    have hok : (table.apply "private" (privateGroup "second")).isOk = true := by
      rw [Table.isOk_apply, hblank]
      rfl
    rw [Operation.write?, if_pos ⟨rfl, hok⟩]
  rw [redeclaring, writes, hremoved, writes, hstored]
  rfl

/-- The group that is declared anew has its first version again. -/
theorem recurs_redeclaring : Recurs 1 (writes privateKey redeclaring declaredSite.table) := by
  rw [writes_redeclaring]
  refine .inr ⟨[], [.stored], rfl, ?_, ?_, rfl⟩ <;> simp

/-- A pass over the first declaration commits the status that comes of it. -/
theorem commit_mem_trace_declaredSite (batches : List (List Operation)) :
    (.commit privateKey 1 unprovisioned, (declaredSite, batches)) ∈
      (Dispatch.pass .default 0 privateKey).trace
        (serveAmid Disk.system (Simulator.provider .default))
        (declaredSite, [] :: batches) := by
  have hget : serveAmid Disk.system (Simulator.provider .default) (.get privateKey)
      (declaredSite, [] :: batches) =
        (.ok (some (.fresh "private" (privateGroup "first"))), (declaredSite, batches)) := by
    rw [← get?_declaredSite]
    rfl
  rw [Dispatch.pass, Script.trace_ask, hget]
  exact .tail _ (.head _)

/-- The version recurs after the group was removed and declared anew, so the status of the first
declaration is committed onto the second one, by a client as by a pass. -/
theorem commit_succeeds_iff_recurs_redeclaring :
    writes privateKey redeclaring declaredSite.table = [.removed, .stored] ∧
    (∃ version, ((redeclaring.foldl (perform Disk.system) declaredSite).operate Disk.system
      (·.updateStatus privateKey 1 unprovisioned)).1 = .ok version) ∧
    ∃ moment, (.commit privateKey 1 unprovisioned, moment) ∈
        (Dispatch.pass .default 0 privateKey).trace
          (serveAmid Disk.system (Simulator.provider .default))
          (declaredSite, [[], redeclaring]) ∧
      ∃ version, ((disturbed Disk.system moment).operate Disk.system
        (·.updateStatus privateKey 1 unprovisioned)).1 = .ok version := by
  have hcommits := commit_succeeds_iff_recurs Disk.system (Simulator.provider .default) .default
  have hcommit := commit_mem_trace_declaredSite [redeclaring]
  refine ⟨writes_redeclaring, ?_, _, hcommit, ?_⟩
  · exact (hcommits.1 _ _ _ redeclaring unprovisioned get?_declaredSite).mpr
      ⟨rfl, recurs_redeclaring, trivial⟩
  · obtain ⟨-, object, operations, -, -, hpart, -, hiff⟩ := hcommits.2 _ _ _ _ _ _ _ hcommit
    have hredeclaring : operations = redeclaring := by simpa using hpart
    refine hiff.mpr ⟨rfl, ?_, trivial⟩
    rw [hredeclaring]
    exact recurs_redeclaring

end Site

end Reconciler
