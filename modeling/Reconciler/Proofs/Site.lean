import Reconciler.Dispatch.Pass
import Reconciler.Proofs.Store.Operation
import Reconciler.Proofs.Trace
import Reconciler.Provider.Simulator
import Reconciler.Store.Disk

/-!
# The surroundings of the dispatcher

A site is all that a pass of the dispatcher deals with: a store of declared objects with the
files below it, and whatever the provider remembers. Any provider and any file system will do.
Nobody but the dispatcher writes to the store during a pass; between passes, clients may.
-/

set_option autoImplicit false

namespace Reconciler

/-- A store, the files below it, and the memory of a provider. -/
structure Site (φ μ : Type) where
  store : Store
  /-- The watch from which the dispatcher reads changes. -/
  watch : Nat
  files : φ
  memory : μ

namespace Site

variable {φ μ : Type} (system : FileSystem φ) (provider : Provider μ)

def table (site : Site φ μ) : Table := site.store.table

def operate {α : Type} (operation : Store → Store.Effect α) (site : Site φ μ) :
    Except Error α × Site φ μ :=
  let ((answer, store), files) := (operation site.store).run system site.files
  (answer, { site with store, files })

/-- Answers the requests of the dispatcher. -/
def serve : Handler Request Request.Answer (Site φ μ)
  | .get key, site => (.ok (site.table.get? key), site)
  | .list, site => (.ok site.table.toList, site)
  | .commit key expected status, site =>
    site.operate system (·.updateStatus key expected status)
  | .flush, site => site.operate system Store.flush
  | .nextChange, site =>
    let (change, store) := site.store.nextChange site.watch
    (change, { site with store })
  | .call call, site =>
    let (answer, memory) := provider call site.memory
    (answer, { site with memory })

def pass (config : EngineConfig) (now : Int64) (key : Key) (site : Site φ μ) :
    Dispatch.Report × Site φ μ :=
  (Dispatch.pass config now key).run (serve system provider) site

/-- What a pass asks, each request with the site as it is at that moment. -/
def requests (config : EngineConfig) (now : Int64) (key : Key) (site : Site φ μ) :
    List (Request × Site φ μ) :=
  (Dispatch.pass config now key).trace (serve system provider) site

def perform (site : Site φ μ) : Operation → Site φ μ
  | .get _ => site
  | .apply name manifest => (site.operate system (·.apply name manifest)).2
  | .delete key => (site.operate system (·.delete key)).2
  | .updateStatus key expected status =>
    (site.operate system (·.updateStatus key expected status)).2

/-- A store in memory with a simulated provider, where a pass can be computed. -/
def inMemory (store : MemoryStore) (simulator : Simulator.State) : Site Disk Simulator.State :=
  { store := .memory store, watch := 0, files := .empty, memory := simulator }

/-- Reading an object changes nothing. -/
@[simp]
theorem serve_get (key : Key) (site : Site φ μ) :
    serve system provider (.get key) site = (.ok (site.table.get? key), site) := rfl

/-- Listing the objects changes nothing. -/
@[simp]
theorem serve_list (site : Site φ μ) :
    serve system provider .list site = (.ok site.table.toList, site) := rfl

/-- A client's operation moves the table by the rule of the operation. -/
theorem table_perform (site : Site φ μ) (operation : Operation) :
    (site.perform system operation).table = operation.onTable site.table := by
  cases operation with
  | get key => rfl
  | apply name manifest => exact Store.table_run_apply system site.store site.files name manifest
  | delete key => exact Store.table_run_delete system site.store site.files key
  | updateStatus key expected status =>
    exact Store.table_run_updateStatus system site.store site.files key expected status

/-- Provider calls are answered by the provider alone: running them at a site is running them
against the provider and leaves the rest of the site as it is. -/
theorem run_ofCalls {α : Type} (calls : Script Call Call.Answer α) (site : Site φ μ) :
    (Work.ofCalls calls).run (serve system provider) site =
      ((calls.run provider site.memory).1,
        { site with memory := (calls.run provider site.memory).2 }) := by
  induction calls generalizing site with
  | done value => rfl
  | ask call next ih => exact ih _ _

/-- While provider calls are made, the store stays as it is. -/
theorem store_of_mem_trace_ofCalls {α : Type} {calls : Script Call Call.Answer α}
    (site : Site φ μ) {entry : Request × Site φ μ}
    (hentry : entry ∈ (Work.ofCalls calls).trace (serve system provider) site) :
    entry.2.store = site.store := by
  induction calls generalizing site with
  | done value => simp [Work.ofCalls, Script.mapQueries] at hentry
  | ask call next ih =>
    rcases List.mem_cons.mp hentry with rfl | hrest
    · rfl
    · exact ih _ (serve system provider (.call call) site).2 hrest

end Site

end Reconciler
