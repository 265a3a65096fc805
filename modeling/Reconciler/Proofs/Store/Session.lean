import Reconciler.Proofs.Store.Failure
import Reconciler.Proofs.Store.Reopen

/-!
# Sessions with a store in a file

A session is a list of calls on a store in a file, which may be closed and opened again between
any two of them. On a disk on which every action works, no reply tells it from a session with a
store in memory that is never closed (`session_eq_memory`): the file holds the document of the
table after every call, or there is no file and the table is empty (`Kept`), and a document is
read back as the table.
-/

set_option autoImplicit false

namespace Reconciler

open Files

/-! ## Calls and replies -/

/-- A call of a client on a store. -/
inductive StoreCall where
  | operate (operation : Operation)
  | list (kind : Option Kind)
  | flush

/-- What a call answers when it does not fail. -/
abbrev StoreCall.Value : StoreCall → Type
  | .operate operation => operation.Value
  | .list _ => List Declaration
  | .flush => Unit

/-- A call together with its answer. -/
abbrev Reply : Type := (call : StoreCall) × Except Error call.Value

namespace MemoryStore

def perform (store : MemoryStore) :
    (operation : Operation) → Except Error operation.Value × MemoryStore
  | .get key => (.ok (store.table.get? key), store)
  | .apply name manifest => store.apply name manifest
  | .delete key => (store.delete key).map .ok id
  | .updateStatus key expected status => store.updateStatus key expected status

/-- A store in memory answers by the verdict of its table, and tells a change at once. -/
theorem perform_eq (store : MemoryStore) (operation : Operation) :
    store.perform operation = match operation.verdict store.table with
      | .refused error => (.error error, store)
      | .answered value => (.ok value, store)
      | .changed value change => (.ok value, ⟨operation.onTable store.table,
          change.elim store.watches store.watches.publish⟩) := by
  cases operation with
  | get key => rfl
  | apply name manifest =>
    simp only [perform, apply, Operation.verdict, Operation.onTable, Table.applied]
    cases store.table.apply name manifest <;> rfl
  | delete key =>
    simp only [perform, delete, Operation.verdict, Operation.onTable]
    rcases hresult : store.table.delete key with ⟨_ | _, after⟩
    · obtain rfl := Table.delete_snd_of_absent hresult
      rfl
    · rfl
  | updateStatus key expected status =>
    simp only [perform, updateStatus, Operation.verdict, Operation.onTable, Table.offered]
    cases store.table.updateStatus key expected status <;> rfl

def answer (store : MemoryStore) : (call : StoreCall) → Except Error call.Value × MemoryStore
  | .operate operation => store.perform operation
  | .list kind => (.ok (store.table.list kind), store)
  | .flush => (.ok (), store)

/-- The replies to calls made one after the other. -/
def replies : MemoryStore → List StoreCall → List Reply
  | _, [] => []
  | store, call :: rest => ⟨call, (store.answer call).1⟩ :: (store.answer call).2.replies rest

end MemoryStore

/-- A step of a session: a call, or closing the store and opening it again. -/
inductive SessionStep where
  | ask (call : StoreCall)
  | reopen

/-- The calls of a session. -/
def SessionStep.calls (steps : List SessionStep) : List StoreCall :=
  steps.filterMap fun
    | .ask call => some call
    | .reopen => none

namespace FileStore

def answer (store : FileStore) :
    (call : StoreCall) → Files (Except Error call.Value × FileStore)
  | .operate operation => store.perform operation
  | .list kind => .done (.ok (store.table.list kind), store)
  | .flush => store.flush

/-- The replies to the calls of a session. A store that cannot be opened again ends it. -/
def replies : FileStore → List SessionStep → ExceptT Error Files (List Reply)
  | _, [] => pure []
  | store, .ask call :: rest => do
    let (answer, after) ← (store.answer call : Files (Except Error call.Value × FileStore))
    return ⟨call, answer⟩ :: (← after.replies rest)
  | store, .reopen :: rest => do
    (← openAt store.path).replies rest

/-- A session with the store at a path. -/
def session (path : String) (steps : List SessionStep) : ExceptT Error Files (List Reply) := do
  (← openAt path).replies steps

end FileStore

namespace FileStore

variable {path : String} {table : Table} {disk : Disk}

/-! ## Calls -/

/-- A store in a file that is in step with a store in memory, at a path where the table is
kept. -/
structure InStep (path : String) (store : FileStore) (memory : MemoryStore) (disk : Disk) :
    Prop where
  path_eq : store.path = path
  table_eq : store.table = memory.table
  written : store.dirty = false
  keyed : memory.table.Keyed
  kept : Kept path memory.table disk

variable {store : FileStore} {memory : MemoryStore}

/-- A computation on a store in a file answers as the one in memory does and leaves the two stores
in step. -/
def Mirrors {α : Type} (path : String) (script : Files (Except Error α × FileStore))
    (result : Except Error α × MemoryStore) (disk : Disk) : Prop :=
  (script.run Disk.system disk).1.1 = result.1 ∧
    InStep path (script.run Disk.system disk).1.2 result.2 (script.run Disk.system disk).2

/-- The actions of a change that is written through are those of the writing. -/
theorem succeeds_commit_iff {φ α : Type} {system : FileSystem φ} {files : φ} {value : α}
    {change : Option Change} :
    Succeeds system (commit store value change) files ↔
      Succeeds system (replace store.path (Document.write store.table.toList)).run files := by
  refine ⟨fun h => (succeeds_bind_iff.mp (succeeds_bind_iff.mp h).1).1, fun h => ?_⟩
  have hsave : Succeeds system store.save files := by
    refine succeeds_bind_iff.mpr ⟨h, ?_⟩
    split <;> exact succeeds_done _
  refine succeeds_bind_iff.mpr ⟨hsave, ?_⟩
  split <;> exact succeeds_done _

/-- A change that is written through answers its value and is kept. -/
theorem mirrors_commit {α : Type} {value : α} {change : Option Change}
    (hpath : store.path = path) (htable : store.table = memory.table)
    (hkeyed : memory.table.Keyed) (h : Succeeds Disk.system (commit store value change) disk) :
    Mirrors path (commit store value change) (.ok value, memory) disk := by
  obtain ⟨after, hrun, hlocate⟩ := run_replace_of_succeeds (succeeds_commit_iff.mp h)
  rw [hpath, htable] at hlocate
  unfold Mirrors
  rw [run_commit, hrun]
  exact ⟨rfl, hpath, htable, rfl, hkeyed, .inl hlocate⟩

/-- An operation is answered as in memory. -/
theorem InStep.perform (hstep : InStep path store memory disk) (operation : Operation)
    (h : Succeeds Disk.system (store.perform operation) disk) :
    Mirrors path (store.perform operation) (memory.perform operation) disk := by
  obtain ⟨hpath, htable, hwritten, hkeyed, hkept⟩ := hstep
  rw [FileStore.perform_eq, htable] at h
  rw [FileStore.perform_eq, MemoryStore.perform_eq, htable]
  cases hverdict : operation.verdict memory.table with
  | refused error => exact ⟨rfl, hpath, htable, hwritten, hkeyed, hkept⟩
  | answered value => exact ⟨rfl, hpath, htable, hwritten, hkeyed, hkept⟩
  | changed value change =>
    rw [hverdict] at h
    exact mirrors_commit hpath rfl (hkeyed.onTable operation) h

/-- A call on which no action fails is answered alike by both stores and leaves them in step. -/
theorem InStep.answer (hstep : InStep path store memory disk) (call : StoreCall)
    (h : Succeeds Disk.system (store.answer call) disk) :
    Mirrors path (store.answer call) (memory.answer call) disk := by
  cases call with
  | operate operation => exact hstep.perform operation h
  | list kind =>
    refine ⟨?_, hstep⟩
    show Except.ok (store.table.list kind) = Except.ok (memory.table.list kind)
    rw [hstep.table_eq]
  | flush =>
    have hflush : store.flush = .done (.ok (), store) := by
      rw [flush, hstep.written]
      rfl
    rw [FileStore.answer, hflush]
    exact ⟨rfl, hstep⟩

/-! ## Sessions -/

/-- From stores in step, a session in a file replies as its calls do in memory. -/
theorem InStep.replies (hstep : InStep path store memory disk) {steps : List SessionStep}
    (h : Succeeds Disk.system (store.replies steps).run disk) :
    (Script.run Disk.system (store.replies steps).run disk).1 =
      .ok (memory.replies (SessionStep.calls steps)) := by
  induction steps generalizing store memory disk with
  | nil => rfl
  | cons step rest ih =>
    cases step with
    | ask call =>
      have hlift : Script.run Disk.system (ExceptT.run (liftM (store.answer call) :
          ExceptT Error Files _)) disk = _ := run_lift Disk.system (store.answer call) disk
      obtain ⟨hanswer, hnext⟩ := hstep.answer call (succeeds_lift_iff.mp h.first)
      rcases hrun : (store.answer call).run Disk.system disk with ⟨⟨answer, after⟩, left⟩
      rw [hrun] at hlift hanswer hnext
      have hrest := h.next hlift
      have hreplies : Script.run Disk.system (after.replies rest).run left =
          (.ok ((memory.answer call).2.replies (SessionStep.calls rest)), _) :=
        Prod.ext (ih hnext hrest.first) rfl
      obtain rfl : answer = (memory.answer call).1 := hanswer
      rw [FileStore.replies, run_bind_of_ok hlift, run_bind_of_ok hreplies]
      rfl
    | reopen =>
      obtain ⟨hpath, htable, hwritten, hkeyed, hkept⟩ := hstep
      rw [FileStore.replies, hpath] at h ⊢
      obtain ⟨after, hopen, hstill⟩ := run_openAt_of_kept hkeyed hkept h.first
      rw [run_bind_of_ok hopen]
      exact ih ⟨rfl, rfl, rfl, hkeyed, hstill⟩ (h.next hopen)

/-- On a disk on which every action works and there is no file at first, a session with a store in
a file, closed and opened again at will, replies as its calls do with a store in memory. The path
may lead through a directory that is only made when the store is opened, so that there is no
file is said of the disk with that directory. -/
theorem session_eq_memory (path : String) (steps : List SessionStep) (disk : Disk)
    (hnew : (Script.run Disk.system (makeParent path).run disk).2.isFile path = false)
    (hworks : Succeeds Disk.system (session path steps).run disk) :
    (Script.run Disk.system (session path steps).run disk).1 =
      .ok (MemoryStore.empty.replies (SessionStep.calls steps)) := by
  obtain ⟨housed, hparent, -, hhoused⟩ := run_makeParent_of_succeeds hworks.first.first
  rw [hparent] at hnew
  have hkept : Kept path .empty housed := .inr ⟨rfl, hnew, hhoused⟩
  have hopen := run_openAt_of_makeParent Table.keyed_empty hworks.first hparent hkept
  have hstep : InStep path ⟨path, .empty, false, []⟩ .empty housed :=
    ⟨rfl, rfl, rfl, Table.keyed_empty, hkept⟩
  rw [session, run_bind_of_ok hopen]
  exact hstep.replies (hworks.next hopen)

/-! ## A group that is declared, and read after the store was opened again -/

/-- A store beside the current directory opens when its objects can be loaded. -/
theorem succeeds_openAt_of_load {objects : List Declaration}
    (hload : Succeeds Disk.system (load "objects.json").run disk)
    (hrun : Script.run Disk.system (load "objects.json").run disk = (.ok objects, disk)) :
    Succeeds Disk.system (openAt "objects.json").run disk := by
  have hparent : (makeParent "objects.json").run = .done (.ok ()) := rfl
  have hnext : Succeeds Disk.system (loadOrRecover "objects.json").run disk := by
    refine succeeds_bind_iff.mpr ⟨hload, ?_⟩
    rw [hrun]
    exact succeeds_done _
  refine succeeds_bind_of_run (hparent ▸ succeeds_done _)
    (congrArg (Script.run _ · disk) hparent) ?_
  exact succeeds_bind_of_run hnext (run_loadOrRecover_of_load hrun) (succeeds_done _)

/-- A text that is there is read without failure. -/
theorem succeeds_load_of_locate {text : String}
    (h : disk.locate path = .ok (some (.file text.toUTF8))) :
    Succeeds Disk.system (load path).run disk := by
  rw [load_eq]
  refine succeeds_ask_iff.mpr ⟨trivial, ?_⟩
  show Succeeds Disk.system (if disk.contains path then _ else _) disk
  rw [Disk.contains_of_locate h, if_pos rfl]
  refine succeeds_ask_iff.mpr ⟨⟨text, Disk.readText_of_file h⟩, ?_⟩
  have htext : Disk.system (.readText path) disk = (.ok text, disk) :=
    congrArg (·, disk) (Disk.readText_of_file h)
  rw [htext]
  cases hread : Document.read? text <;> simp only [hread] <;> exact succeeds_done _

/-- The group that is declared. -/
def keptGroup : Manifest :=
  .resource .subnetGroup ⟨"private", "first", ["subnet-a", "subnet-b"]⟩

/-- Declares the group, opens the store again and looks for the group. -/
def declareAndReopen : List SessionStep :=
  [.ask (.operate (.apply "private" keptGroup)), .reopen,
    .ask (.operate (.get ⟨.resource .subnetGroup, "private"⟩))]

/-- No action of the short session fails. -/
theorem succeeds_declareAndReopen :
    Succeeds Disk.system (session "objects.json" declareAndReopen).run Disk.empty := by
  have hreplace : Succeeds Disk.system (replace "objects.json"
      (Document.write (Table.empty.applied "private" keptGroup).toList)).run .empty :=
    succeeds_replace (Disk.free_of_writeBytes rfl) (Disk.free_of_writeBytes rfl)
      (Disk.free_of_writeBytes rfl) _
  obtain ⟨left, hrun, hlocate⟩ := run_replace_of_succeeds hreplace
  have hcall : (answer ⟨"objects.json", .empty, false, []⟩
      (.operate (.apply "private" keptGroup))).run Disk.system Disk.empty =
        ((.ok (.fresh "private" keptGroup),
          ⟨"objects.json", Table.empty.applied "private" keptGroup, false, []⟩), left) := by
    show (commit ⟨"objects.json", Table.empty.applied "private" keptGroup, true, []⟩
      (Declaration.fresh "private" keptGroup) _).run Disk.system Disk.empty = _
    rw [run_commit, hrun]
    rfl
  have hfirst : Succeeds Disk.system (openAt "objects.json").run Disk.empty :=
    succeeds_openAt_of_load (by
      rw [load_eq]
      exact succeeds_ask_iff.mpr ⟨trivial, succeeds_done _⟩) rfl
  have hkept : Kept "objects.json" (Table.empty.applied "private" keptGroup) left := .inl hlocate
  have hload := succeeds_load_of_locate hlocate
  have hkeyed := Table.keyed_empty.applied "private" keptGroup
  obtain ⟨objects, hobjects, -⟩ := run_load_of_holds (hkept.holds hkeyed hload)
  have hagain := succeeds_openAt_of_load hload hobjects
  have hreopen := run_openAt_of_makeParent hkeyed hagain rfl hkept
  refine succeeds_bind_of_run hfirst (run_openAt_of_makeParent Table.keyed_empty hfirst rfl
    (.inr ⟨rfl, rfl, rfl⟩)) ?_
  refine succeeds_bind_of_run (succeeds_lift_iff.mpr (succeeds_commit_iff.mpr hreplace))
    ((run_lift _ _ _).trans (by rw [hcall])) ?_
  exact succeeds_bind_of_run (succeeds_bind_of_run hagain hreopen (succeeds_done _))
    ((run_bind_of_ok hreopen).trans rfl) (succeeds_done _)

/-- The group that was declared before the store is opened again is there afterwards, in its first
version. -/
theorem session_eq_memory_declareAndReopen :
    (Script.run Disk.system (makeParent "objects.json").run Disk.empty).2.isFile "objects.json" =
        false ∧
      Succeeds Disk.system (session "objects.json" declareAndReopen).run Disk.empty ∧
      (Script.run Disk.system (session "objects.json" declareAndReopen).run Disk.empty).1 =
        .ok [⟨.operate (.apply "private" keptGroup), .ok (.fresh "private" keptGroup)⟩,
          ⟨.operate (.get ⟨.resource .subnetGroup, "private"⟩),
            .ok (some (.fresh "private" keptGroup))⟩] := by
  have happly : Table.empty.apply "private" keptGroup =
      .ok (.fresh "private" keptGroup, Table.empty.applied "private" keptGroup) := rfl
  have hget : (Table.empty.applied "private" keptGroup).get? ⟨.resource .subnetGroup, "private"⟩ =
      some (.fresh "private" keptGroup) := by
    rw [Table.get?_of_apply happly]
    exact if_pos rfl
  have hmemory : MemoryStore.empty.replies (SessionStep.calls declareAndReopen) =
      [⟨.operate (.apply "private" keptGroup), .ok (.fresh "private" keptGroup)⟩,
        ⟨.operate (.get ⟨.resource .subnetGroup, "private"⟩), .ok
          ((Table.empty.applied "private" keptGroup).get? ⟨.resource .subnetGroup, "private"⟩)⟩] :=
    rfl
  rw [hget] at hmemory
  exact ⟨rfl, succeeds_declareAndReopen, hmemory ▸
    session_eq_memory "objects.json" declareAndReopen Disk.empty rfl succeeds_declareAndReopen⟩

end FileStore

end Reconciler
