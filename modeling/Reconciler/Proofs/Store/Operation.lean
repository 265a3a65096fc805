import Reconciler.Store.Basic

/-!
# What operations do to the table

The operations that clients make on a store, and what each does to the table of declared
objects. A store in a file writes its table through, but the table itself moves by the same
rules as in memory, whatever the file system answers: `table_run_apply`, `table_run_delete` and
`table_run_updateStatus` hold of both sorts of store. An operation that succeeds has been
accepted by the table.
-/

set_option autoImplicit false

namespace Reconciler

/-- An operation of a client on a store. -/
inductive Operation where
  | get (key : Key)
  | apply (name : String) (manifest : Manifest)
  | delete (key : Key)
  | updateStatus (key : Key) (expected : UInt64) (status : Status)

namespace Table

/-- The table after a spec was applied, the same one when the name is refused. -/
def applied (table : Table) (name : String) (manifest : Manifest) : Table :=
  match table.apply name manifest with
  | .ok (_, after) => after
  | .error _ => table

/-- The table after a status was offered, the same one when it is refused. -/
def offered (table : Table) (key : Key) (expected : UInt64) (status : Status) : Table :=
  match table.updateStatus key expected status with
  | .ok (_, after) => after
  | .error _ => table

/-- Whether a status would be committed. -/
def Accepts (table : Table) (key : Key) (expected : UInt64) (status : Status) : Prop :=
  ∃ version after, table.updateStatus key expected status = .ok (version, after)

end Table

def Operation.onTable : Operation → Table → Table
  | .get _, table => table
  | .apply name manifest, table => table.applied name manifest
  | .delete key, table => (table.delete key).2
  | .updateStatus key expected status, table => table.offered key expected status

namespace Table

def after (table : Table) (operations : List Operation) : Table :=
  operations.foldl (fun table operation => operation.onTable table) table

/-- A spec that is applied under one key keeps the objects under the others. -/
theorem get?_applied_of_ne {table : Table} {name : String} {manifest : Manifest} {key : Key}
    (h : ⟨manifest.kind, name⟩ ≠ key) :
    (table.applied name manifest).get? key = table.get? key := by
  unfold applied
  split
  · next heq => rw [get?_of_apply heq, if_neg h]
  · rfl

/-- A status that is offered under one key keeps the objects under the others. -/
theorem get?_offered_of_ne {table : Table} {key other : Key} (expected : UInt64)
    (status : Status) (h : key ≠ other) :
    (table.offered key expected status).get? other = table.get? other := by
  unfold offered
  split
  · next heq => rw [get?_of_updateStatus heq, if_neg h]
  · rfl

/-- A spec with a blank name leaves the table as it is. -/
theorem get?_applied_of_blank {table : Table} {name : String} (manifest : Manifest)
    (h : Text.isBlank name = true) : table.applied name manifest = table := by
  simp [applied, apply, h]

/-- What is declared under a key is replaced, and keeps its status. -/
theorem get?_applied_self {table : Table} {name : String} (manifest : Manifest)
    (h : Text.isBlank name = false) :
    (table.applied name manifest).get? ⟨manifest.kind, name⟩ =
      some (match table.get? ⟨manifest.kind, name⟩ with
        | some object => replaced object manifest
        | none => .fresh name manifest) := by
  have hget : table.get? ⟨manifest.kind, name⟩ = table.objects[(⟨manifest.kind, name⟩ : Key)]? :=
    rfl
  rw [hget]
  simp only [applied, apply, h]
  cases table.objects[(⟨manifest.kind, name⟩ : Key)]? <;> simp [get?]

end Table

/-! ## The store in a file -/

namespace FileStore

variable {φ : Type} (system : FileSystem φ) (store : FileStore) (files : φ)

/-- Writing a table through leaves the table alone. -/
theorem table_run_save : ((save store).run system files).1.2.table = store.table := by
  rw [save, Script.bind_eq, Script.run_bind]
  cases (Script.run system (replace store.path (Document.write store.table.toList)).run files).1
    <;> rfl

/-- Writing a table through and telling a change leaves the table alone. -/
theorem table_run_commit {α : Type} (value : α) (change : Option Change) :
    ((commit store value change).run system files).1.2.table = store.table := by
  have hsave := table_run_save system store files
  rw [commit, Script.bind_eq, Script.run_bind]
  rcases hrun : ((save store).run system files).1 with ⟨_ | _, after⟩ <;>
    · rw [hrun] at hsave
      exact hsave

/-- Writing a table through answers a value exactly when the writing works. -/
theorem run_commit_ok_iff {α : Type} (value : α) (change : Option Change) :
    (∃ answer, ((commit store value change).run system files).1.1 = .ok answer) ↔
      (Script.run system
        (replace store.path (Document.write store.table.toList)).run files).1 = .ok () := by
  rw [commit, Script.bind_eq, Script.run_bind, save, Script.bind_eq, Script.run_bind]
  cases (Script.run system (replace store.path (Document.write store.table.toList)).run files).1
    with
  | ok _ => exact iff_of_true ⟨value, rfl⟩ rfl
  | error error =>
    refine iff_of_false ?_ ?_
    · rintro ⟨answer, h⟩
      cases h
    · intro h
      cases h

end FileStore

/-! ## Both sorts of store -/

namespace Store

variable {φ : Type} (system : FileSystem φ) (store : Store) (files : φ)

/-- A run of an effect on a store in a file is a run of the effect with its store wrapped up. -/
theorem run_ofFile {α : Type} (effect : Files (Except Error α × FileStore)) :
    (ofFile effect).run system files =
      (((effect.run system files).1.1, .file (effect.run system files).1.2),
        (effect.run system files).2) := by
  rw [ofFile, Script.run_bind]
  rfl

/-- An applied spec moves the table in the same way in both sorts of store, and so does each of
the other operations. -/
theorem table_run_apply (name : String) (manifest : Manifest) :
    ((store.apply name manifest).run system files).1.2.table =
      store.table.applied name manifest := by
  cases store with
  | memory store =>
    simp only [apply, ofMemory, MemoryStore.apply, Script.run_done, Table.applied, table]
    cases store.table.apply name manifest <;> rfl
  | file store =>
    simp only [apply, run_ofFile, FileStore.apply, Table.applied, table]
    cases store.table.apply name manifest with
    | error error => rfl
    | ok result => exact FileStore.table_run_commit system _ files _ _

/-- Removing an object moves the table of a store as it moves a table, whatever the files answer. -/
theorem table_run_delete (key : Key) :
    ((store.delete key).run system files).1.2.table = (store.table.delete key).2 := by
  cases store with
  | memory store =>
    simp only [delete, ofMemory, MemoryStore.delete, Script.run_done, table]
    rcases store.table.delete key with ⟨_ | _, after⟩ <;> rfl
  | file store =>
    simp only [delete, run_ofFile, FileStore.delete, table]
    rcases store.table.delete key with ⟨_ | _, after⟩
    · rfl
    · exact FileStore.table_run_commit system _ files _ _

/-- Offering a status moves the table of a store as it moves a table, whatever the files answer. -/
theorem table_run_updateStatus (key : Key) (expected : UInt64) (status : Status) :
    ((store.updateStatus key expected status).run system files).1.2.table =
      store.table.offered key expected status := by
  cases store with
  | memory store =>
    simp only [updateStatus, ofMemory, MemoryStore.updateStatus, Script.run_done,
      Table.offered, table]
    cases store.table.updateStatus key expected status <;> rfl
  | file store =>
    simp only [updateStatus, run_ofFile, FileStore.updateStatus, Table.offered, table]
    cases store.table.updateStatus key expected status with
    | error error => rfl
    | ok result => exact FileStore.table_run_commit system _ files _ _

/-- The store with another table, which is not written through yet. -/
def withTable : Store → Table → Store
  | .memory store, table => .memory { store with table }
  | .file store, table => .file { store with table, dirty := true }

/-- Whether the table can be written through; a store in memory has nothing to write. -/
def Persists : Store → φ → Prop
  | .memory _, _ => True
  | .file store, files =>
    (Script.run system
      (FileStore.replace store.path (Document.write store.table.toList)).run files).1 = .ok ()

/-- A commit succeeds when the table accepts it and can be written through. -/
theorem run_updateStatus_ok_iff (key : Key) (expected : UInt64) (status : Status) :
    (∃ version,
      ((store.updateStatus key expected status).run system files).1.1 = .ok version) ↔
      store.table.Accepts key expected status ∧
        (store.withTable (store.table.offered key expected status)).Persists system files := by
  cases store with
  | memory store =>
    simp only [updateStatus, ofMemory, MemoryStore.updateStatus, Script.run_done, Table.Accepts,
      withTable, Persists, table, and_true]
    cases store.table.updateStatus key expected status with
    | error error => simp
    | ok result => exact iff_of_true ⟨result.1, rfl⟩ ⟨result.1, result.2, rfl⟩
  | file store =>
    simp only [updateStatus, run_ofFile, FileStore.updateStatus, Table.Accepts, withTable,
      Persists, Table.offered, table]
    cases store.table.updateStatus key expected status with
    | error error => simp
    | ok result =>
      have haccepts : ∃ version after, (Except.ok result : Except Error (UInt64 × Table)) =
          .ok (version, after) := ⟨result.1, result.2, rfl⟩
      rw [FileStore.run_commit_ok_iff, and_iff_right haccepts]

/-- In memory, a commit that the table accepts succeeds with the version that the table gives
it. -/
theorem run_updateStatus_memory {store : MemoryStore} {key : Key} {expected version : UInt64}
    {status : Status} {after : Table}
    (h : store.table.updateStatus key expected status = .ok (version, after)) :
    ((Store.memory store).updateStatus key expected status).run system files =
      ((.ok version, .memory { store with table := after }), files) := by
  simp [updateStatus, ofMemory, MemoryStore.updateStatus, h]

end Store

end Reconciler
