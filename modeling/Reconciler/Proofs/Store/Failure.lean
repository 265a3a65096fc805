import Reconciler.Proofs.Store.Files
import Reconciler.Proofs.Store.Operation
import Reconciler.Proofs.Store.Table
import Reconciler.Store.Disk

/-!
# Failed operations of a store in a file

An operation on a store in a file fails in one of two ways. The table refuses it, and then
nothing has happened. Or the table cannot be written through, and then the table has been changed
all the same: it stays changed, the change is not told to the watches, and the store knows that
the file is behind.
-/

set_option autoImplicit false

namespace Reconciler

/-- What an operation answers when it does not fail. -/
abbrev Operation.Value : Operation → Type
  | .get _ => Option Declaration
  | .apply .. => Declaration
  | .delete _ => Bool
  | .updateStatus .. => UInt64

/-- The error with which a table refuses an operation. -/
def Operation.refusal? (table : Table) : Operation → Option Error
  | .get _ => none
  | .apply name manifest => match table.apply name manifest with
    | .error error => some error
    | .ok _ => none
  | .delete _ => none
  | .updateStatus key expected status => match table.updateStatus key expected status with
    | .error error => some error
    | .ok _ => none

namespace Table

variable {table after : Table}

/-- What a table accepts leaves some object different. -/
theorem exists_ne_of_apply {name : String} {manifest : Manifest} {object : Declaration}
    (h : table.apply name manifest = .ok (object, after)) :
    ∃ key, after.get? key ≠ table.get? key := by
  refine ⟨⟨manifest.kind, name⟩, fun hsame => ?_⟩
  rw [get?_of_apply h, if_pos rfl] at hsame
  have hthere : table.objects[(⟨manifest.kind, name⟩ : Key)]? = some object := hsame.symm
  simp only [apply, hthere] at h
  split at h
  · cases h
  · -- the object is the one that was there, one version further
    have hversion := congrArg (fun result => result.map fun found => found.1.version) h
    simp [Except.map, replaced] at hversion

/-- A removal that works changes the table. -/
theorem exists_ne_of_delete {key : Key} (h : table.delete key = (true, after)) :
    ∃ key, after.get? key ≠ table.get? key := by
  refine ⟨key, fun hsame => ?_⟩
  have hget := table.get?_delete key key
  rw [h, if_pos rfl] at hget
  have hthere := table.delete_fst key
  rw [h, ← hsame, hget] at hthere
  cases hthere

/-- A commit that works changes the table. -/
theorem exists_ne_of_updateStatus {key : Key} {expected version : UInt64} {status : Status}
    (h : table.updateStatus key expected status = .ok (version, after)) :
    ∃ key, after.get? key ≠ table.get? key := by
  refine ⟨key, fun hsame => ?_⟩
  rw [get?_of_updateStatus h, if_pos rfl] at hsame
  cases hobject : table.objects[key]? with
  | none => simp [updateStatus, hobject] at h
  | some object =>
    have hthere : table.get? key = some object := hobject
    rw [hthere, Option.map_some] at hsame
    have hversion := congrArg (Option.map Declaration.version) hsame
    simp only [updateStatus, hobject] at h
    split at h
    · cases h
    · split at h
      · cases h
        simp at hversion
      · cases h

end Table

/-! ## Verdicts -/

/-- What a table makes of an operation: it refuses it, it answers it and stays as it is, or it is
changed, which the watches may have to be told. -/
inductive Operation.Verdict (α : Type) where
  | refused (error : Error)
  | answered (value : α)
  | changed (value : α) (change : Option Change)

def Operation.verdict (table : Table) : (operation : Operation) → Verdict operation.Value
  | .get key => .answered (table.get? key)
  | .apply name manifest => match table.apply name manifest with
    | .error error => .refused error
    | .ok (object, _) => .changed object (some (.applied object.key))
  | .delete key => match table.delete key with
    | (true, _) => .changed true (some (.deleted key))
    | (false, _) => .answered false
  | .updateStatus key expected status => match table.updateStatus key expected status with
    | .error error => .refused error
    | .ok (version, _) => .changed version none

/-- A table changes under an operation exactly by the verdict that it does. -/
theorem Operation.verdict_cases (operation : Operation) (table : Table) :
    (∃ error, operation.verdict table = .refused error ∧
        operation.refusal? table = some error ∧ operation.onTable table = table) ∨
    (∃ value, operation.verdict table = .answered value ∧ operation.onTable table = table) ∨
    (∃ value change, operation.verdict table = .changed value change ∧
        operation.refusal? table = none ∧
        ∃ key, (operation.onTable table).get? key ≠ table.get? key) := by
  cases operation with
  | get key => exact .inr (.inl ⟨_, rfl, rfl⟩)
  | apply name manifest =>
    simp only [verdict, refusal?, onTable, Table.applied]
    cases hresult : table.apply name manifest with
    | error error => exact .inl ⟨_, rfl, rfl, rfl⟩
    | ok result => exact .inr (.inr ⟨_, _, rfl, rfl, Table.exists_ne_of_apply hresult⟩)
  | delete key =>
    simp only [verdict, refusal?, onTable]
    rcases hresult : table.delete key with ⟨_ | _, after⟩
    -- the removal of what is not there is answered without an error
    · exact .inr (.inl ⟨_, rfl, Table.delete_snd_of_absent hresult⟩)
    · exact .inr (.inr ⟨_, _, rfl, trivial, Table.exists_ne_of_delete hresult⟩)
  | updateStatus key expected status =>
    simp only [verdict, refusal?, onTable, Table.offered]
    cases hresult : table.updateStatus key expected status with
    | error error => exact .inl ⟨_, rfl, rfl, rfl⟩
    | ok result => exact .inr (.inr ⟨_, _, rfl, rfl, Table.exists_ne_of_updateStatus hresult⟩)

namespace FileStore

def perform (store : FileStore) :
    (operation : Operation) → Files (Except Error operation.Value × FileStore)
  | .get key => .done (.ok (store.table.get? key), store)
  | .apply name manifest => store.apply name manifest
  | .delete key => store.delete key
  | .updateStatus key expected status => store.updateStatus key expected status

/-- A store in a file answers by the verdict of its table, and writes a changed table through. -/
theorem perform_eq (store : FileStore) (operation : Operation) :
    store.perform operation = match operation.verdict store.table with
      | .refused error => .done (.error error, store)
      | .answered value => .done (.ok value, store)
      | .changed value change =>
        commit { store with table := operation.onTable store.table, dirty := true }
          value change := by
  cases operation with
  | get key => rfl
  | apply name manifest =>
    simp only [perform, apply, Operation.verdict, Operation.onTable, Table.applied]
    cases store.table.apply name manifest <;> rfl
  | delete key =>
    simp only [perform, delete, Operation.verdict, Operation.onTable]
    rcases hresult : store.table.delete key with ⟨_ | _, after⟩
    · obtain rfl := Table.delete_snd_of_absent hresult
      rfl
    · rfl
  | updateStatus key expected status =>
    simp only [perform, updateStatus, Operation.verdict, Operation.onTable, Table.offered]
    cases store.table.updateStatus key expected status <;> rfl

variable {φ : Type} (system : FileSystem φ) (store : FileStore) (files : φ)

/-- Writing a table through and telling a change: when the writing fails, the store stays behind
with the table and with nothing told. -/
theorem run_commit {α : Type} (value : α) (change : Option Change) :
    (commit store value change).run system files =
      match Script.run system (replace store.path (Document.write store.table.toList)).run
        files with
      | (.ok (), left) => ((.ok value, { store with
          dirty := false, watches := change.elim store.watches store.watches.publish }), left)
      | (.error error, left) => ((.error error, store), left) := by
  rw [commit, Script.bind_eq, Script.run_bind, save, Script.bind_eq, Script.run_bind]
  rcases Script.run system (replace store.path (Document.write store.table.toList)).run files
    with ⟨_ | _, left⟩ <;> rfl

/-- A commit fails exactly as the writing of its table does, and leaves the changed store. -/
theorem run_commit_error {α : Type} {value : α} {change : Option Change} {error : Error}
    {after : FileStore} {left : φ}
    (h : (commit store value change).run system files = ((.error error, after), left)) :
    Script.run system (replace store.path (Document.write store.table.toList)).run files =
        (.error error, left) ∧ after = store := by
  rw [run_commit] at h
  split at h
  · cases h
  · next hwrite =>
    cases h
    exact ⟨hwrite, rfl⟩

/-- An operation that fails was refused by the table and has changed nothing, or could not be
written through. Then the store has the table that the operation would have led to, in which some
object differs from before, and knows that it was not written; its watches were told nothing. -/
theorem perform_error_cases (operation : Operation) {error : Error} {after : FileStore} {left : φ}
    (h : (store.perform operation).run system files = ((.error error, after), left)) :
    (operation.refusal? store.table = some error ∧ after = store ∧ left = files) ∨
    (operation.refusal? store.table = none ∧
      Script.run system
          (replace store.path (Document.write (operation.onTable store.table).toList)).run files =
        (.error error, left) ∧
      after = { store with table := operation.onTable store.table, dirty := true } ∧
      ∃ key, after.table.get? key ≠ store.table.get? key) := by
  rw [perform_eq] at h
  rcases operation.verdict_cases store.table with
    ⟨refusal, hverdict, hrefusal, -⟩ | ⟨value, hverdict, -⟩ |
      ⟨value, change, hverdict, hrefusal, hdiffers⟩ <;>
    rw [hverdict] at h
  -- what the table refuses is answered before any file is touched
  · cases h
    exact .inl ⟨hrefusal, rfl, rfl⟩
  · cases h
  · obtain ⟨hwrite, rfl⟩ := run_commit_error system _ files h
    exact .inr ⟨hrefusal, hwrite, rfl, hdiffers⟩

/-! ## A temporary file that cannot be made -/

variable {system store files}

/-- A temporary file that cannot be made ends the writing. -/
theorem run_replace_of_create {path text : String} {error : FileError} {left : φ}
    (h : system (.create (temporary path)) files = (.error error, left)) :
    Script.run system (replace path text).run files =
      (.error (.store s!"Failed to create temp file {temporary path}: {error.message}"), left) := by
  rw [replace_eq, Script.run_ask, h]
  rfl

/-- A directory stands where a store at `objects.json` collects its new text. -/
def blockedDisk : Disk :=
  Disk.empty.put ["objects.tmp"] .directory

/-- A store without objects, and a group that is declared in it. The declaration fails, and the
group is there all the same. -/
theorem perform_error_cases_blockedDisk :
    let store : FileStore := ⟨"objects.json", .empty, false, []⟩
    let group : Manifest := .resource .subnetGroup ⟨"private", "first", ["subnet-a", "subnet-b"]⟩
    let error : Error := .store
      "Failed to create temp file objects.tmp: Is a directory (os error 21)"
    ∃ after, (store.perform (.apply "private" group)).run Disk.system blockedDisk =
        ((.error error, after), blockedDisk) ∧
      after = { store with table := store.table.applied "private" group, dirty := true } ∧
      ∃ key, after.table.get? key ≠ store.table.get? key := by
  intro store group error
  have hcreate : Disk.system (.create (temporary "objects.json")) blockedDisk =
      (.error .isDirectory, blockedDisk) := rfl
  have haccepted : (Operation.apply "private" group).refusal? store.table = none := rfl
  have hrun : (store.perform (.apply "private" group)).run Disk.system blockedDisk =
      ((.error error, { store with table := store.table.applied "private" group, dirty := true }),
        blockedDisk) := by
    have happly : store.table.apply "private" group =
        .ok (.fresh "private" group, store.table.applied "private" group) := rfl
    simp only [perform, apply, happly]
    rw [run_commit, run_replace_of_create hcreate]
    rfl
  rcases perform_error_cases Disk.system store blockedDisk _ hrun
    with ⟨hrefused, -, -⟩ | ⟨-, -, hafter, hdiffers⟩
  · rw [haccepted] at hrefused
    cases hrefused
  · exact ⟨_, hrun, hafter, hdiffers⟩

end FileStore

end Reconciler
