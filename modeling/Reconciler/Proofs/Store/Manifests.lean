import Reconciler.Proofs.Store.Commits
import Reconciler.Proofs.Store.Session
import Reconciler.Proofs.Store.Succeeds
import Reconciler.Store.Disk
import Reconciler.Store.Manifests

/-!
# Applying a manifest file

The entries of a manifest file are applied one after the other, up to the first one whose name is
blank (`applyFile_applies_prefix`). Whatever ends it, the entries before are in the store, and an
object that was there keeps its status: it has the spec of the last entry under its key, and its
version has counted the entries under its key. Nothing of this depends on the sort of store, as
long as what a store in a file writes gets there.
-/

set_option autoImplicit false

namespace Reconciler

open Files

namespace FileStore

variable {φ : Type} {system : FileSystem φ} {files : φ}

/-- A text whose writes succeed is put in place. -/
theorem exists_run_replace_of_writesSucceed {path text : String}
    (h : WritesSucceed system (replace path text).run files) :
    ∃ left, Script.run system (replace path text).run files = (.ok (), left) := by
  have hmove : ∀ {before : φ}, WritesSucceed system (moveIntoPlace path) before →
      ∃ left, (moveIntoPlace path).run system before = (.ok (), left) := by
    intro before hwrites
    have hrename : (system (.rename (temporary path) path) before).1 = .ok () :=
      (writesSucceed_ask_iff.mp hwrites).1 rfl
    rw [moveIntoPlace, Script.run_ask, hrename]
    exact ⟨_, rfl⟩
  rw [replace_eq] at h ⊢
  obtain ⟨hcreate, h⟩ := writesSucceed_ask_iff.mp h
  replace hcreate : (system (.create (temporary path)) files).1 = .ok () := hcreate rfl
  rw [hcreate] at h
  obtain ⟨happend, h⟩ := writesSucceed_ask_iff.mp h
  replace happend := happend rfl
  simp only [FileCall.Succeeded] at happend
  rw [Script.run_ask, hcreate]
  simp only [check, Script.run_ask, happend] at h ⊢
  obtain ⟨hflush, h⟩ := writesSucceed_ask_iff.mp h
  replace hflush := hflush rfl
  simp only [FileCall.Succeeded] at hflush
  simp only [hflush] at h ⊢
  obtain ⟨-, h⟩ := writesSucceed_ask_iff.mp h
  rw [Script.run_ask]
  split
  · next hthere =>
    rw [if_pos hthere] at h
    exact hmove (writesSucceed_ask_iff.mp h).2
  · next hthere =>
    rw [if_neg hthere] at h
    exact hmove h

end FileStore

/-- A spec with a name that is not blank is applied. -/
theorem Table.exists_apply_of_not_blank (table : Table) (name : String) (manifest : Manifest)
    (hname : Text.isBlank name = false) :
    ∃ object after, table.apply name manifest = .ok (object, after) := by
  have hok := table.isOk_apply name manifest
  cases hresult : table.apply name manifest with
  | error error => simp [hresult, hname, Except.isOk, Except.toBool] at hok
  | ok result => exact ⟨result.1, result.2, rfl⟩

namespace Store

variable {φ : Type} {system : FileSystem φ} {files : φ} {name : String}

/-- A blank name is refused before anything is done. -/
theorem run_apply_of_blank (store : Store) (manifest : Manifest)
    (hname : Text.isBlank name = true) :
    (store.apply name manifest).run system files =
      ((.error (.invalidInput "object name must not be empty"), store), files) := by
  have hrefused : ∀ table : Table, table.apply name manifest =
      .error (.invalidInput "object name must not be empty") := by
    intro table
    rw [Table.apply, if_pos hname]
  cases store with
  | memory store => simp only [apply, ofMemory, MemoryStore.apply, hrefused, Script.run_done]
  | file store => simp only [apply, run_ofFile, FileStore.apply, hrefused, Script.run_done]

/-- Any other name is accepted, when what is written gets there. -/
theorem exists_run_apply_of_not_blank {store : Store} {manifest : Manifest}
    (hname : Text.isBlank name = false)
    (hwrites : WritesSucceed system (store.apply name manifest) files) :
    ∃ object after left,
      (store.apply name manifest).run system files = ((.ok object, after), left) := by
  cases store with
  | memory store =>
    obtain ⟨object, after, hresult⟩ := store.table.exists_apply_of_not_blank name manifest hname
    simp only [apply, ofMemory, MemoryStore.apply, hresult, Script.run_done]
    exact ⟨_, _, _, rfl⟩
  | file store =>
    obtain ⟨object, after, hresult⟩ := store.table.exists_apply_of_not_blank name manifest hname
    simp only [apply, ofFile, FileStore.apply, hresult] at hwrites
    have hcommit := (writesSucceed_bind_iff.mp hwrites).1
    have hsave := (writesSucceed_bind_iff.mp hcommit).1
    obtain ⟨left, hreplace⟩ :=
      FileStore.exists_run_replace_of_writesSucceed (writesSucceed_bind_iff.mp hsave).1
    simp only [apply, run_ofFile, FileStore.apply, hresult, FileStore.run_commit, hreplace]
    exact ⟨_, _, _, rfl⟩

end Store

namespace Manifests

/-! ## Entries -/

def Entry.key (entry : Entry) : Key :=
  ⟨entry.manifest.kind, entry.name⟩

/-- The entries that are read from a file. -/
def declared : Except FileError String → List Entry
  | .error _ => []
  | .ok text => (read? text).getD []

/-- The entries before the first one with a blank name. -/
def accepted (entries : List Entry) : List Entry :=
  entries.takeWhile fun entry => !Text.isBlank entry.name

def under (key : Key) (entries : List Entry) : List Entry :=
  entries.filter (·.key = key)

/-- An object that is declared again by entries: it has the spec of the last one under its key. -/
def redeclared (key : Key) (object : Declaration) (entries : List Entry) : Declaration :=
  { object with
    manifest := ((under key entries).getLast?.map Entry.manifest).getD object.manifest
    version := object.version + UInt64.ofNat (under key entries).length }

/-- An object that no entry declares again stays as it is. -/
theorem redeclared_nil (key : Key) (object : Declaration) : redeclared key object [] = object := by
  simp [redeclared, under]

/-- An entry under another key does not declare an object again. -/
theorem redeclared_cons_of_ne {key : Key} (object : Declaration) {entry : Entry}
    (rest : List Entry) (h : entry.key ≠ key) :
    redeclared key object (entry :: rest) = redeclared key object rest := by
  simp [redeclared, under, h]

/-- An entry under the key of an object replaces its spec, before the rest do. -/
theorem redeclared_cons_self (object : Declaration) (entry : Entry) (rest : List Entry) :
    redeclared entry.key object (entry :: rest) =
      redeclared entry.key (Table.replaced object entry.manifest) rest := by
  have hunder : under entry.key (entry :: rest) = entry :: under entry.key rest := by
    simp [under]
  have hmanifest : ((entry :: under entry.key rest).getLast?.map Entry.manifest).getD
      object.manifest =
        ((under entry.key rest).getLast?.map Entry.manifest).getD entry.manifest := by
    rw [List.getLast?_cons]
    cases (under entry.key rest).getLast? <;> rfl
  simp only [redeclared, hunder, hmanifest, Table.replaced, List.length_cons, ofNat_succ]
  rw [UInt64.add_assoc, UInt64.add_comm 1]

/-- An object of a table is declared again by the entries that are applied. -/
theorem get?_foldl_applied {entries : List Entry}
    (hnames : ∀ entry ∈ entries, Text.isBlank entry.name = false) {table : Table} {key : Key}
    {object : Declaration} (hobject : table.get? key = some object) :
    (entries.foldl (fun table entry => table.applied entry.name entry.manifest) table).get? key =
      some (redeclared key object entries) := by
  induction entries generalizing table object with
  | nil => rw [List.foldl_nil, redeclared_nil, hobject]
  | cons entry rest ih =>
    obtain ⟨hname, hrest⟩ := List.forall_mem_cons.mp hnames
    rw [List.foldl_cons]
    by_cases hkey : entry.key = key
    · subst hkey
      have hnext : (table.applied entry.name entry.manifest).get? entry.key =
          some (Table.replaced object entry.manifest) := by
        rw [Entry.key, Table.get?_applied_self entry.manifest hname, ← Entry.key, hobject]
      rw [ih hrest hnext, redeclared_cons_self]
    · have hnext : (table.applied entry.name entry.manifest).get? key = some object := by
        rw [Table.get?_applied_of_ne hkey, hobject]
      rw [ih hrest hnext, redeclared_cons_of_ne object rest hkey]

/-! ## One entry after the other -/

section Run

variable {φ : Type} (system : FileSystem φ)

/-- What one entry leaves of a store and of the files. -/
def applyEntry (state : Store × φ) (entry : Entry) : Store × φ :=
  let ((_, store), left) := (state.1.apply entry.name entry.manifest).run system state.2
  (store, left)

def applyEach (state : Store × φ) (entries : List Entry) : Store × φ :=
  entries.foldl (applyEntry system) state

variable {system} {files : φ} {store : Store} {entries : List Entry}

/-- Entries that are applied one by one move the table one after the other. -/
theorem table_applyEach (state : Store × φ) (entries : List Entry) :
    (applyEach system state entries).1.table =
      entries.foldl (fun table entry => table.applied entry.name entry.manifest)
        state.1.table := by
  induction entries generalizing state with
  | nil => rfl
  | cons entry rest ih =>
    have hentry := Store.table_run_apply system state.1 state.2 entry.name entry.manifest
    rw [List.foldl_cons, ← hentry]
    exact ih (applyEntry system state entry)

/-- Entries with names are applied, and whatever follows them goes on from there. -/
theorem run_applyAll_append {before : List Entry}
    (hnames : ∀ entry ∈ before, Text.isBlank entry.name = false) (after : List Entry)
    (hwrites : WritesSucceed system (applyAll store (before ++ after)) files) :
    (applyAll store (before ++ after)).run system files =
      let state := applyEach system (store, files) before
      let later := (applyAll state.1 after).run system state.2
      ((later.1.1.map (· + before.length), later.1.2), later.2) := by
  induction before generalizing store files with
  | nil =>
    have hcount : ∀ result : Except Refusal Nat, result.map (· + 0) = result := by
      rintro (_ | _) <;> rfl
    exact Prod.ext (Prod.ext (hcount _).symm rfl) rfl
  | cons entry rest ih =>
    obtain ⟨hname, hrest⟩ := List.forall_mem_cons.mp hnames
    rw [List.cons_append, applyAll] at hwrites ⊢
    obtain ⟨hfirst, hnext⟩ := writesSucceed_bind_iff.mp hwrites
    obtain ⟨object, middle, left, hrun⟩ := Store.exists_run_apply_of_not_blank hname hfirst
    have hentry : applyEntry system (store, files) entry = (middle, left) := by
      simp only [applyEntry, hrun]
    rw [hrun] at hnext
    -- the other entries go on from what the first one leaves
    have htail := ih hrest (writesSucceed_bind_iff.mp hnext).1
    have heach : applyEach system (store, files) (entry :: rest) =
        applyEach system (middle, left) rest := by
      rw [applyEach, List.foldl_cons, hentry, applyEach]
    rw [Script.run_bind, hrun, heach]
    dsimp only at htail ⊢
    rw [Script.run_bind, htail]
    rcases (applyAll _ after).run system _ with ⟨⟨_ | count, _⟩, _⟩ <;> rfl

/-- Entries with names are all applied, and counted. -/
theorem run_applyAll_of_names (hnames : ∀ entry ∈ entries, Text.isBlank entry.name = false)
    (hwrites : WritesSucceed system (applyAll store entries) files) :
    (applyAll store entries).run system files =
      ((.ok entries.length, (applyEach system (store, files) entries).1),
        (applyEach system (store, files) entries).2) := by
  rw [← entries.append_nil] at hwrites
  have hrun := run_applyAll_append hnames [] hwrites
  rw [entries.append_nil] at hrun
  rw [hrun]
  simp [applyAll, Except.map]

/-- An entry with a blank name ends the application and is named in its error; those before it were
applied. -/
theorem run_applyAll_of_blank {before after : List Entry} {entry : Entry}
    (hnames : ∀ entry ∈ before, Text.isBlank entry.name = false)
    (hblank : Text.isBlank entry.name = true)
    (hwrites : WritesSucceed system (applyAll store (before ++ entry :: after)) files) :
    (applyAll store (before ++ entry :: after)).run system files =
      ((.error (.refused entry.name (.invalidInput "object name must not be empty")),
        (applyEach system (store, files) before).1),
        (applyEach system (store, files) before).2) := by
  rw [run_applyAll_append hnames _ hwrites]
  simp [applyAll, Script.run_bind, Store.run_apply_of_blank _ entry.manifest hblank, Except.map]

/-- Entries all have names, or there is a first one that has none. -/
theorem accepted_cases (entries : List Entry) :
    (∀ entry ∈ accepted entries, Text.isBlank entry.name = false) ∧
      (accepted entries = entries ∨ ∃ entry after,
        entries = accepted entries ++ entry :: after ∧ Text.isBlank entry.name = true) := by
  have hnames := List.all_eq_true.mp
    (List.all_takeWhile (p := fun entry : Entry => !Text.isBlank entry.name) (l := entries))
  refine ⟨fun entry hentry => by simpa using hnames entry hentry, ?_⟩
  have hsplit := entries.takeWhile_append_dropWhile (p := fun entry => !Text.isBlank entry.name)
  cases hrest : entries.dropWhile fun entry => !Text.isBlank entry.name with
  | nil =>
    rw [hrest, List.append_nil] at hsplit
    exact .inl hsplit
  | cons entry after =>
    rw [hrest] at hsplit
    have hblank := List.head_dropWhile_not (fun entry : Entry => !Text.isBlank entry.name)
      (l := entries) (by simp [hrest])
    simp only [hrest, List.head_cons, Bool.not_eq_false'] at hblank
    exact .inr ⟨entry, after, hsplit.symm, hblank⟩

/-- Whatever ends the application, an object that was there is declared again by the entries
before. -/
theorem get?_run_applyAll (hwrites : WritesSucceed system (applyAll store entries) files)
    {key : Key} {object : Declaration} (hobject : store.table.get? key = some object) :
    ((applyAll store entries).run system files).1.2.table.get? key =
      some (redeclared key object (accepted entries)) := by
  obtain ⟨hnames, hcases⟩ := accepted_cases entries
  -- a refused entry leaves the store as the entries before it do
  have hstore : ((applyAll store entries).run system files).1.2 =
      (applyEach system (store, files) (accepted entries)).1 := by
    rcases hcases with hall | ⟨entry, after, hsplit, hblank⟩
    · rw [hall] at hnames ⊢
      rw [run_applyAll_of_names hnames hwrites]
    · rw [hsplit] at hwrites
      have hrun := run_applyAll_of_blank hnames hblank hwrites
      rw [← hsplit] at hrun
      rw [hrun]
  rw [hstore, table_applyEach]
  exact get?_foldl_applied hnames hobject

/-- A store in memory has nothing to write. -/
theorem trace_applyAll_memory (store : MemoryStore) (entries : List Entry) :
    (applyAll (.memory store) entries).trace system files = [] := by
  induction entries generalizing store with
  | nil => rfl
  | cons entry rest ih =>
    rw [applyAll, Store.apply, Store.ofMemory, Script.trace_bind, Script.trace_done,
      Script.run_done, List.nil_append]
    rcases store.apply entry.name entry.manifest with ⟨_ | _, after⟩
    · rfl
    · simp only [Script.trace_bind, ih, Script.trace_done, List.append_nil]

end Run

/-! ## Manifest files -/

section ManifestFile

variable {φ : Type} {system : FileSystem φ} {store : Store} {path text : String} {files left : φ}
  {entries : List Entry}

/-- A file that cannot be read applies nothing. -/
theorem run_applyFile_of_unreadable {error : FileError}
    (hread : system (.readText path) files = (.error error, left)) :
    (applyFile store path).run system files =
      ((.error (.unreadable path error), store), left) := by
  simp only [applyFile, Script.run_ask, hread, Script.run_done]

/-- A file that is no list of manifests applies nothing. -/
theorem run_applyFile_of_undecodable
    (hread : system (.readText path) files = (.ok text, left)) (hnone : read? text = none) :
    (applyFile store path).run system files = ((.error (.invalid path), store), left) := by
  simp only [applyFile, Script.run_ask, hread, hnone, Script.run_done]

/-- A file with a list of manifests applies its entries. -/
theorem run_applyFile_of_entries
    (hread : system (.readText path) files = (.ok text, left))
    (hentries : read? text = some entries) :
    (applyFile store path).run system files = (applyAll store entries).run system left := by
  simp only [applyFile, Script.run_ask, hread, hentries]

/-- Reading the manifest file writes nothing. -/
theorem writesSucceed_applyFile_iff
    (hread : system (.readText path) files = (.ok text, left))
    (hentries : read? text = some entries) :
    WritesSucceed system (applyFile store path) files ↔
      WritesSucceed system (applyAll store entries) left := by
  rw [applyFile, writesSucceed_ask_iff]
  simp only [hread, hentries]
  exact and_iff_right nofun

/-- What applying a manifest file to a store comes to. -/
structure AppliesPrefix (system : FileSystem φ) (store : Store) (path : String) (files : φ)
    (result : (Except Refusal Nat × Store) × φ) : Prop where
  unreadable : ∀ error left, system (.readText path) files = (.error error, left) →
    result = ((.error (.unreadable path error), store), left)
  undecodable : ∀ text left, system (.readText path) files = (.ok text, left) →
    read? text = none → result = ((.error (.invalid path), store), left)
  complete : ∀ text left entries, system (.readText path) files = (.ok text, left) →
    read? text = some entries → (∀ entry ∈ entries, Text.isBlank entry.name = false) →
    let state := applyEach system (store, left) entries
    result = ((.ok entries.length, state.1), state.2)
  /-- The first entry with a blank name ends the application. -/
  cut : ∀ text left before entry after, system (.readText path) files = (.ok text, left) →
    read? text = some (before ++ entry :: after) →
    (∀ earlier ∈ before, Text.isBlank earlier.name = false) →
    Text.isBlank entry.name = true →
    let state := applyEach system (store, left) before
    result = ((.error (.refused entry.name (.invalidInput "object name must not be empty")),
      state.1), state.2)
  /-- An object that was there before keeps its status in every case. -/
  kept : ∀ key object, store.table.get? key = some object →
    result.1.2.table.get? key =
      some (redeclared key object (accepted (declared (system (.readText path) files).1)))

/-- A manifest file is applied to a store up to the first entry with a blank name, and never
touches a status. -/
theorem applyFile_applies_prefix (system : FileSystem φ) (store : Store) (path : String)
    (files : φ)
    (hworks : ∀ kept, store = .file kept →
      WritesSucceed system (applyFile store path) files) :
    AppliesPrefix system store path files ((applyFile store path).run system files) := by
  have hwrites : ∀ {text left entries}, system (.readText path) files = (.ok text, left) →
      read? text = some entries → WritesSucceed system (applyAll store entries) left := by
    intro text left entries hread hentries
    cases store with
    | memory store => exact writesSucceed_of_trace_nil (trace_applyAll_memory store entries)
    | file store => exact (writesSucceed_applyFile_iff hread hentries).mp (hworks store rfl)
  refine ⟨fun error left hread => run_applyFile_of_unreadable hread,
    fun text left hread hnone => run_applyFile_of_undecodable hread hnone, ?_, ?_, ?_⟩
  · intro text left entries hread hentries hnames
    rw [run_applyFile_of_entries hread hentries]
    exact run_applyAll_of_names hnames (hwrites hread hentries)
  · intro text left before entry after hread hentries hnames hblank
    rw [run_applyFile_of_entries hread hentries]
    exact run_applyAll_of_blank hnames hblank (hwrites hread hentries)
  · intro key object hobject
    rcases hread : system (.readText path) files with ⟨error | text, left⟩
    · rw [run_applyFile_of_unreadable hread, hobject]
      exact congrArg some (redeclared_nil key object).symm
    · cases hentries : read? text with
      | none =>
        rw [run_applyFile_of_undecodable hread hentries, hobject]
        simp only [declared, hentries, Option.getD_none]
        exact congrArg some (redeclared_nil key object).symm
      | some entries =>
        rw [run_applyFile_of_entries hread hentries]
        simp only [declared, hentries, Option.getD_some]
        exact get?_run_applyAll (hwrites hread hentries) hobject

end ManifestFile

/-! ## A group that is ready, and declared again at a restart -/

def readyGroup : Declaration where
  key := ⟨.resource .subnetGroup, "private"⟩
  version := 7
  manifest := .resource .subnetGroup ⟨"private", "first", ["subnet-a"]⟩
  status := .lifecycle ⟨.provisioned, 5, .empty⟩

/-- The group with another description. -/
def againGroup : Entry :=
  ⟨"private", .resource .subnetGroup ⟨"private", "second", ["subnet-a"]⟩⟩

def namelessGroup : Entry :=
  ⟨" ", .resource .subnetGroup ⟨"nameless", "third", []⟩⟩

def restartText : String :=
  "[[\"private\", [\"subnet_group\", [\"private\", \"second\", [\"subnet-a\"]]]],
    [\" \", [\"subnet_group\", [\"nameless\", \"third\", []]]]]"

def restartDisk : Disk :=
  Disk.empty.put ["manifests.json"] (.file restartText.toUTF8)

def restartStore : FileStore :=
  ⟨"objects.json", Table.empty.put readyGroup, false, []⟩

/-- The text for the restart has two entries, of which the second has no name. -/
theorem read?_restartText : read? restartText = some [againGroup, namelessGroup] := by
  decide +kernel

/-- The text for the restart is read from its disk. -/
theorem readText_restartDisk :
    Disk.system (.readText "manifests.json") restartDisk = (.ok restartText, restartDisk) := by
  have hlocate : restartDisk.locate "manifests.json" = .ok (some (.file restartText.toUTF8)) := rfl
  exact congrArg (·, restartDisk) (Disk.readText_of_file hlocate)

/-- The entries for the restart can all be written. -/
theorem writesSucceed_restartStore :
    WritesSucceed Disk.system (applyFile (.file restartStore) "manifests.json") restartDisk := by
  refine (writesSucceed_applyFile_iff readText_restartDisk read?_restartText).mpr ?_
  rw [applyAll]
  have hfirst : WritesSucceed Disk.system
      ((Store.file restartStore).apply againGroup.name againGroup.manifest) restartDisk := by
    obtain ⟨object, table, hresult⟩ :=
      restartStore.table.exists_apply_of_not_blank againGroup.name againGroup.manifest rfl
    simp only [Store.apply, FileStore.apply, hresult]
    have hreplace : Succeeds Disk.system (FileStore.replace "objects.json"
        (Document.write table.toList)).run restartDisk :=
      FileStore.succeeds_replace (Disk.free_of_writeBytes rfl) (Disk.free_of_writeBytes rfl)
        (Disk.free_of_writeBytes rfl) _
    refine Succeeds.writesSucceed (succeeds_bind_iff.mpr ⟨?_, succeeds_done _⟩)
    exact FileStore.succeeds_commit_iff.mpr hreplace
  obtain ⟨object, after, left, hrun⟩ := Store.exists_run_apply_of_not_blank rfl hfirst
  refine writesSucceed_bind_iff.mpr ⟨hfirst, ?_⟩
  rw [hrun]
  have hrest : (applyAll after [namelessGroup]).trace Disk.system left = [] := by
    cases after <;> rfl
  refine writesSucceed_of_trace_nil ?_
  simp only [Script.trace_bind, hrest, Script.trace_done, List.append_nil]

/-- The group has the new description and is as ready as before. -/
theorem applyFile_applies_prefix_restart :
    (∀ kept, Store.file restartStore = .file kept → WritesSucceed Disk.system
        (applyFile (.file restartStore) "manifests.json") restartDisk) ∧
      let result := (applyFile (.file restartStore) "manifests.json").run Disk.system restartDisk
      result.1.1 =
          .error (.refused " " (.invalidInput "object name must not be empty")) ∧
        result.1.2.table.get? readyGroup.key =
          some { readyGroup with manifest := againGroup.manifest, version := 8 } := by
  have hworks : ∀ kept, Store.file restartStore = .file kept → WritesSucceed Disk.system
      (applyFile (.file restartStore) "manifests.json") restartDisk :=
    fun _ _ => writesSucceed_restartStore
  have happlied := applyFile_applies_prefix Disk.system (.file restartStore) "manifests.json"
    restartDisk hworks
  refine ⟨hworks, ?_, ?_⟩
  · rw [happlied.cut restartText restartDisk [againGroup] namelessGroup [] readText_restartDisk
      read?_restartText (by decide) (by decide)]
    rfl
  · have hbefore : (Store.file restartStore).table.get? readyGroup.key = some readyGroup := by
      show (Table.empty.put readyGroup).get? readyGroup.key = some readyGroup
      rw [Table.get?_put, if_pos rfl]
    rw [happlied.kept readyGroup.key readyGroup hbefore, readText_restartDisk]
    simp only [declared, read?_restartText, Option.getD_some]
    decide

end Manifests

end Reconciler
