import Reconciler.Proofs.Store.Recovery
import Reconciler.Proofs.Store.Sound

/-!
# What opening a store takes over

The operations of a store bring about sound objects only: an object's spec and its status are of the
kind that its key names. Opening a store is the one operation that takes objects from elsewhere. A
file counts as damaged when it cannot be read as a document, and for nothing else; the last object
of every key in the document is taken over as it stands. So the objects of an opened store are sound
exactly when those are (`opened_sound_iff`), and every call keeps sound what was sound; an object
that is not is told of by the dispatcher, whose engines refuse it. The version that the document
gives is counted up by every write until it comes round.
-/

set_option autoImplicit false

namespace Reconciler

open Files

/-- The last object of a list under a key. -/
def latest? (key : Key) (objects : List Declaration) : Option Declaration :=
  objects.reverse.find? (·.key = key)

/-- The last object under a key is the newest one if it has that key, and else the last one
before. -/
theorem latest?_concat (key : Key) (objects : List Declaration) (object : Declaration) :
    latest? key (objects ++ [object]) = if object.key = key then some object
      else latest? key objects := by
  rw [latest?, List.reverse_append, List.reverse_singleton, List.singleton_append, List.find?_cons]
  by_cases hkey : object.key = key <;> simp [hkey, latest?]

namespace Table

variable {table : Table}

/-- A table that is made from a list has the last object of the list under each key. -/
theorem get?_ofList (objects : List Declaration) (key : Key) :
    (ofList objects).get? key = latest? key objects := by
  induction objects using List.reverseRecOn with
  | nil => exact get?_empty key
  | append_singleton objects object ih =>
    have hput : ofList (objects ++ [object]) = (ofList objects).put object :=
      List.foldl_append
    rw [hput, get?_put, latest?_concat, ih]

/-- A table that is made from a list is sound exactly when the last object under each key is. -/
theorem sound_ofList_iff (objects : List Declaration) :
    (ofList objects).Sound ↔ ∀ key object, latest? key objects = some object → object.Sound := by
  simp only [Sound, get?_ofList]

/-- A call keeps the table of a store sound. -/
theorem Sound.called (h : table.Sound) (hkeyed : table.Keyed) (call : StoreCall) :
    (call.onTable table).Sound := by
  cases call with
  | list kind => exact h
  | flush => exact h
  | operate operation => exact h.onTable hkeyed operation

end Table

/-! ## Versions that are counted up -/

/-- The object that a call has written and the version that it answers. -/
def StoreCall.written? : (call : StoreCall) → call.Value → Option (Key × UInt64)
  | .operate (.apply _ _), object => some (object.key, object.version)
  | .operate (.updateStatus key _ _), version => some (key, version)
  | .operate (.get _), _ => none
  | .operate (.delete _), _ => none
  | .list _, _ => none
  | .flush, _ => none

/-- A version grows when it is counted up, unless it is the largest one. -/
theorem lt_add_one_iff (version : UInt64) :
    version < version + 1 ↔ version.toNat ≠ UInt64.size - 1 := by
  have hlt := version.toNat_lt
  have hsize : UInt64.size = 18446744073709551616 := rfl
  rw [UInt64.lt_iff_toNat_lt, UInt64.toNat_add, UInt64.toNat_one, hsize]
  omega

namespace FileStore

variable {φ : Type} {system : FileSystem φ} {path : String} {store : FileStore} {disk left : Disk}
  {objects : List Declaration}

/-- A commit that does not fail answers the value that it was given. -/
theorem value_of_run_commit {α : Type} {value answer : α} {change : Option Change} {files left : φ}
    {after : FileStore}
    (h : (commit store value change).run system files = ((.ok answer, after), left)) :
    answer = value := by
  rw [run_commit] at h
  split at h <;> cases h
  rfl

/-- A call counts the version of the object up that it writes over. -/
theorem version_of_answer {call : StoreCall} {value : call.Value} {after : FileStore}
    {files left : φ} (hkeyed : store.table.Keyed)
    (hrun : (store.answer call).run system files = ((.ok value, after), left)) {key : Key}
    {version : UInt64} (hwritten : call.written? value = some (key, version))
    {former : Declaration} (hformer : store.table.get? key = some former) :
    version = former.version + 1 := by
  cases call with
  | list kind => cases hwritten
  | flush => cases hwritten
  | operate operation =>
    cases operation with
    | get other => cases hwritten
    | delete other => cases hwritten
    | apply name manifest =>
      cases hwritten
      simp only [answer, perform, apply] at hrun
      split at hrun
      · cases hrun
      · next object table hresult =>
        obtain rfl := value_of_run_commit hrun
        rw [hkeyed.apply hresult] at hformer
        exact Table.eq_add_one_of_onVersion hformer (Table.version_of_apply hresult)
    | updateStatus other expected status =>
      cases hwritten
      simp only [answer, perform, updateStatus] at hrun
      split at hrun
      · cases hrun
      · next written table hresult =>
        obtain rfl := value_of_run_commit hrun
        exact Table.eq_add_one_of_onVersion hformer (Table.version_of_updateStatus hresult).1

/-! ## Later calls -/

/-- A store and the files below it after some calls. -/
def called (system : FileSystem φ) : List StoreCall → FileStore × φ → FileStore × φ
  | [], now => now
  | call :: rest, now => called system rest
    (((now.1.answer call).run system now.2).1.2, ((now.1.answer call).run system now.2).2)

/-- Calls keep every object under its own key, and sound objects sound. -/
theorem keyed_and_sound_called (system : FileSystem φ) (calls : List StoreCall)
    (now : FileStore × φ) (hkeyed : now.1.table.Keyed) :
    (called system calls now).1.table.Keyed ∧
      (now.1.table.Sound → (called system calls now).1.table.Sound) := by
  induction calls generalizing now with
  | nil => exact ⟨hkeyed, id⟩
  | cons call rest ih =>
    have htable := (run_answer system now.1 call now.2).2
    have hafter := keyed_onTable hkeyed call
    rw [← htable] at hafter
    obtain ⟨hkeyedRest, hsoundRest⟩ := ih (((now.1.answer call).run system now.2).1.2,
      ((now.1.answer call).run system now.2).2) hafter
    refine ⟨hkeyedRest, fun hsound => hsoundRest ?_⟩
    rw [htable]
    exact hsound.called hkeyed call

/-! ## Opened stores -/

/-- The objects at a path: those of the document in the file, or those of the one in the backup when
the file is no document, or none. -/
def contents (path : String) (disk : Disk) : List Declaration :=
  match loaded path disk with
  | .ok objects => objects
  | .error .json =>
    if disk.contains (backup path) then match loaded (backup path) disk with
      | .ok objects => objects
      | .error _ => []
    else []
  | .error _ => []

/-- The objects that a store is opened with are the contents of its path. -/
theorem eq_contents_of_run_loadOrRecover
    (h : Script.run Disk.system (loadOrRecover path).run disk = (.ok objects, left)) :
    objects = contents path disk := by
  rw [run_loadOrRecover] at h
  split at h
  · next hjson =>
    obtain rfl := Except.ok.inj (congrArg Prod.fst h)
    rw [run_recover]
    simp only [contents, hjson]
    cases disk.contains (backup path) with
    | false => rfl
    | true => cases loaded (backup path) disk <;> rfl
  · have hloaded : loaded path disk = .ok objects := congrArg Prod.fst h
    simp only [contents, hloaded]

/-- Opening a store makes its directory and takes over what is at its path. -/
theorem exists_housed_of_run_openAt
    (h : Script.run Disk.system (openAt path).run disk = (.ok store, left)) :
    ∃ housed, Script.run Disk.system (makeParent path).run disk = (.ok (), housed) ∧
      store.table = .ofList (contents path housed) := by
  obtain ⟨⟨⟩, housed, hparent, hrest⟩ := exists_of_run_bind_eq_ok h
  obtain ⟨objects, _, hload, hdone⟩ := exists_of_run_bind_eq_ok hrest
  refine ⟨housed, hparent, ?_⟩
  rw [← eq_contents_of_run_loadOrRecover hload]
  cases hdone
  rfl

/-- Opening a store takes over the last object of every key at its path as it stands, so the objects
of the store are sound exactly when those are. Later calls, whatever the files below them do, keep
sound objects sound, and each one that writes over an object answers a larger version, unless the
former one was the largest there is. -/
theorem opened_sound_iff
    (hopen : Script.run Disk.system (openAt path).run disk = (.ok store, left)) :
    ∃ housed, Script.run Disk.system (makeParent path).run disk = (.ok (), housed) ∧
      (∀ key, store.table.get? key = latest? key (contents path housed)) ∧
      (store.table.Sound ↔
        ∀ key object, latest? key (contents path housed) = some object → object.Sound) ∧
      ∀ (φ : Type) (system : FileSystem φ) (files : φ) (calls : List StoreCall),
        let now := called system calls (store, files)
        (store.table.Sound → now.1.table.Sound) ∧
          ∀ (call : StoreCall) (value : call.Value) (after : FileStore) (still : φ),
            (now.1.answer call).run system now.2 = ((.ok value, after), still) →
              ∀ key version former, call.written? value = some (key, version) →
                now.1.table.get? key = some former →
                  version = former.version + 1 ∧
                    (former.version < version ↔ former.version.toNat ≠ UInt64.size - 1) := by
  obtain ⟨housed, hparent, htable⟩ := exists_housed_of_run_openAt hopen
  have hkeyed : store.table.Keyed := htable ▸ Table.keyed_ofList _
  refine ⟨housed, hparent, fun key => ?_, ?_, fun φ system files calls => ?_⟩
  · rw [htable, Table.get?_ofList]
  · rw [htable, Table.sound_ofList_iff]
  · obtain ⟨hkeyedNow, hsoundNow⟩ :=
      keyed_and_sound_called system calls (store, files) hkeyed
    refine ⟨hsoundNow, fun call value after still hrun key version former hwritten hformer => ?_⟩
    obtain rfl := version_of_answer hkeyedNow hrun hwritten hformer
    exact ⟨rfl, lt_add_one_iff former.version⟩

/-! ### A document with an object that no operation brings about -/

/-- An object under the key of a cluster with the spec of a group, the status of a deletion request
and the largest version. -/
def misfit : Declaration :=
  ⟨⟨.resource .cluster, "db1"⟩, 18446744073709551615, keptGroup, .deletion .created⟩

/-- A disk with the document of the misfit. -/
def misfitFile : Disk :=
  Disk.empty.put ["objects.json"]
    (.file (Document.write (Table.ofList [misfit]).toList).toUTF8)

/-- The store with the misfit opens with the misfit in its table. -/
theorem reopens_misfitFile : Reopens "objects.json" (Table.ofList [misfit]) misfitFile :=
  reopens_of_locate (Table.keyed_ofList _) rfl

/-- The misfit is an object of the opened store. -/
theorem exists_unsound_opened :
    ∃ store, Script.run Disk.system (openAt "objects.json").run misfitFile =
        (.ok store, misfitFile) ∧
      store.table.get? misfit.key = some misfit ∧ misfit.manifest.kind ≠ misfit.key.kind ∧
      misfit.status.fits misfit.key.kind = false :=
  ⟨_, reopens_misfitFile, rfl, by decide, rfl⟩

/-- No status that is stored with the misfit gives it a larger version. -/
theorem opened_sound_iff_misfit :
    ∃ store, Script.run Disk.system (openAt "objects.json").run misfitFile =
        (.ok store, misfitFile) ∧ ¬ store.table.Sound ∧
      ∀ (status : Status) (version : UInt64) (after : FileStore) (left : Disk),
        (store.answer (.operate (.updateStatus misfit.key misfit.version status))).run Disk.system
            misfitFile = ((.ok version, after), left) →
          ¬ misfit.version < version := by
  obtain ⟨-, -, -, -, hlater⟩ := opened_sound_iff reopens_misfitFile
  have hget : (Table.ofList [misfit]).get? misfit.key = some misfit := rfl
  have hunsound : ¬ misfit.Sound := fun h => absurd h.2 (by decide)
  refine ⟨_, reopens_misfitFile, fun h => hunsound (h _ _ hget),
    fun status version after left hrun => ?_⟩
  obtain ⟨-, hgrows⟩ := (hlater Disk Disk.system misfitFile []).2
    (.operate (.updateStatus misfit.key misfit.version status)) version after left hrun
    misfit.key version misfit rfl hget
  rw [hgrows]
  decide

end FileStore

end Reconciler
