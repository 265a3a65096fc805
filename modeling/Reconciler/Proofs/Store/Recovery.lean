import Reconciler.Proofs.Store.Crash

/-!
# Opening a store twice

Opening a store may make a directory and may restore a file from its backup. Both are settled by
the first time: a store that was opened is opened again with the same table, and nothing on the
disk changes then (`openAt_again`). The point is the restored file. It is read in place of one
whose text is no document, so it is not the backup itself, and what was copied is what is read.
-/

set_option autoImplicit false

namespace Reconciler

open Files

namespace FileStore

variable {path : String} {store : FileStore} {table : Table} {disk after : Disk}
  {objects : List Declaration}

/-! ## What is read -/

/-- What loading comes to, which is read off the file at the path. -/
def loaded (path : String) (disk : Disk) : Except Error (List Declaration) :=
  if disk.contains path then match disk.readText path with
    | .error error => .error (.store s!"Failed to read store file {path}: {error.message}")
    | .ok text => match Document.read? text with
      | some objects => .ok objects
      | none => .error .json
  else .ok []

/-- Loading changes nothing. -/
theorem run_load (path : String) (disk : Disk) :
    Script.run Disk.system (load path).run disk = (loaded path disk, disk) := by
  rw [load_eq, Script.run_ask]
  show Script.run Disk.system (if disk.contains path then _ else _) disk = _
  cases hthere : disk.contains path with
  | false =>
    rw [loaded, hthere]
    rfl
  | true =>
    rw [loaded, hthere, if_pos rfl, if_pos rfl, Script.run_ask]
    have htext : Disk.system (.readText path) disk = (disk.readText path, disk) := rfl
    rw [htext]
    cases disk.readText path with
    | error error => rfl
    | ok text => cases hread : Document.read? text <;> simp only [hread, Script.run_done]

/-- A text that is no document. -/
theorem exists_text_of_json (h : loaded path disk = .error .json) :
    ∃ text, disk.readText path = .ok text ∧ Document.read? text = none := by
  unfold loaded at h
  split at h
  · split at h
    · cases h
    · next text htext =>
      split at h
      · cases h
      · next hread => exact ⟨text, htext, hread⟩
  · cases h

/-- Objects that were loaded come from a document in the file. -/
theorem exists_text_of_loaded (hthere : disk.contains path = true)
    (h : loaded path disk = .ok objects) :
    ∃ text, disk.readText path = .ok text ∧ Document.read? text = some objects := by
  rw [loaded, if_pos hthere] at h
  split at h
  · cases h
  · next text htext =>
    split at h
    · next hread =>
      cases h
      exact ⟨text, htext, hread⟩
    · cases h

/-- A file with a document is loaded as its objects. -/
theorem loaded_of_text {text : String} (htext : disk.readText path = .ok text)
    (hread : Document.read? text = some objects) : loaded path disk = .ok objects := by
  obtain ⟨bytes, hbytes, -⟩ := Disk.exists_of_readText htext
  simp only [loaded, Disk.contains_of_locate hbytes, if_true, htext, hread]

/-! ## What is recovered -/

/-- The objects of the backup are kept in its place and in that of the file. -/
theorem run_recover (path : String) (disk : Disk) :
    (recover path).run Disk.system disk =
      if disk.contains (backup path) then match loaded (backup path) disk with
        | .ok objects => (objects, (disk.attempt (disk.copy (backup path) path)).2)
        | .error _ => ([], disk)
      else ([], disk) := by
  show Script.run Disk.system (if disk.contains (backup path) then _ else _) disk = _
  cases disk.contains (backup path) with
  | false => rfl
  | true =>
    rw [if_pos rfl, if_pos rfl, Script.bind_eq, Script.run_bind, run_load]
    cases loaded (backup path) disk <;> rfl

/-- A file that was restored from the backup is read as the backup is. -/
theorem loaded_of_copy (hjson : loaded path disk = .error .json)
    (hthere : disk.contains (backup path) = true)
    (hbackup : loaded (backup path) disk = .ok objects)
    (hcopy : disk.copy (backup path) path = .ok after) : loaded path after = .ok objects := by
  obtain ⟨text, htext, hunread⟩ := exists_text_of_json hjson
  obtain ⟨former, hformer, hread⟩ := exists_text_of_loaded hthere hbackup
  obtain ⟨bytes, hbytes, hdecoded⟩ := Disk.exists_of_readText hformer
  have hne : text ≠ former := by
    rintro rfl
    rw [hunread] at hread
    cases hread
  have hapart := Disk.goal_ne_of_readText htext hformer hne
  have hrestored := Disk.locate_of_writeBytes (Disk.writeBytes_of_copy hbytes hapart hcopy)
  exact loaded_of_text (Disk.readText_of_locate hrestored hdecoded) hread

/-- Opening loads what can be loaded and recovers only from a text that is no document. -/
theorem run_loadOrRecover (path : String) (disk : Disk) :
    Script.run Disk.system (loadOrRecover path).run disk =
      match loaded path disk with
      | .error .json =>
        (.ok ((recover path).run Disk.system disk).1, ((recover path).run Disk.system disk).2)
      | result => (result, disk) := by
  show Script.run Disk.system (Script.bind (load path).run _) disk = _
  rw [Script.run_bind, run_load]
  cases loaded path disk with
  | ok objects => rfl
  | error error =>
    cases error with
    | json =>
      dsimp only
      rw [Script.bind_eq, Script.run_bind]
      rfl
    | _ => rfl

/-- What was loaded or recovered is loaded from then on. -/
theorem run_loadOrRecover_again
    (h : Script.run Disk.system (loadOrRecover path).run disk = (.ok objects, after)) :
    Script.run Disk.system (loadOrRecover path).run after = (.ok objects, after) := by
  -- unless a file was restored, the disk is the same, and so is what is read
  by_cases hsame : after = disk
  · rw [hsame] at h ⊢
    exact h
  rw [run_loadOrRecover] at h
  split at h
  · next hjson =>
    rw [run_recover] at h
    split at h
    · next hthere =>
      split at h
      · next found hfound =>
        cases hcopy : disk.copy (backup path) path with
        | error error =>
          rw [hcopy] at h
          cases h
          exact absurd rfl hsame
        | ok copied =>
          rw [hcopy] at h
          cases h
          exact run_loadOrRecover_of_load ((run_load path copied).trans
            (congrArg (·, copied) (loaded_of_copy hjson hthere hfound hcopy)))
      · cases h
        exact absurd rfl hsame
    · cases h
      exact absurd rfl hsame
  · exact absurd (congrArg Prod.snd h).symm hsame

/-- A store that was opened has nothing to write and no watches. -/
theorem eq_of_run_openAt {before : Disk}
    (h : Script.run Disk.system (openAt path).run before = (.ok store, disk)) :
    store = ⟨path, store.table, false, []⟩ := by
  obtain ⟨_, _, -, hrest⟩ := exists_of_run_bind_eq_ok h
  obtain ⟨_, _, -, hdone⟩ := exists_of_run_bind_eq_ok hrest
  cases hdone
  rfl

/-- A store that was opened is opened again with the same table, on a disk that stays as it is. -/
theorem openAt_again {before : Disk}
    (h : Script.run Disk.system (openAt path).run before = (.ok store, disk)) :
    Script.run Disk.system (openAt path).run disk = (.ok store, disk) := by
  obtain ⟨-, -, hhoused⟩ := housed_of_run_openAt h
  obtain ⟨_, housed, -, hrest⟩ := exists_of_run_bind_eq_ok h
  obtain ⟨objects, loaded, hload, hdone⟩ := exists_of_run_bind_eq_ok hrest
  cases hdone
  rw [openAt, run_bind_of_ok hhoused, run_bind_of_ok (run_loadOrRecover_again hload)]
  rfl

/-- The store at a path is opened with a table, on a disk that stays as it is. -/
def Reopens (path : String) (table : Table) (disk : Disk) : Prop :=
  Script.run Disk.system (openAt path).run disk = (.ok ⟨path, table, false, []⟩, disk)

/-- A store that was opened opens again with the same table. -/
theorem reopens_of_run_openAt {before : Disk}
    (h : Script.run Disk.system (openAt path).run before = (.ok store, disk)) :
    Reopens path store.table disk := by
  unfold Reopens
  rw [← eq_of_run_openAt h]
  exact openAt_again h

/-- A store opens with the table whose document is in its file. -/
theorem reopens_of_locate (hkeyed : table.Keyed)
    (h : disk.locate path = .ok (some (.file (Document.write table.toList).toUTF8))) :
    Reopens path table disk :=
  run_openAt_of_holds (housed_of_locate h) (holds_of_locate hkeyed h)

end FileStore

end Reconciler
