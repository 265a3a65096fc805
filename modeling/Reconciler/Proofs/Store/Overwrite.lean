import Reconciler.Proofs.Store.Backup
import Reconciler.Proofs.Store.Faults

/-!
# What a write makes of the backup

A write copies the file over the backup as it finds it, without reading it. So a backup that could
be read is as it was after a write, or it has become a beginning of what the file held, all of it
when the copy does not fail. If somebody has damaged the file in the meantime, the last contents
that could be read are lost to the copy (`hasDocument_backup_iff`).
-/

set_option autoImplicit false

namespace Reconciler

open Files

/-- Whether bytes are the text of a document. -/
def Document.Readable (bytes : ByteArray) : Prop :=
  ∃ text objects, String.fromUTF8? bytes = some text ∧ Document.read? text = some objects

/-- Whether there is something at a path that is loaded as a document. -/
def Disk.HasDocument (path : String) (disk : Disk) : Prop :=
  disk.contains path = true ∧ ∃ objects, FileStore.loaded path disk = .ok objects

namespace Disk

variable {disk after left : Disk} {path source target : String}

/-- A document is at a path exactly when a file is there whose bytes can be read as one. -/
theorem hasDocument_iff :
    disk.HasDocument path ↔
      ∃ bytes, disk.locate path = .ok (some (.file bytes)) ∧ Document.Readable bytes := by
  constructor
  · rintro ⟨hthere, objects, hloaded⟩
    obtain ⟨text, htext, hread⟩ := FileStore.exists_text_of_loaded hthere hloaded
    obtain ⟨bytes, hlocate, hdecoded⟩ := exists_of_readText htext
    exact ⟨bytes, hlocate, text, objects, hdecoded, hread⟩
  · rintro ⟨bytes, hlocate, text, objects, hdecoded, hread⟩
    exact ⟨contains_of_locate hlocate, objects,
      FileStore.loaded_of_text (readText_of_locate hlocate hdecoded) hread⟩

/-- The file at a path is a document exactly when its bytes can be read as one. -/
theorem hasDocument_iff_readable {bytes : ByteArray}
    (h : disk.locate path = .ok (some (.file bytes))) :
    disk.HasDocument path ↔ Document.Readable bytes := by
  rw [hasDocument_iff, h]
  constructor
  · rintro ⟨found, heq, hreadable⟩
    cases heq
    exact hreadable
  · exact fun hreadable => ⟨bytes, rfl, hreadable⟩

/-- A path that is spared has a document afterwards exactly when it had one before. -/
theorem Spares.hasDocument_iff (h : Spares path disk after) :
    after.HasDocument path ↔ disk.HasDocument path := by
  simp only [Disk.hasDocument_iff, h.locate_iff]

/-! ## Actions that may fail -/

/-- An attempted action does nothing, a part, or all of what it does on a disk. -/
theorem Attempted.cases {call : FileCall} {answer : call.Answer}
    (h : disk.Attempted call answer left) :
    left = disk ∨ disk.Partly call left ∨ left = (Disk.system call disk).2 := by
  rcases h with hsystem | ⟨-, hcases⟩
  · exact .inr (.inr (congrArg Prod.snd hsystem).symm)
  · exact hcases

/-- Making a file under another name spares a path, whether or not it works. -/
theorem Attempted.spares_of_create {answer : Except FileError Unit}
    (h : disk.Attempted (.create target) answer left) (hapart : Path.Apart path target) :
    Spares path disk left := by
  rcases h.cases with rfl | hpartly | rfl
  · exact .refl path _
  · cases hpartly
  · exact spares_attempt fun after => spares_writeBytes hapart

/-- Writing on under another name spares a path, whether or not it works. -/
theorem Attempted.spares_of_append {text : String} {answer : Except FileError Unit}
    (h : disk.Attempted (.append target text) answer left) (hapart : Path.Apart path target) :
    Spares path disk left := by
  rcases h.cases with rfl | hpartly | rfl
  · exact .refl path _
  · cases hpartly with
    | append count _ hwrite => exact spares_writeBytes hapart hwrite
  · refine spares_attempt fun after happend => ?_
    obtain ⟨_, -, hwrite⟩ := exists_of_bind_eq_ok happend
    exact spares_writeBytes hapart hwrite

/-- Waiting until a file under another name is written spares a path, whether or not it works. -/
theorem Attempted.spares_of_flush {answer : Except FileError Unit}
    (h : disk.Attempted (.flush target) answer left) (hapart : Path.Apart path target) :
    Spares path disk left := by
  rcases h.cases with rfl | hpartly | rfl
  · exact .refl path _
  · cases hpartly with
    | flush count _ hwrite => exact spares_writeBytes hapart hwrite
  · exact .refl path _

/-- A copy has a file to copy from. -/
theorem locate_of_copy (h : disk.copy source target = .ok after) :
    ∃ bytes, disk.locate source = .ok (some (.file bytes)) := by
  obtain ⟨found, hfound, hcopy⟩ := exists_of_bind_eq_ok h
  split at hcopy
  · cases hcopy
  · cases hcopy
  · exact ⟨_, hfound⟩

/-- A copy to another file that works puts all of the bytes there. -/
theorem exists_bytes_of_copy (hapart : Path.Apart source target)
    (h : disk.copy source target = .ok after) :
    ∃ bytes, disk.locate source = .ok (some (.file bytes)) ∧
      disk.writeBytes target bytes = .ok after := by
  obtain ⟨bytes, hsource⟩ := locate_of_copy h
  exact ⟨bytes, hsource, writeBytes_of_copy hsource (goal_ne_of_apart hapart hsource) h⟩

/-- A copy that may fail leaves the disk alone, or a beginning of the bytes at its target. -/
theorem Attempted.exists_part_of_copy {answer : Except FileError Unit}
    (h : disk.Attempted (.copy source target) answer left) (hapart : Path.Apart source target) :
    left = disk ∨ ∃ bytes count, disk.locate source = .ok (some (.file bytes)) ∧
      disk.writeBytes target (bytes.extract 0 count) = .ok left := by
  rcases h.cases with hsame | hpartly | hall
  · exact .inl hsame
  · cases hpartly with
    | copy count hread hwrite => exact .inr ⟨_, count, readBytes_eq_ok_iff.mp hread, hwrite⟩
  · have hsystem : left = (disk.attempt (disk.copy source target)).2 := hall
    cases hcopy : disk.copy source target with
    | error error =>
      rw [hcopy] at hsystem
      exact .inl hsystem
    | ok after =>
      rw [hcopy] at hsystem
      obtain ⟨bytes, hsource, hwrite⟩ := exists_bytes_of_copy hapart hcopy
      refine .inr ⟨bytes, bytes.size, hsource, ?_⟩
      rw [ByteArray.extract_zero_size, hwrite]
      exact congrArg Except.ok hsystem.symm

/-- Moving a file leaves the files under other names alone, whether or not it works. -/
theorem Attempted.locate_of_rename {bytes : ByteArray} {answer : Except FileError Unit}
    (h : disk.Attempted (.rename source target) answer left) (hsource : Path.Apart path source)
    (htarget : Path.Apart path target) (hthere : disk.locate path = .ok (some (.file bytes))) :
    left.locate path = .ok (some (.file bytes)) := by
  rcases h.cases with rfl | hpartly | hall
  · exact hthere
  · cases hpartly
  · have hsystem : left = (disk.attempt (disk.rename source target)).2 := hall
    cases hrename : disk.rename source target with
    | error error =>
      rw [hrename] at hsystem
      rw [hsystem]
      exact hthere
    | ok after =>
      rw [hrename] at hsystem
      rw [hsystem]
      exact locate_of_rename_of_apart hsource htarget hthere hrename

end Disk

namespace FileStore

variable {φ : Type} {system : FileSystem φ} {disk : φ → Disk} {path text : String}
  {store : FileStore} {files : φ} {former : ByteArray}

/-! ## The backup during a write -/

/-- What is under the name of the backup stays when the new text is moved into place. -/
theorem locate_backup_of_moveIntoPlace (hfallible : Fallible system disk)
    (hbackup : Path.extension? path ≠ some "backup")
    (hthere : (disk files).locate (backup path) = .ok (some (.file former))) :
    (disk ((moveIntoPlace path).run system files).2).locate (backup path) =
      .ok (some (.file former)) := by
  have hrename := hfallible (.rename (temporary path) path) files
  have hrun : ((moveIntoPlace path).run system files).2 =
      (system (.rename (temporary path) path) files).2 := by
    rw [moveIntoPlace, Script.run_ask]
    rcases (system (.rename (temporary path) path) files).1 with _ | _ <;> rfl
  rw [hrun]
  exact hrename.locate_of_rename (backup_apart_temporary path) (apart_backup hbackup).symm hthere

/-- Moving the new text into place is one action. -/
theorem asked_moveIntoPlace (system : FileSystem φ) (files : φ) :
    (moveIntoPlace path).asked system files = [.rename (temporary path) path] := by
  rw [moveIntoPlace, Script.asked]
  rcases (system (.rename (temporary path) path) files).1 with _ | _ <;> rfl

/-- How a write deals with the backup: it never comes to copying the file, or the file is copied at
a moment when both are as before, and the backup stays as the copy left it. -/
inductive Dealt (system : FileSystem φ) (disk : φ → Disk) (path text : String) (files : φ) :
    Prop where
  | spared
      (hasked : .copy path (backup path) ∉ (replace path text).run.asked system files)
      (hspares : ∀ former, (disk files).locate (backup path) = .ok (some (.file former)) →
        (disk (Script.run system (replace path text).run files).2).locate (backup path) =
          .ok (some (.file former)))
  | copied (moment : φ)
      (hasked : (.copy path (backup path), moment) ∈ (replace path text).run.trace system files)
      (hfile : Disk.Spares path (disk files) (disk moment))
      (hbackup : Disk.Spares (backup path) (disk files) (disk moment))
      (hleft : ∀ bytes, (disk (system (.copy path (backup path)) moment).2).locate (backup path) =
          .ok (some (.file bytes)) →
        (disk (Script.run system (replace path text).run files).2).locate (backup path) =
          .ok (some (.file bytes)))

/-- Collecting the new text spares what is under the name of the backup, and the file. -/
structure Collects (path : String) (before after : Disk) : Prop where
  file : Disk.Spares path before after
  backup : Disk.Spares (backup path) before after

/-- Collecting in two parts is collecting. -/
theorem Collects.trans {before between after : Disk} (hfirst : Collects path before between)
    (hsecond : Collects path between after) : Collects path before after :=
  ⟨hfirst.file.trans hsecond.file, hfirst.backup.trans hsecond.backup⟩

/-- Making the temporary file belongs to collecting the new text. -/
theorem collects_create (hfallible : Fallible system disk)
    (htemporary : Path.extension? path ≠ some "tmp") (files : φ) :
    Collects path (disk files) (disk (system (.create (temporary path)) files).2) :=
  ⟨(hfallible _ files).spares_of_create (apart_temporary htemporary),
    (hfallible _ files).spares_of_create (backup_apart_temporary path)⟩

/-- Adding to the temporary file belongs to collecting the new text. -/
theorem collects_append (hfallible : Fallible system disk)
    (htemporary : Path.extension? path ≠ some "tmp") (text : String) (files : φ) :
    Collects path (disk files) (disk (system (.append (temporary path) text) files).2) :=
  ⟨(hfallible _ files).spares_of_append (apart_temporary htemporary),
    (hfallible _ files).spares_of_append (backup_apart_temporary path)⟩

/-- Flushing the temporary file belongs to collecting the new text. -/
theorem collects_flush (hfallible : Fallible system disk)
    (htemporary : Path.extension? path ≠ some "tmp") (files : φ) :
    Collects path (disk files) (disk (system (.flush (temporary path)) files).2) :=
  ⟨(hfallible _ files).spares_of_flush (apart_temporary htemporary),
    (hfallible _ files).spares_of_flush (backup_apart_temporary path)⟩

/-- Every write deals with the backup in one of the two ways, whichever of its actions fail. -/
theorem dealt (hfallible : Fallible system disk) (htemporary : Path.extension? path ≠ some "tmp")
    (hbackup : Path.extension? path ≠ some "backup") (text : String) (files : φ) :
    Dealt system disk path text files := by
  -- along the actions of the write: up to the copy, each one that fails ends it with both files
  -- as they were
  have hcreated := collects_create hfallible htemporary files
  rcases hcreate : system (.create (temporary path)) files with ⟨error | _, created⟩ <;>
    rw [hcreate] at hcreated
  · refine .spared ?_ fun former hformer => ?_
    · rw [replace_eq, Script.asked, hcreate]
      simp [check, Script.asked]
    · rw [replace_eq, Script.run_ask, hcreate]
      exact hcreated.backup.locate_iff.mpr hformer
  have hcollected := hcreated.trans (collects_append hfallible htemporary text created)
  rcases happend : system (.append (temporary path) text) created with ⟨error | _, collected⟩ <;>
    rw [happend] at hcollected
  · refine .spared ?_ fun former hformer => ?_
    · rw [replace_eq, Script.asked, hcreate]
      simp [check, Script.asked, happend]
    · rw [replace_eq, Script.run_ask, hcreate]
      simp only [check, Script.run_ask, happend]
      exact hcollected.backup.locate_iff.mpr hformer
  have hflushed := hcollected.trans (collects_flush hfallible htemporary collected)
  rcases hflush : system (.flush (temporary path)) collected with ⟨error | _, flushed⟩ <;>
    rw [hflush] at hflushed
  · refine .spared ?_ fun former hformer => ?_
    · rw [replace_eq, Script.asked, hcreate]
      simp [check, Script.asked, happend, hflush]
    · rw [replace_eq, Script.run_ask, hcreate]
      simp only [check, Script.run_ask, happend, hflush]
      exact hflushed.backup.locate_iff.mpr hformer
  have hlooked := (hfallible (.exists path) flushed).eq_of_succeeded trivial
  rcases hlook : system (.exists path) flushed with ⟨there, seen⟩
  rw [hlook] at hlooked
  have hseen : disk flushed = disk seen := congrArg Prod.snd hlooked
  rw [hseen] at hflushed
  cases there with
  | false =>
    refine .spared ?_ fun former hformer => ?_
    · rw [replace_eq, Script.asked, hcreate]
      simp [check, Script.asked, happend, hflush, hlook, asked_moveIntoPlace]
    · rw [replace_eq, Script.run_ask, hcreate]
      simp only [check, Script.run_ask, happend, hflush, hlook, if_neg Bool.false_ne_true]
      exact locate_backup_of_moveIntoPlace hfallible hbackup
        (hflushed.backup.locate_iff.mpr hformer)
  | true =>
    refine .copied seen ?_ hflushed.file hflushed.backup fun bytes hbytes => ?_
    · rw [replace_eq, Script.trace_ask, hcreate]
      simp [check, Script.trace_ask, happend, hflush, hlook]
    · rw [replace_eq, Script.run_ask, hcreate]
      simp only [check, Script.run_ask, happend, hflush, hlook, if_pos]
      exact locate_backup_of_moveIntoPlace hfallible hbackup hbytes

/-! ## The backup after a write -/

/-- What is under the name of the backup after a write was there before, or is a beginning of the
file. -/
theorem Dealt.exists_part (h : Dealt system disk path text files)
    (hfallible : Fallible system disk) (hbackup : Path.extension? path ≠ some "backup")
    (hformer : (disk files).locate (backup path) = .ok (some (.file former))) :
    (disk (Script.run system (replace path text).run files).2).locate (backup path) =
        .ok (some (.file former)) ∨
      ∃ bytes count, (disk files).locate path = .ok (some (.file bytes)) ∧
        (disk (Script.run system (replace path text).run files).2).locate (backup path) =
          .ok (some (.file (bytes.extract 0 count))) := by
  cases h with
  | spared _ hspares => exact .inl (hspares former hformer)
  | copied moment _ hfile hkept hleft =>
    rcases (hfallible (.copy path (backup path)) moment).exists_part_of_copy
      (apart_backup hbackup) with hsame | ⟨bytes, count, hbytes, hwrite⟩
    · refine .inl (hleft former ?_)
      rw [hsame]
      exact hkept.locate_iff.mpr hformer
    · exact .inr ⟨bytes, count, hfile.locate_iff.mp hbytes,
        hleft _ (Disk.locate_of_writeBytes hwrite)⟩

/-- A copy that does not fail makes the backup readable exactly when the file was. -/
theorem hasDocument_of_copied {moment : φ} (hfallible : Fallible system disk)
    (hbackup : Path.extension? path ≠ some "backup")
    (hcopied : (system (.copy path (backup path)) moment).1 = .ok ())
    (hfile : Disk.Spares path (disk files) (disk moment)) {left : Disk}
    (hleft : ∀ bytes, (disk (system (.copy path (backup path)) moment).2).locate (backup path) =
      .ok (some (.file bytes)) → left.locate (backup path) = .ok (some (.file bytes))) :
    left.HasDocument (backup path) ↔ (disk files).HasDocument path := by
  have hsystem := (hfallible (.copy path (backup path)) moment).eq_of_succeeded hcopied
  rw [hcopied] at hsystem
  obtain ⟨bytes, hbytes, hwrite⟩ :=
    Disk.exists_bytes_of_copy (apart_backup hbackup) (Disk.eq_ok_of_attempt hsystem)
  rw [Disk.hasDocument_iff_readable (hleft bytes (Disk.locate_of_writeBytes hwrite)),
    ← Disk.hasDocument_iff_readable hbytes, hfile.hasDocument_iff]

/-- Saving a store leaves the files as writing its document does. -/
theorem files_run_save (system : FileSystem φ) (store : FileStore) (files : φ) :
    (store.save.run system files).2 =
      (Script.run system
        (replace store.path (Document.write store.table.toList)).run files).2 := by
  rw [save, Script.bind_eq, Script.run_bind]
  split <;> rfl

/-- A write that may fail at any action, over a backup that could be read. Afterwards the backup can
still be read, or it is a beginning of what the file held. When no copy fails, the backup can be
read exactly if the write did not come to copying the file, or the file could be read. -/
theorem hasDocument_backup_iff (hfallible : Fallible system disk) (store : FileStore) (files : φ)
    (htemporary : Path.extension? store.path ≠ some "tmp")
    (hbackup : Path.extension? store.path ≠ some "backup")
    (hgood : (disk files).HasDocument (backup store.path)) :
    ((disk (store.save.run system files).2).HasDocument (backup store.path) ∨
      ∃ bytes count, (disk files).locate store.path = .ok (some (.file bytes)) ∧
        (disk (store.save.run system files).2).locate (backup store.path) =
          .ok (some (.file (bytes.extract 0 count)))) ∧
    ((∀ moment,
        (.copy store.path (backup store.path), moment) ∈ store.save.trace system files →
          (system (.copy store.path (backup store.path)) moment).1 = .ok ()) →
      ((disk (store.save.run system files).2).HasDocument (backup store.path) ↔
        .copy store.path (backup store.path) ∉ store.save.asked system files ∨
          (disk files).HasDocument store.path)) := by
  obtain ⟨former, hformer, hreadable⟩ := Disk.hasDocument_iff.mp hgood
  have hdealt := dealt hfallible htemporary hbackup (Document.write store.table.toList) files
  rw [trace_save, asked_save, files_run_save]
  refine ⟨?_, fun hcopies => ?_⟩
  · rcases hdealt.exists_part hfallible hbackup hformer with hsame | hpart
    · exact .inl ((Disk.hasDocument_iff_readable hsame).mpr hreadable)
    · exact .inr hpart
  · cases hdealt with
    | spared hasked hspares =>
      exact iff_of_true ((Disk.hasDocument_iff_readable (hspares former hformer)).mpr hreadable)
        (.inl hasked)
    | copied moment hasked hfile _ hleft =>
      have hmem := List.mem_map_of_mem (f := Prod.fst) hasked
      rw [Script.map_fst_trace] at hmem
      rw [hasDocument_of_copied hfallible hbackup (hcopies moment hasked) hfile hleft,
        or_iff_right (not_not_intro hmem)]

/-! ### A file that was damaged while the store was open -/

/-- A disk on which nothing is left of a store's file but its first character, beside a backup. -/
def damagedFile (former : String) : Disk :=
  (Disk.empty.put ["objects.json"] (.file "\x7b".toUTF8)).put ["objects.backup"]
    (.file former.toUTF8)

/-- A written table is a document. -/
theorem hasDocument_of_write {table : Table} {left : Disk} (h : At path table left) :
    left.HasDocument path :=
  ⟨Disk.contains_of_locate h, _,
    loaded_of_text (Disk.readText_of_file h) (Document.read?_write table.toList)⟩

/-- What is left of the damaged file is no document. -/
theorem not_hasDocument_damagedFile (former : String) :
    ¬ (damagedFile former).HasDocument "objects.json" := by
  rintro ⟨-, objects, hloaded⟩
  have hdamaged : Document.read? "\x7b" = none := rfl
  have htext : (damagedFile former).readText "objects.json" = .ok "\x7b" := rfl
  obtain ⟨text, hfound, hread⟩ := exists_text_of_loaded rfl hloaded
  rw [htext] at hfound
  cases hfound
  rw [hdamaged] at hread
  cases hread

/-- The backup of `objects.json` is `objects.backup`. -/
theorem backup_objects : backup "objects.json" = "objects.backup" := rfl

/-- A write on the disk with the damaged file copies that file over the backup. -/
theorem copy_mem_asked_damagedFile (former text : String) :
    .copy "objects.json" (backup "objects.json") ∈
      (replace "objects.json" text).run.asked Disk.system (damagedFile former) := by
  rw [replace_eq]
  refine List.mem_cons_of_mem _ (List.mem_cons_of_mem _ ?_)
  exact List.mem_cons_of_mem _ (List.mem_cons_of_mem _ List.mem_cons_self)

/-- A second group is declared after the file was damaged. The table is written, no action fails,
and the backup that held the first group cannot be read any more. -/
theorem hasDocument_backup_iff_damagedFile :
    let declared := Table.empty.applied "private" keptGroup
    let store : FileStore := ⟨"objects.json", declared.applied "public" laterGroup, true, []⟩
    let disk := damagedFile (Document.write declared.toList)
    disk.HasDocument "objects.backup" ∧ Succeeds Disk.system store.save disk ∧
      ¬ (store.save.run Disk.system disk).2.HasDocument "objects.backup" := by
  intro declared store disk
  rw [← backup_objects]
  have hgood : disk.HasDocument (backup "objects.json") := by
    rw [backup_objects]
    exact hasDocument_of_write (show At "objects.backup" declared disk from rfl)
  have hreplace : Succeeds Disk.system (replace "objects.json"
      (Document.write store.table.toList)).run disk :=
    succeeds_replace (Disk.free_of_writeBytes rfl) (Disk.free_of_writeBytes rfl)
      (Disk.free_of_writeBytes rfl) _
  have hsucceeds : Succeeds Disk.system store.save disk := by
    rw [← commit_unit]
    exact succeeds_commit_iff.mpr hreplace
  have hfallible : Fallible Disk.system id := fun _ _ => .inl rfl
  obtain ⟨-, hkept⟩ := hasDocument_backup_iff hfallible store disk (by decide) (by decide) hgood
  refine ⟨hgood, hsucceeds, fun hleft => ?_⟩
  rcases (hkept fun moment hmoment => hsucceeds _ hmoment).mp hleft with hasked | hfile
  · refine hasked ?_
    rw [asked_save]
    exact copy_mem_asked_damagedFile _ _
  · exact not_hasDocument_damagedFile _ hfile

end FileStore

end Reconciler
