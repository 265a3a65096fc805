import Reconciler.Proofs.Store.Files
import Reconciler.Proofs.Store.Stop
import Reconciler.Proofs.Store.Succeeds

/-!
# Writing on a disk on which every action works

When no action of a run fails, a text that is written through is the text that is read afterwards
(`run_replace_of_succeeds`): the temporary file holds it, the backup is another file, and the
temporary file takes the place of the kept one.
-/

set_option autoImplicit false

namespace Reconciler

open Files

namespace FileStore

variable {path text : String} {disk : Disk}

/-- The backup and the temporary file have different names. -/
theorem backup_apart_temporary (path : String) : Path.Apart (backup path) (temporary path) := by
  intro backupName temporaryName hbackup htemporary
  rcases Path.withExtension_cases path with ⟨stem, hstem⟩ | ⟨hsame, hnone⟩
  · rw [temporary, hstem "tmp" (by decide) (by decide)] at htemporary
    rw [backup, hstem "backup" (by decide) (by decide)] at hbackup
    cases htemporary
    cases hbackup
    simp
  · rw [temporary, hsame] at htemporary
    exact absurd htemporary (hnone temporaryName)

/-- Whatever is written to the backup, the new text stays where it is collected. -/
theorem locate_temporary_of_writeBytes {bytes former : ByteArray} {after : Disk}
    (hcollected : disk.locate (temporary path) = .ok (some (.file bytes)))
    (hwrite : disk.writeBytes (backup path) former = .ok after) :
    after.locate (temporary path) = .ok (some (.file bytes)) :=
  (Disk.spares_writeBytes (backup_apart_temporary path).symm hwrite).locate_iff.mpr hcollected

/-- Keeping the former text as the backup leaves the new text where it is collected. -/
theorem locate_temporary_of_copy {bytes : ByteArray} {after : Disk}
    (hcollected : disk.locate (temporary path) = .ok (some (.file bytes)))
    (hcopy : disk.copy path (backup path) = .ok after) :
    after.locate (temporary path) = .ok (some (.file bytes)) := by
  obtain ⟨copied, hwrite⟩ := Disk.copy_of_ok hcopy
  exact locate_temporary_of_writeBytes hcollected hwrite

/-- When no action fails, the collected text comes to be at the path. -/
theorem run_moveIntoPlace_of_succeeds {bytes : ByteArray}
    (hcollected : disk.locate (temporary path) = .ok (some (.file bytes)))
    (h : Succeeds Disk.system (moveIntoPlace path) disk) :
    ∃ after, (moveIntoPlace path).run Disk.system disk = (.ok (), after) ∧
      after.locate path = .ok (some (.file bytes)) := by
  obtain ⟨hrename, -⟩ := succeeds_ask_iff.mp h
  obtain ⟨after, hafter, hattempt⟩ := Disk.attempt_of_ok hrename
  have hrun : Disk.system (.rename (temporary path) path) disk = (.ok (), after) := hattempt
  refine ⟨after, ?_, Disk.locate_of_rename hcollected hafter⟩
  rw [moveIntoPlace, Script.run_ask, hrun]
  rfl

/-- A text that is written through is the text of the file afterwards. -/
theorem run_replace_of_succeeds (h : Succeeds Disk.system (replace path text).run disk) :
    ∃ after, Script.run Disk.system (replace path text).run disk = (.ok (), after) ∧
      after.locate path = .ok (some (.file text.toUTF8)) := by
  rw [replace_eq] at h ⊢
  obtain ⟨hcreate, h⟩ := succeeds_ask_iff.mp h
  obtain ⟨created, hcreated, hattempt⟩ := Disk.attempt_of_ok hcreate
  have hcreateRun : Disk.system (.create (temporary path)) disk = (.ok (), created) := hattempt
  rw [hcreateRun] at h
  obtain ⟨happend, h⟩ := succeeds_ask_iff.mp h
  obtain ⟨collected, happended, hattempt⟩ := Disk.attempt_of_ok happend
  have happendRun : Disk.system (.append (temporary path) text) created = (.ok (), collected) :=
    hattempt
  rw [happendRun] at h
  have hcollected := Disk.locate_of_append (Disk.locate_of_writeBytes hcreated) happended
  rw [Script.run_ask, hcreateRun]
  simp only [check] at h ⊢
  rw [Script.run_ask, happendRun]
  -- the flush and the look at the file leave the disk as it is
  replace h : Succeeds Disk.system (if collected.contains path then
      .ask (.copy path (backup path)) fun _ => moveIntoPlace path else moveIntoPlace path)
        collected := (succeeds_ask_iff.mp (succeeds_ask_iff.mp h).2).2
  show ∃ after, Script.run Disk.system (if collected.contains path then _ else _) collected = _ ∧ _
  cases hthere : collected.contains path with
  | false =>
    rw [hthere, if_neg Bool.false_ne_true] at h
    rw [if_neg Bool.false_ne_true]
    exact run_moveIntoPlace_of_succeeds hcollected h
  | true =>
    rw [hthere, if_pos rfl] at h
    rw [if_pos rfl]
    obtain ⟨hcopy, h⟩ := succeeds_ask_iff.mp h
    obtain ⟨kept, hkept, hattempt⟩ := Disk.attempt_of_ok hcopy
    have hcopyRun : Disk.system (.copy path (backup path)) collected = (.ok (), kept) := hattempt
    rw [hcopyRun] at h
    rw [Script.run_ask, hcopyRun]
    exact run_moveIntoPlace_of_succeeds (locate_temporary_of_copy hcollected hkept) h

/-- No action of moving a collected text to a free path fails. -/
theorem succeeds_moveIntoPlace {bytes : ByteArray} (hfree : disk.Free path)
    (hcollected : disk.locate (temporary path) = .ok (some (.file bytes))) :
    Succeeds Disk.system (moveIntoPlace path) disk := by
  obtain ⟨after, hrename⟩ := hfree.exists_rename hcollected
  have hrun : Disk.system (.rename (temporary path) path) disk = (.ok (), after) :=
    Disk.attempt_of_eq_ok hrename
  refine succeeds_ask_iff.mpr ⟨congrArg Prod.fst hrun, ?_⟩
  rw [hrun]
  exact succeeds_done _

/-- No action of a write fails when a file can be put at the path and under the names of its
temporary file and its backup. -/
theorem succeeds_replace (hfree : disk.Free path) (htemporary : disk.Free (temporary path))
    (hbackup : disk.Free (backup path)) (text : String) :
    Succeeds Disk.system (replace path text).run disk := by
  obtain ⟨created, hcreated⟩ := htemporary.exists_writeBytes .empty
  have hempty := Disk.locate_of_writeBytes hcreated
  obtain ⟨collected, hwritten⟩ :=
    (Disk.free_of_locate hempty).exists_writeBytes (.empty ++ text.toUTF8)
  have hthere := Disk.locate_of_writeBytes hwritten
  have hcreateRun : Disk.system (.create (temporary path)) disk = (.ok (), created) :=
    Disk.attempt_of_eq_ok hcreated
  have happendRun : Disk.system (.append (temporary path) text) created = (.ok (), collected) := by
    refine Disk.attempt_of_eq_ok ?_
    rw [Disk.readBytes_eq_ok_iff.mpr hempty]
    exact hwritten
  have hrefills := (Disk.refills_writeBytes hcreated).trans (Disk.refills_writeBytes hwritten)
  -- action by action; the other two paths stay free, because files are written anew at most
  rw [replace_eq]
  refine succeeds_ask_iff.mpr ⟨congrArg Prod.fst hcreateRun, ?_⟩
  rw [hcreateRun]
  refine succeeds_ask_iff.mpr ⟨congrArg Prod.fst happendRun, ?_⟩
  rw [happendRun]
  refine succeeds_ask_iff.mpr ⟨rfl, succeeds_ask_iff.mpr ⟨trivial, ?_⟩⟩
  show Succeeds Disk.system (if collected.contains path then _ else _) collected
  cases hcontains : collected.contains path with
  | false => exact succeeds_moveIntoPlace (hfree.of_refills hrefills) hthere
  | true =>
    obtain ⟨former, hformer⟩ := (hfree.of_refills hrefills).exists_bytes hcontains
    obtain ⟨kept, hcopy⟩ := (hbackup.of_refills hrefills).exists_copy hformer
    have hcopyRun : Disk.system (.copy path (backup path)) collected = (.ok (), kept) :=
      Disk.attempt_of_eq_ok hcopy
    obtain ⟨_, hkept⟩ := Disk.copy_of_ok hcopy
    refine succeeds_ask_iff.mpr ⟨congrArg Prod.fst hcopyRun, ?_⟩
    rw [hcopyRun]
    exact succeeds_moveIntoPlace
      ((hfree.of_refills hrefills).of_refills (Disk.refills_writeBytes hkept))
      (locate_temporary_of_copy hthere hcopy)

end FileStore

end Reconciler
