import Reconciler.Proofs.Store.Document
import Reconciler.Proofs.Store.Keyed
import Reconciler.Proofs.Store.Write

/-!
# Opening a store in a file again

A store is opened with the table that is on the disk at its path (`run_openAt_of_holds`). What a
store has kept there is the document of its table, or nothing for the empty table (`Kept`): opening
it again reads the table back (`run_openAt_of_kept`), and the directory that opening may have to
make changes nothing of it.
-/

set_option autoImplicit false

namespace Reconciler

open Files

namespace FileStore

variable {path : String} {table : Table} {disk : Disk}

/-! ## The directory of the store -/

/-- Makes a directory unless something is there. -/
def makeMissing (directory : String) (refusal : FileError → Error) : Files (Except Error Unit) :=
  .ask (.exists directory) fun there =>
    if there then .done (.ok ())
    else .ask (.makeDirectories directory) fun made => check made refusal (.done (.ok ()))

/-- Nothing is made where something is. -/
theorem run_makeMissing_of_contains {directory : String} (refusal : FileError → Error)
    (h : disk.contains directory = true) :
    (makeMissing directory refusal).run Disk.system disk = (.ok (), disk) := by
  show Script.run Disk.system (if disk.contains directory then _ else _) disk = _
  rw [h]
  rfl

/-- Where nothing is, the directories are made and the answer is checked. -/
theorem run_makeMissing_of_missing {directory : String} (refusal : FileError → Error)
    (h : disk.contains directory = false) :
    (makeMissing directory refusal).run Disk.system disk =
      Script.run Disk.system (check (disk.makeDirectories directory).1 refusal (.done (.ok ())))
        (disk.makeDirectories directory).2 := by
  show Script.run Disk.system (if disk.contains directory then _ else _) disk = _
  rw [h]
  rfl

/-- A missing directory that was seen to was made. -/
theorem makeDirectories_of_run_makeMissing {directory : String} {refusal : FileError → Error}
    {after : Disk} (hmissing : disk.contains directory = false)
    (h : (makeMissing directory refusal).run Disk.system disk = (.ok (), after)) :
    disk.makeDirectories directory = (.ok (), after) := by
  rw [run_makeMissing_of_missing refusal hmissing] at h
  rcases hmade : disk.makeDirectories directory with ⟨error | _, made⟩
  · rw [hmade] at h
    cases h
  · rw [hmade] at h
    cases h
    rfl

/-- A directory that was made unless something was there is not made again. -/
theorem run_makeMissing_of_ok {directory : String} {refusal : FileError → Error} {after : Disk}
    (h : (makeMissing directory refusal).run Disk.system disk = (.ok (), after)) :
    disk.Extends after ∧
      (makeMissing directory refusal).run Disk.system after = (.ok (), after) := by
  cases hthere : disk.contains directory with
  | true =>
    have hrun := run_makeMissing_of_contains refusal hthere
    obtain rfl : disk = after := congrArg Prod.snd (hrun.symm.trans h)
    exact ⟨.refl disk, hrun⟩
  | false =>
    have hmade := makeDirectories_of_run_makeMissing hthere h
    have hextends := Disk.makeDirectories_extends disk directory
    rw [hmade] at hextends
    refine ⟨hextends, ?_⟩
    rcases Disk.contains_of_makeDirectories (congrArg Prod.fst hmade) with hnothing | hnow
    · obtain rfl : disk = after := congrArg Prod.snd ((hnothing disk).symm.trans hmade)
      exact h
    · rw [hmade] at hnow
      exact run_makeMissing_of_contains refusal hnow

/-- There is nothing to make on a disk on which nothing has gone. -/
theorem run_makeMissing_of_imp {directory : String} {refusal : FileError → Error} {after : Disk}
    (hstays : disk.contains directory = true → after.contains directory = true)
    (h : (makeMissing directory refusal).run Disk.system disk = (.ok (), disk)) :
    (makeMissing directory refusal).run Disk.system after = (.ok (), after) := by
  cases hnow : after.contains directory with
  | true => exact run_makeMissing_of_contains refusal hnow
  | false =>
    have hmissing : disk.contains directory = false :=
      Bool.eq_false_iff.mpr fun hthere => by
        rw [hstays hthere] at hnow
        cases hnow
    have hmade := makeDirectories_of_run_makeMissing hmissing h
    rcases Disk.contains_of_makeDirectories (congrArg Prod.fst hmade) with hnothing | hthere
    · rw [run_makeMissing_of_missing refusal hnow, hnothing]
      rfl
    · rw [hmade, hmissing] at hthere
      cases hthere

/-- When no action fails, a directory is seen to. -/
theorem run_makeMissing_of_succeeds {directory : String} {refusal : FileError → Error}
    (h : Succeeds Disk.system (makeMissing directory refusal) disk) :
    ∃ after, (makeMissing directory refusal).run Disk.system disk = (.ok (), after) := by
  cases hthere : disk.contains directory with
  | true => exact ⟨disk, run_makeMissing_of_contains refusal hthere⟩
  | false =>
    have hmake : Succeeds Disk.system (if disk.contains directory then .done (.ok ()) else
        .ask (.makeDirectories directory) fun made => check made refusal (.done (.ok ()))) disk :=
      (succeeds_ask_iff.mp h).2
    rw [hthere, if_neg Bool.false_ne_true] at hmake
    have hmade : (disk.makeDirectories directory).1 = .ok () := (succeeds_ask_iff.mp hmake).1
    refine ⟨(disk.makeDirectories directory).2, ?_⟩
    rw [run_makeMissing_of_missing refusal hthere, hmade]
    rfl

/-- The directory of the store is made: opening the store does not change the disk. -/
def Housed (path : String) (disk : Disk) : Prop :=
  Script.run Disk.system (makeParent path).run disk = (.ok (), disk)

/-- The directory of the store is there once it was made. -/
theorem run_makeParent_of_ok {after : Disk}
    (h : Script.run Disk.system (makeParent path).run disk = (.ok (), after)) :
    disk.Extends after ∧ Housed path after := by
  unfold Housed
  rw [makeParent_eq] at h ⊢
  cases hparent : Path.parent? path with
  | none =>
    rw [hparent] at h
    cases h
    exact ⟨.refl disk, rfl⟩
  | some parent =>
    rw [hparent] at h
    dsimp only at h ⊢
    by_cases hempty : parent = ""
    · rw [if_pos hempty] at h ⊢
      cases h
      exact ⟨.refl disk, rfl⟩
    · rw [if_neg hempty] at h ⊢
      exact run_makeMissing_of_ok h

/-- When no action fails, the directory of a store is made and everything else stays. -/
theorem run_makeParent_of_succeeds (h : Succeeds Disk.system (makeParent path).run disk) :
    ∃ after, Script.run Disk.system (makeParent path).run disk = (.ok (), after) ∧
      disk.Extends after ∧ Housed path after := by
  suffices hrun : ∃ after, Script.run Disk.system (makeParent path).run disk = (.ok (), after) by
    obtain ⟨after, hrun⟩ := hrun
    exact ⟨after, hrun, run_makeParent_of_ok hrun⟩
  rw [makeParent_eq] at h ⊢
  cases hparent : Path.parent? path with
  | none => exact ⟨disk, rfl⟩
  | some parent =>
    rw [hparent] at h
    dsimp only at h ⊢
    split
    · exact ⟨disk, rfl⟩
    · next hparent =>
      rw [if_neg hparent] at h
      exact run_makeMissing_of_succeeds h

/-- The directory of the store is still there on a disk on which nothing has gone. -/
theorem Housed.of_imp {after : Disk} (h : Housed path disk)
    (hstays : ∀ up, disk.contains up = true → after.contains up = true) : Housed path after := by
  unfold Housed at h ⊢
  rw [makeParent_eq] at h ⊢
  cases hparent : Path.parent? path with
  | none => rfl
  | some parent =>
    rw [hparent] at h
    dsimp only at h ⊢
    by_cases hempty : parent = ""
    · rw [if_pos hempty]
      rfl
    · rw [if_neg hempty] at h ⊢
      exact run_makeMissing_of_imp (hstays parent) h

/-! ## What is on the disk -/

/-- The table that is on the disk at a path: the empty one when there is nothing, or the one that
the text of the file tells. -/
def Holds (path : String) (table : Table) (disk : Disk) : Prop :=
  (table = .empty ∧ disk.contains path = false) ∨
    ∃ text objects, disk.readText path = .ok text ∧ Document.read? text = some objects ∧
      table = .ofList objects

/-- A table is held at a path when its document is in the file there. -/
theorem holds_of_locate (hkeyed : table.Keyed)
    (h : disk.locate path = .ok (some (.file (Document.write table.toList).toUTF8))) :
    Holds path table disk :=
  .inr ⟨_, _, Disk.readText_of_file h, Document.read?_write _, (Table.ofList_toList hkeyed).symm⟩

/-- A table that is held at a path is loaded from it, and the disk stays as it is. -/
theorem run_load_of_holds (h : Holds path table disk) :
    ∃ objects, Script.run Disk.system (load path).run disk = (.ok objects, disk) ∧
      table = .ofList objects := by
  rw [load_eq, Script.run_ask]
  show ∃ objects, Script.run Disk.system (if disk.contains path then _ else _) disk = _ ∧ _
  rcases h with ⟨rfl, habsent⟩ | ⟨text, objects, hread, hobjects, htable⟩
  · rw [habsent, if_neg Bool.false_ne_true]
    exact ⟨[], rfl, rfl⟩
  · obtain ⟨bytes, hbytes, -⟩ := Disk.exists_of_readText hread
    rw [Disk.contains_of_locate hbytes, if_pos rfl, Script.run_ask]
    have htext : Disk.system (.readText path) disk = (.ok text, disk) := congrArg (·, disk) hread
    rw [htext]
    refine ⟨objects, ?_, htable⟩
    simp only [hobjects, Script.run_done]

/-- Nothing is recovered where loading works. -/
theorem run_loadOrRecover_of_load {objects : List Declaration}
    (h : Script.run Disk.system (load path).run disk = (.ok objects, disk)) :
    Script.run Disk.system (loadOrRecover path).run disk = (.ok objects, disk) := by
  show Script.run Disk.system (Script.bind (load path).run _) disk = _
  rw [Script.run_bind, h]
  rfl

/-- Once its directory is made, a store is opened with the table that is on the disk. -/
theorem run_openAt_of_holds {housed : Disk}
    (hparent : Script.run Disk.system (makeParent path).run disk = (.ok (), housed))
    (hholds : Holds path table housed) :
    Script.run Disk.system (openAt path).run disk = (.ok ⟨path, table, false, []⟩, housed) := by
  obtain ⟨objects, hload, rfl⟩ := run_load_of_holds hholds
  rw [openAt, run_bind_of_ok hparent, run_bind_of_ok (run_loadOrRecover_of_load hload)]
  rfl

/-- A table is kept at a path: its document is the text of the file, or there is no file, also not
when the store is opened, and the table is empty. -/
def Kept (path : String) (table : Table) (disk : Disk) : Prop :=
  disk.locate path = .ok (some (.file (Document.write table.toList).toUTF8)) ∨
    table = .empty ∧ disk.isFile path = false ∧ Housed path disk

/-- When loading does not fail, what is kept is what is on the disk. -/
theorem Kept.holds (hkept : Kept path table disk) (hkeyed : table.Keyed)
    (h : Succeeds Disk.system (load path).run disk) : Holds path table disk := by
  rcases hkept with hlocate | ⟨rfl, hfile, -⟩
  · exact holds_of_locate hkeyed hlocate
  · refine .inl ⟨rfl, ?_⟩
    rw [load_eq] at h
    have hread : Succeeds Disk.system (if disk.contains path then _ else _) disk :=
      (succeeds_ask_iff.mp h).2
    cases hthere : disk.contains path with
    | false => rfl
    | true =>
      rw [hthere, if_pos rfl] at hread
      obtain ⟨text, htext⟩ : ∃ text, disk.readText path = .ok text := (succeeds_ask_iff.mp hread).1
      rw [Disk.isFile_of_readText htext] at hfile
      cases hfile

/-- Opening the store gives the table that is kept once its directory is made. -/
theorem run_openAt_of_makeParent {housed : Disk} (hkeyed : table.Keyed)
    (h : Succeeds Disk.system (openAt path).run disk)
    (hparent : Script.run Disk.system (makeParent path).run disk = (.ok (), housed))
    (hkept : Kept path table housed) :
    Script.run Disk.system (openAt path).run disk = (.ok ⟨path, table, false, []⟩, housed) :=
  run_openAt_of_holds hparent
    (hkept.holds hkeyed (succeeds_bind_iff.mp (h.next hparent).first).1)

/-- Opening the store again gives the table that was kept. -/
theorem run_openAt_of_kept (hkeyed : table.Keyed) (hkept : Kept path table disk)
    (h : Succeeds Disk.system (openAt path).run disk) :
    ∃ after, Script.run Disk.system (openAt path).run disk = (.ok ⟨path, table, false, []⟩, after) ∧
      Kept path table after := by
  obtain ⟨housed, hparent, hextends, hhoused⟩ := run_makeParent_of_succeeds h.first
  have hstill : Kept path table housed := by
    rcases hkept with hlocate | ⟨htable, hfile, hdone⟩
    · exact .inl (Disk.locate_of_extends hextends hlocate)
    · obtain rfl : disk = housed := congrArg Prod.snd (hdone.symm.trans hparent)
      exact .inr ⟨htable, hfile, hhoused⟩
  exact ⟨housed, run_openAt_of_makeParent hkeyed h hparent hstill, hstill⟩

end FileStore

end Reconciler
