import Reconciler.Proofs.Store.Directories

/-!
# Stops

A process can stop at any point of a computation on files: before an action, after it, or within an
action that writes bytes one after the other (`Stops`). What a disk holds away from the files that
were being written is not touched by that (`Spares`).
-/

set_option autoImplicit false

namespace Reconciler

/-- The disks that an action of a write leaves when the process stops within it: some bytes are
there and others are not yet. What was added to a file may come to be there as late as the flush.
Making an empty file and moving a file are done at once. -/
inductive Disk.Partly (disk : Disk) : FileCall → Disk → Prop where
  | append {path text : String} {former : ByteArray} {left : Disk} (count : Nat)
      (hread : disk.readBytes path = .ok former)
      (hwrite : disk.writeBytes path (former ++ text.toUTF8.extract 0 count) = .ok left) :
      Partly disk (.append path text) left
  | flush {path : String} {bytes : ByteArray} {left : Disk} (count : Nat)
      (hread : disk.readBytes path = .ok bytes)
      (hwrite : disk.writeBytes path (bytes.extract 0 count) = .ok left) :
      Partly disk (.flush path) left
  | copy {source target : String} {bytes : ByteArray} {left : Disk} (count : Nat)
      (hread : disk.readBytes source = .ok bytes)
      (hwrite : disk.writeBytes target (bytes.extract 0 count) = .ok left) :
      Partly disk (.copy source target) left

/-- The disks that a process leaves when it stops during a computation, or after it. -/
inductive Files.Stops {α : Type} : Files α → Disk → Disk → Prop where
  | here (script : Files α) (disk : Disk) : Stops script disk disk
  | within {call : FileCall} {next : call.Answer → Files α} {disk left : Disk}
      (h : disk.Partly call left) : Stops (.ask call next) disk left
  | later {call : FileCall} {next : call.Answer → Files α} {disk left : Disk}
      (h : Stops (next (Disk.system call disk).1) (Disk.system call disk).2 left) :
      Stops (.ask call next) disk left

namespace Files

variable {α β : Type} {disk left : Disk}

/-- A process may stop after everything was done. -/
theorem stops_run (script : Files α) (disk : Disk) :
    Stops script disk (script.run Disk.system disk).2 := by
  induction script generalizing disk with
  | done value => exact .here _ disk
  | ask call next ih => exact .later (ih _ _)

/-- A process that has nothing to do leaves the disk as it is. -/
theorem Stops.eq_of_done {value : α} (h : Stops (.done value) disk left) : left = disk := by
  cases h
  rfl

/-- A process stops before its first action, within it, or after it. -/
theorem Stops.ask_cases {call : FileCall} {next : call.Answer → Files α}
    (h : Stops (.ask call next) disk left) :
    left = disk ∨ disk.Partly call left ∨
      Stops (next (Disk.system call disk).1) (Disk.system call disk).2 left := by
  cases h with
  | here => exact .inl rfl
  | within h => exact .inr (.inl h)
  | later h => exact .inr (.inr h)

/-- A process that stops in the first of two computations stops in both together. -/
theorem Stops.bind {script : Files α} (next : α → Files β) (h : Stops script disk left) :
    Stops (Script.bind script next) disk left := by
  induction h with
  | here script disk => exact .here _ disk
  | within h => exact .within h
  | later _ ih => exact .later ih

/-- A stop during two computations in a row comes during the first or during the second. -/
theorem Stops.bind_cases {script : Files α} {next : α → Files β}
    (h : Stops (script.bind next) disk left) :
    Stops script disk left ∨
      Stops (next (script.run Disk.system disk).1) (script.run Disk.system disk).2 left := by
  induction script generalizing disk with
  | done value => exact .inr h
  | ask call rest ih =>
    rcases h.ask_cases with rfl | hwithin | hlater
    · exact .inl (.here _ _)
    · exact .inl (.within hwithin)
    · exact (ih _ hlater).imp_left .later

end Files

namespace Disk

variable {disk after last : Disk} {path other : String}

/-! ## Files that are written -/

/-- Files of the first disk may be written anew on the second, and files may be added. -/
structure Refills (disk after : Disk) : Prop where
  directory_iff : ∀ location,
    after.node? location = some .directory ↔ disk.node? location = some .directory
  stays : ∀ location, (disk.node? location).isSome → (after.node? location).isSome

/-- Files may be written anew or added, but none that a path leads to. -/
structure Spares (path : String) (disk after : Disk) : Prop extends Refills disk after where
  same : ∀ directory name, (Path.steps path).getLast? = some (.enter name) →
    after.node? (directory ++ [name]) = disk.node? (directory ++ [name])

/-- An untouched disk has no files written anew. -/
theorem Refills.refl (disk : Disk) : disk.Refills disk :=
  ⟨fun _ => .rfl, fun _ h => h⟩

/-- Writing files anew twice is writing files anew. -/
theorem Refills.trans (hfirst : disk.Refills after) (hsecond : after.Refills last) :
    disk.Refills last :=
  ⟨fun location => (hsecond.directory_iff location).trans (hfirst.directory_iff location),
    fun location h => hsecond.stays location (hfirst.stays location h)⟩

/-- An untouched disk spares every path. -/
theorem Spares.refl (path : String) (disk : Disk) : disk.Spares path disk :=
  ⟨.refl disk, fun _ _ _ => rfl⟩

/-- What is spared twice is spared. -/
theorem Spares.trans (hfirst : Spares path disk after) (hsecond : Spares path after last) :
    Spares path disk last :=
  ⟨hfirst.toRefills.trans hsecond.toRefills, fun directory name hname =>
    (hsecond.same directory name hname).trans (hfirst.same directory name hname)⟩

/-- Writing one file writes files anew at most. -/
theorem refills_writeBytes {bytes : ByteArray} (h : disk.writeBytes path bytes = .ok after) :
    disk.Refills after := by
  obtain ⟨location, -, hfree, -, rfl⟩ := writeBytes_of_ok h
  constructor <;> intro place <;> by_cases hplace : place = location
  · subst hplace
    rw [node?_put_self _ hfree]
    exact iff_of_false (by simp) hfree
  · rw [node?_put_of_ne _ hplace]
  · subst hplace
    rw [node?_put_self _ hfree]
    exact fun _ => rfl
  · rw [node?_put_of_ne _ hplace]
    exact id

/-- Where a file could be put, it can be put when other files were written anew. -/
theorem Free.of_refills (h : disk.Free path) (hrefills : disk.Refills after) : after.Free path := by
  obtain ⟨location, hgoal, hnode, hasks⟩ := h
  exact ⟨location, goal_of_keeps (fun place => (hrefills.directory_iff place).mpr) hgoal,
    fun hdirectory => hnode ((hrefills.directory_iff location).mp hdirectory), hasks⟩

/-- Writing under one name spares the path to another one. -/
theorem spares_writeBytes {bytes : ByteArray} (hapart : Path.Apart path other)
    (h : disk.writeBytes other bytes = .ok after) : Spares path disk after := by
  refine ⟨refills_writeBytes h, fun directory name hname => ?_⟩
  obtain ⟨location, hgoal, hfree, -, rfl⟩ := writeBytes_of_ok h
  exact node?_put_of_ne _ (ne_of_apart hapart hname hgoal hfree)

/-- An action that fails changes nothing, so it spares what it spares when it works. -/
theorem spares_attempt {result : Except FileError Disk}
    (h : ∀ after, result = .ok after → Spares path disk after) :
    Spares path disk (disk.attempt result).2 := by
  cases result with
  | error error => exact .refl path disk
  | ok after => exact h after rfl

/-! ## What is spared -/

/-- A path contains something exactly when it leads to something. -/
theorem contains_iff : disk.contains path = true ↔ ∃ node, disk.locate path = .ok (some node) := by
  constructor
  · intro h
    rw [contains] at h
    split at h
    · next node hlocate => exact ⟨node, hlocate⟩
    · cases h
  · rintro ⟨node, hlocate⟩
    exact contains_of_locate hlocate

/-- What is found where a file can be put is a file. -/
theorem Free.exists_bytes (h : disk.Free path) (hthere : disk.contains path = true) :
    ∃ bytes, disk.locate path = .ok (some (.file bytes)) := by
  obtain ⟨location, hgoal, hnode, -⟩ := h
  obtain ⟨node, hlocate⟩ := contains_iff.mp hthere
  cases node with
  | file bytes => exact ⟨bytes, hlocate⟩
  | directory =>
    obtain ⟨place, hplace, hdirectory, -⟩ := locate_eq_some_iff.mp hlocate
    cases hgoal.symm.trans hplace
    exact absurd hdirectory hnode

/-- Something is still at a path when files were written anew. -/
theorem Refills.contains (h : disk.Refills after) (hthere : disk.contains path = true) :
    after.contains path = true := by
  obtain ⟨node, hlocate⟩ := contains_iff.mp hthere
  obtain ⟨location, hgoal, hnode, hasks⟩ := locate_eq_some_iff.mp hlocate
  have hkeeps : disk.KeepsDirectories after := fun place => (h.directory_iff place).mpr
  obtain ⟨now, hnow⟩ := Option.isSome_iff_exists.mp (h.stays location (by rw [hnode]; rfl))
  refine contains_of_locate
    (locate_eq_some_iff.mpr ⟨location, goal_of_keeps hkeeps hgoal, hnow, ?_⟩)
  rcases hasks with rfl | hasks
  · rw [(h.directory_iff location).mpr hnode] at hnow
    exact .inl (Option.some.inj hnow).symm
  · exact .inr hasks

/-- What is at a path is also there on a disk with the same directories and the same files under
the last name of the path. -/
theorem locate_of_same {node : Node} (hkeeps : disk.KeepsDirectories after)
    (hsame : ∀ directory name, (Path.steps path).getLast? = some (.enter name) →
      after.node? (directory ++ [name]) = disk.node? (directory ++ [name]))
    (h : disk.locate path = .ok (some node)) : after.locate path = .ok (some node) := by
  obtain ⟨location, hgoal, hnode, hasks⟩ := locate_eq_some_iff.mp h
  refine locate_eq_some_iff.mpr ⟨location, goal_of_keeps hkeeps hgoal, ?_, hasks⟩
  by_cases hdirectory : disk.node? location = some .directory
  · rw [hkeeps location hdirectory, ← hnode, hdirectory]
  · obtain ⟨directory, name, hname, rfl⟩ := exists_name_of_goal hgoal hdirectory
    rw [hsame directory name hname, hnode]

/-- Moving a file leaves the files under other names alone. -/
theorem locate_of_rename_of_apart {source target : String} {bytes : ByteArray}
    (hsource : Path.Apart path source) (htarget : Path.Apart path target)
    (hthere : disk.locate path = .ok (some (.file bytes)))
    (h : disk.rename source target = .ok after) :
    after.locate path = .ok (some (.file bytes)) := by
  obtain ⟨place, goal, moved, hplace, hgoal, hmoved, hfree, -, rfl⟩ := rename_of_ok h
  have hfile : disk.node? place ≠ some .directory := by simp [hmoved]
  have hstill : (disk.clear place).node? goal ≠ some .directory := node?_clear_ne_directory hfree
  have hkeeps : disk.KeepsDirectories ((disk.clear place).put goal (.file moved)) :=
    (keepsDirectories_clear hfile).trans (keepsDirectories_put _ hstill)
  refine locate_of_same hkeeps (fun directory name hname => ?_) hthere
  rw [node?_put_of_ne _ (ne_of_apart htarget hname hgoal hfree),
    node?_clear_of_ne (ne_of_apart hsource hname hplace hfile)]

/-- A path that is spared leads to the same. -/
theorem Spares.locate_iff (h : Spares path disk after) {node : Node} :
    after.locate path = .ok (some node) ↔ disk.locate path = .ok (some node) :=
  ⟨locate_of_same (fun location => (h.directory_iff location).mp)
      fun directory name hname => (h.same directory name hname).symm,
    locate_of_same (fun location => (h.directory_iff location).mpr) h.same⟩

/-- A path that is spared contains something exactly if it did before. -/
theorem Spares.contains_eq (h : Spares path disk after) :
    after.contains path = disk.contains path := by
  rw [Bool.eq_iff_iff, contains_iff, contains_iff]
  simp only [h.locate_iff]

/-- The bytes at a path that is spared are read as before. -/
theorem Spares.readBytes (h : Spares path disk after) {bytes : ByteArray}
    (hread : disk.readBytes path = .ok bytes) : after.readBytes path = .ok bytes :=
  readBytes_eq_ok_iff.mpr (h.locate_iff.mpr (readBytes_eq_ok_iff.mp hread))

/-- The text at a path that is spared is read as before. -/
theorem Spares.readText (h : Spares path disk after) {text : String}
    (hread : disk.readText path = .ok text) : after.readText path = .ok text := by
  obtain ⟨bytes, hbytes, htext⟩ := exists_of_bind_eq_ok hread
  rw [Disk.readText, h.readBytes hbytes]
  exact htext

end Disk

end Reconciler
