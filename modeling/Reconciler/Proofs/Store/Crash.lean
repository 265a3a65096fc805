import Reconciler.Proofs.Store.Session
import Reconciler.Proofs.Store.Stop

/-!
# Stores in a file that are stopped

A store in a file writes its table into a temporary file, keeps the former text as a backup and
then moves the temporary file into place. Neither of the two files has the name of the kept one,
as long as its path has neither of their extensions, so a process that stops anywhere in a call
leaves the former text or the new one. A store that is opened on what it left has the table that
was on the disk before the call, or the one that the call led to (`openAt_of_stops`).
-/

set_option autoImplicit false

namespace Reconciler

open Files

/-- What a call makes of the table of a store. -/
def StoreCall.onTable : StoreCall → Table → Table
  | .operate operation, table => operation.onTable table
  | .list _, table => table
  | .flush, table => table

namespace FileStore

/-- A store that was opened at a path, on a disk where its table could be read, and what it has come
to by its own calls. -/
inductive Opened (path : String) : FileStore → Disk → Prop where
  | opened {store : FileStore} {before disk : Disk}
      (hopen : Script.run Disk.system (openAt path).run before = (.ok store, disk))
      (hreadable : ∃ table, Holds path table disk) : Opened path store disk
  | called {store : FileStore} {disk : Disk} (call : StoreCall) (h : Opened path store disk) :
      Opened path ((store.answer call).run Disk.system disk).1.2
        ((store.answer call).run Disk.system disk).2
  | watched {store : FileStore} {disk : Disk} (watches : Watches) (h : Opened path store disk) :
      Opened path { store with watches } disk

variable {path text : String} {store : FileStore} {table kept : Table} {disk left : Disk}

/-! ## Writing a text -/

/-- The temporary file does not have the name of the kept one. -/
theorem apart_temporary (htemporary : Path.extension? path ≠ some "tmp") :
    Path.Apart path (temporary path) :=
  Path.apart_withExtension htemporary (by decide) (by decide) (by decide)

/-- The backup does not have the name of the kept file. -/
theorem apart_backup (hbackup : Path.extension? path ≠ some "backup") :
    Path.Apart path (backup path) :=
  Path.apart_withExtension hbackup (by decide) (by decide) (by decide)

/-- Writing the temporary file spares the kept one. -/
theorem spares_temporary (htemporary : Path.extension? path ≠ some "tmp") {bytes : ByteArray}
    (h : disk.writeBytes (temporary path) bytes = .ok left) : Disk.Spares path disk left :=
  Disk.spares_writeBytes (apart_temporary htemporary) h

/-- Writing the backup leaves the kept file alone. -/
theorem spares_backup (hbackup : Path.extension? path ≠ some "backup") {bytes : ByteArray}
    (h : disk.writeBytes (backup path) bytes = .ok left) : Disk.Spares path disk left :=
  Disk.spares_writeBytes (apart_backup hbackup) h

/-- A check stops where it is, when it refuses at the latest, or in what it goes on with. -/
theorem stops_check_cases {answer : Except FileError Unit} {refusal : FileError → Error}
    {next : Files (Except Error Unit)} (h : Stops (check answer refusal next) disk left) :
    left = disk ∨ answer = .ok () ∧ Stops next disk left := by
  cases answer with
  | error error => exact .inl h.eq_of_done
  | ok _ => exact .inr ⟨rfl, h⟩

section Writing

variable {collected : Disk} {bytes : ByteArray}

/-- A stop while a collected text is moved into place leaves the kept file alone or the text in
its place. -/
theorem stops_moveIntoPlace_cases (hspares : Disk.Spares path disk collected)
    (hthere : collected.locate (temporary path) = .ok (some (.file bytes)))
    (h : Stops (moveIntoPlace path) collected left) :
    Disk.Spares path disk left ∨ left.locate path = .ok (some (.file bytes)) := by
  rcases h.ask_cases with rfl | hwithin | hmoved
  · exact .inl hspares
  · cases hwithin
  · change Stops (check (collected.attempt (collected.rename (temporary path) path)).1 _ _)
      (collected.attempt (collected.rename (temporary path) path)).2 left at hmoved
    cases hrename : collected.rename (temporary path) path with
    | error error =>
      rw [hrename] at hmoved
      obtain rfl := hmoved.eq_of_done
      exact .inl hspares
    | ok after =>
      rw [hrename] at hmoved
      obtain rfl := hmoved.eq_of_done
      exact .inr (Disk.locate_of_rename hthere hrename)

/-- The same for a stop while the kept file is copied before that. -/
theorem stops_copy_cases (hbackup : Path.extension? path ≠ some "backup")
    (hspares : Disk.Spares path disk collected)
    (hthere : collected.locate (temporary path) = .ok (some (.file bytes)))
    (h : Stops (.ask (.copy path (backup path)) fun _ => moveIntoPlace path) collected left) :
    Disk.Spares path disk left ∨ left.locate path = .ok (some (.file bytes)) := by
  rcases h.ask_cases with rfl | hwithin | h
  · exact .inl hspares
  · cases hwithin with
    | copy count hread hwrite => exact .inl (hspares.trans (spares_backup hbackup hwrite))
  · change Stops (moveIntoPlace path)
      (collected.attempt (collected.copy path (backup path))).2 left at h
    cases hcopy : collected.copy path (backup path) with
    | error error =>
      rw [hcopy] at h
      exact stops_moveIntoPlace_cases hspares hthere h
    | ok copied =>
      rw [hcopy] at h
      obtain ⟨former, hwrite⟩ := Disk.copy_of_ok hcopy
      exact stops_moveIntoPlace_cases (hspares.trans (spares_backup hbackup hwrite))
        (locate_temporary_of_copy hthere hcopy) h

/-- A stop while a text is written leaves the kept file alone or the text in its place. -/
theorem stops_replace_cases (htemporary : Path.extension? path ≠ some "tmp")
    (hbackup : Path.extension? path ≠ some "backup")
    (h : Stops (replace path text).run disk left) :
    Disk.Spares path disk left ∨ left.locate path = .ok (some (.file text.toUTF8)) := by
  rw [replace_eq] at h
  rcases h.ask_cases with rfl | hwithin | h
  · exact .inl (.refl path _)
  · cases hwithin
  have hcreate : Disk.Spares path disk (Disk.system (.create (temporary path)) disk).2 :=
    Disk.spares_attempt fun _ => spares_temporary htemporary
  rcases stops_check_cases h with rfl | ⟨hmade, h⟩
  · exact .inl hcreate
  obtain ⟨created, hcreated, hattempt⟩ := Disk.attempt_of_ok hmade
  have hcreateRun : Disk.system (.create (temporary path)) disk = (.ok (), created) := hattempt
  rw [hcreateRun] at hcreate h
  -- the temporary file is there and empty
  rcases h.ask_cases with rfl | hwithin | h
  · exact .inl hcreate
  · cases hwithin with
    | append count hread hwrite => exact .inl (hcreate.trans (spares_temporary htemporary hwrite))
  have happend : Disk.Spares path disk (Disk.system (.append (temporary path) text) created).2 :=
    hcreate.trans <| Disk.spares_attempt fun after hafter => by
      obtain ⟨former, -, hwrite⟩ := exists_of_bind_eq_ok hafter
      exact spares_temporary htemporary hwrite
  rcases stops_check_cases h with rfl | ⟨hwritten, h⟩
  · exact .inl happend
  obtain ⟨collected, hcollected, hattempt⟩ := Disk.attempt_of_ok hwritten
  have happendRun : Disk.system (.append (temporary path) text) created = (.ok (), collected) :=
    hattempt
  rw [happendRun] at happend h
  -- the text is collected
  have hthere := Disk.locate_of_append (Disk.locate_of_writeBytes hcreated) hcollected
  rcases h.ask_cases with rfl | hwithin | h
  · exact .inl happend
  · cases hwithin with
    | flush count hread hwrite => exact .inl (happend.trans (spares_temporary htemporary hwrite))
  rcases h.ask_cases with rfl | hwithin | h
  · exact .inl happend
  · cases hwithin
  change Stops (if collected.contains path then _ else _) collected left at h
  split at h
  · exact stops_copy_cases hbackup happend hthere h
  · exact stops_moveIntoPlace_cases happend hthere h

end Writing

/-! ## Calls -/

/-- Writing the table through is telling no change about it. -/
theorem commit_unit (store : FileStore) : commit store () none = store.save := by
  refine (congrArg (Script.bind store.save) ?_).trans (Script.bind_done_right store.save)
  funext result
  rcases result with ⟨_ | _, _⟩ <;> rfl

/-- A call is answered from the table, or a table is written through for it. -/
theorem answer_cases (store : FileStore) (call : StoreCall) :
    (∃ answer, store.answer call = .done (answer, store) ∧
        call.onTable store.table = store.table) ∨
    (∃ value change, store.answer call =
        commit { store with table := call.onTable store.table, dirty := true } value change) := by
  cases call with
  | list kind => exact .inl ⟨_, rfl, rfl⟩
  | flush =>
    show (∃ answer, (if store.dirty then _ else _) = _ ∧ _) ∨ _
    cases hdirty : store.dirty with
    | false => exact .inl ⟨_, rfl, rfl⟩
    | true =>
      -- a flush is a commit that changes nothing and tells nothing
      refine .inr ⟨(), none, ?_⟩
      obtain ⟨path, table, dirty, watches⟩ := store
      obtain rfl : dirty = true := hdirty
      exact (commit_unit _).symm
  | operate operation =>
    rw [answer, perform_eq]
    rcases operation.verdict_cases store.table with
      ⟨error, hverdict, -, hsame⟩ | ⟨value, hverdict, hsame⟩ | ⟨value, change, hverdict, -⟩ <;>
      rw [hverdict]
    · exact .inl ⟨_, rfl, hsame⟩
    · exact .inl ⟨_, rfl, hsame⟩
    · exact .inr ⟨value, change, rfl⟩

/-- Saving stops where writing the document stops. -/
theorem stops_save (h : Stops store.save disk left) :
    Stops (replace store.path (Document.write store.table.toList)).run disk left := by
  rcases h.bind_cases with hfirst | hrest
  · exact hfirst
  · have hleft : left = (Script.run Disk.system
        (replace store.path (Document.write store.table.toList)).run disk).2 := by
      split at hrest <;> exact hrest.eq_of_done
    rw [hleft]
    exact stops_run _ disk

/-- A change is written through before it is told, so the process stops during the writing. -/
theorem stops_commit {α : Type} {value : α} {change : Option Change}
    (h : Stops (commit store value change) disk left) :
    Stops (replace store.path (Document.write store.table.toList)).run disk left := by
  refine stops_save ?_
  rcases h.bind_cases with hfirst | hrest
  · exact hfirst
  · have hleft : left = (store.save.run Disk.system disk).2 := by
      split at hrest <;> exact hrest.eq_of_done
    rw [hleft]
    exact stops_run _ disk

/-- A stop during a call is one during the writing of the table that the call leads to. -/
theorem stops_answer_cases {call : StoreCall} (h : Stops (store.answer call) disk left) :
    left = disk ∨
      Stops (replace store.path (Document.write (call.onTable store.table).toList)).run disk
        left := by
  rcases store.answer_cases call with ⟨answer, hanswer, -⟩ | ⟨value, change, hanswer⟩
  · rw [hanswer] at h
    exact .inl h.eq_of_done
  · rw [hanswer] at h
    exact .inr (stops_commit h)

/-- Whatever the file system answers, a call makes of the table what it is to make of it. -/
theorem run_answer {φ : Type} (system : FileSystem φ) (store : FileStore) (call : StoreCall)
    (files : φ) :
    ((store.answer call).run system files).1.2.path = store.path ∧
      ((store.answer call).run system files).1.2.table = call.onTable store.table := by
  rcases store.answer_cases call with ⟨answer, hanswer, htable⟩ | ⟨value, change, hanswer⟩
  · rw [hanswer, htable]
    exact ⟨rfl, rfl⟩
  · rw [hanswer, run_commit]
    split <;> exact ⟨rfl, rfl⟩

/-- A call keeps the objects of a table under their own keys. -/
theorem keyed_onTable (hkeyed : table.Keyed) (call : StoreCall) : (call.onTable table).Keyed := by
  cases call with
  | operate operation => exact hkeyed.onTable operation
  | list kind => exact hkeyed
  | flush => exact hkeyed

/-! ## What is on the disk -/

/-- What is held at a path is still held when the path is spared. -/
theorem Holds.spares (h : Holds path table disk) (hspares : Disk.Spares path disk left) :
    Holds path table left := by
  rcases h with ⟨htable, habsent⟩ | ⟨text, objects, hread, hobjects, htable⟩
  · exact .inl ⟨htable, hspares.contains_eq.trans habsent⟩
  · exact .inr ⟨text, objects, hspares.readText hread, hobjects, htable⟩

/-- A path that leads to something lies in a directory that is there. -/
theorem housed_of_locate {node : Node} (h : disk.locate path = .ok (some node)) :
    Housed path disk := by
  obtain ⟨location, hgoal, -, -⟩ := Disk.locate_eq_some_iff.mp h
  obtain ⟨directory, name, happroach, -⟩ := Disk.goal_eq_ok_iff.mp hgoal
  unfold Housed
  rw [makeParent_eq]
  cases hparent : Path.parent? path with
  | none => rfl
  | some parent =>
    dsimp only
    split
    · rfl
    · next hne =>
      exact run_makeMissing_of_contains _
        (Disk.contains_of_isDirectory (Disk.isDirectory_of_parent? happroach hparent hne))

/-- A process that stops during a call leaves the table that was on the disk or the one that the
call leads to. -/
theorem holds_of_stops (htemporary : Path.extension? path ≠ some "tmp")
    (hbackup : Path.extension? path ≠ some "backup") (hpath : store.path = path)
    (hkeyed : store.table.Keyed) (hhoused : Housed path disk) (hholds : Holds path kept disk)
    {call : StoreCall} (h : Stops (store.answer call) disk left) :
    Housed path left ∧
      ∃ table, (table = kept ∨ table = call.onTable store.table) ∧ Holds path table left := by
  rcases stops_answer_cases h with rfl | hreplace
  · exact ⟨hhoused, kept, .inl rfl, hholds⟩
  · rw [hpath] at hreplace
    rcases stops_replace_cases htemporary hbackup hreplace with hspares | hlocate
    · exact ⟨hhoused.of_imp fun _ => hspares.toRefills.contains, kept, .inl rfl,
        hholds.spares hspares⟩
    · exact ⟨housed_of_locate hlocate, _, .inr rfl,
        holds_of_locate (keyed_onTable hkeyed call) hlocate⟩

/-! ## Opened stores -/

/-- An action that writes files at most: it makes no directory and removes nothing. -/
def Refilling (call : FileCall) : Prop :=
  ∀ disk : Disk, disk.Refills (Disk.system call disk).2

/-- Copying a file writes files at most. -/
theorem refilling_copy (source target : String) : Refilling (.copy source target) := by
  intro disk
  show disk.Refills (disk.attempt (disk.copy source target)).2
  cases hcopy : disk.copy source target with
  | error error => exact .refl disk
  | ok after =>
    obtain ⟨bytes, hwrite⟩ := Disk.copy_of_ok hcopy
    exact Disk.refills_writeBytes hwrite

/-- Loading writes files at most. -/
theorem asks_load (path : String) : (load path).run.Asks Refilling := by
  rw [load_eq]
  refine ⟨Disk.Refills.refl, fun there => ?_⟩
  cases there with
  | false => trivial
  | true =>
    refine ⟨Disk.Refills.refl, fun answer => ?_⟩
    cases answer with
    | error error => trivial
    | ok text => cases hread : Document.read? text <;> simp only [hread] <;> trivial

/-- Recovering writes files at most. -/
theorem asks_recover (path : String) : (recover path).Asks Refilling := by
  refine ⟨Disk.Refills.refl, fun there => ?_⟩
  cases there with
  | false => trivial
  | true =>
    refine (asks_load (backup path)).bind fun result => ?_
    cases result with
    | error error => trivial
    | ok objects => exact ⟨refilling_copy _ _, fun _ => trivial⟩

/-- Loading or recovering writes files at most. -/
theorem asks_loadOrRecover (path : String) : (loadOrRecover path).run.Asks Refilling := by
  refine (asks_load path).bind fun result => ?_
  split
  · exact (asks_recover path).bind fun _ => trivial
  · trivial

/-- A store that was opened is at the path, and the directory of the path is there. -/
theorem housed_of_run_openAt {before : Disk}
    (h : Script.run Disk.system (openAt path).run before = (.ok store, disk)) :
    store.path = path ∧ store.table.Keyed ∧ Housed path disk := by
  obtain ⟨_, housed, hparent, hrest⟩ := exists_of_run_bind_eq_ok h
  obtain ⟨objects, loaded, hload, hdone⟩ := exists_of_run_bind_eq_ok hrest
  cases hdone
  obtain ⟨-, hhoused⟩ := run_makeParent_of_ok hparent
  have hrefills := (asks_loadOrRecover path).run_invariant (housed.Refills ·)
    (fun call now hcall hnow => hnow.trans (hcall now)) (.refl housed)
  rw [hload] at hrefills
  exact ⟨rfl, Table.keyed_ofList objects, hhoused.of_imp fun _ => hrefills.contains⟩

/-- An opened store stays at its path, and what is on the disk there can be read. -/
theorem Opened.readable (htemporary : Path.extension? path ≠ some "tmp")
    (hbackup : Path.extension? path ≠ some "backup") (h : Opened path store disk) :
    store.path = path ∧ store.table.Keyed ∧ Housed path disk ∧ ∃ kept, Holds path kept disk := by
  induction h with
  | opened hopen hreadable =>
    obtain ⟨hpath, hkeyed, hhoused⟩ := housed_of_run_openAt hopen
    exact ⟨hpath, hkeyed, hhoused, hreadable⟩
  | @called store disk call h ih =>
    obtain ⟨hpath, hkeyed, hhoused, kept, hholds⟩ := ih
    obtain ⟨hsamePath, htable⟩ := run_answer Disk.system store call disk
    obtain ⟨hstill, table, -, hnow⟩ := holds_of_stops htemporary hbackup hpath hkeyed hhoused hholds
      (stops_run (store.answer call) disk)
    exact ⟨hsamePath.trans hpath, htable ▸ keyed_onTable hkeyed call, hstill, table, hnow⟩
  | watched watches h ih => exact ih

/-- A process may stop anywhere in a call of an opened store. What is on the disk can be read until
then, and a store that is opened afterwards has the table that was on the disk before the call or
the one that the call led to. -/
theorem openAt_of_stops (htemporary : Path.extension? path ≠ some "tmp")
    (hbackup : Path.extension? path ≠ some "backup") (hopened : Opened path store disk) :
    (∃ kept, Holds path kept disk) ∧
      ∀ kept, Holds path kept disk → ∀ (call : StoreCall) (left : Disk),
        Stops (store.answer call) disk left →
          ∃ table, (table = kept ∨ table = call.onTable store.table) ∧
            Script.run Disk.system (openAt path).run left =
              (.ok ⟨path, table, false, []⟩, left) := by
  obtain ⟨hpath, hkeyed, hhoused, hreadable⟩ := hopened.readable htemporary hbackup
  refine ⟨hreadable, fun kept hholds call left hstops => ?_⟩
  obtain ⟨hstill, table, htable, hnow⟩ :=
    holds_of_stops htemporary hbackup hpath hkeyed hhoused hholds hstops
  exact ⟨table, htable, run_openAt_of_holds hstill hnow⟩

/-! ## A stop while a group is declared -/

/-- The disk when a temporary file was made on an empty one and has five bytes of a text. -/
def cutShort (text : String) : Disk :=
  (Disk.empty.put ["objects.tmp"] (.file .empty)).put ["objects.tmp"]
    (.file (.empty ++ text.toUTF8.extract 0 5))

/-- A writing can stop after five bytes of the text. -/
theorem stops_cutShort (text : String) :
    Stops (replace "objects.json" text).run .empty (cutShort text) := by
  have hcreate : Disk.system (.create (temporary "objects.json")) .empty =
      (.ok (), Disk.empty.put ["objects.tmp"] (.file .empty)) := rfl
  rw [replace_eq]
  refine .later ?_
  rw [hcreate]
  exact .within (.append 5 rfl rfl)

/-- The group is declared in a store without objects, and the process stops when five bytes of the
new text are written. -/
theorem openAt_of_stops_cutShort :
    let store : FileStore := ⟨"objects.json", .empty, false, []⟩
    let call : StoreCall := .operate (.apply "private" keptGroup)
    let left : Disk := cutShort (Document.write (call.onTable .empty).toList)
    Opened "objects.json" store .empty ∧ Stops (store.answer call) .empty left ∧
      ∃ table, (table = .empty ∨ table = call.onTable .empty) ∧
        Script.run Disk.system (openAt "objects.json").run left =
          (.ok ⟨"objects.json", table, false, []⟩, left) := by
  intro store call left
  have hholds : Holds "objects.json" .empty .empty := .inl ⟨rfl, rfl⟩
  have hopened : Opened "objects.json" store .empty :=
    .opened (run_openAt_of_holds rfl hholds) ⟨_, hholds⟩
  have hstops : Stops (store.answer call) .empty left := .bind _ (.bind _ (stops_cutShort _))
  exact ⟨hopened, hstops,
    (openAt_of_stops (by decide) (by decide) hopened).2 _ hholds call left hstops⟩

end FileStore

end Reconciler
