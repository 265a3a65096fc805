import Reconciler.Proofs.Store.Recovery

/-!
# The backup of a store

A write keeps the former text as the backup before the new one takes its place, so the backup is
behind the file by exactly one write, whatever else the store does in between and however often
it is opened again (`Backed`). A file that is damaged so that it is no document is therefore made
good with the table before the last write (`openAt_of_damaged`), provided that the file, the
backup and the temporary file are three different ones.
-/

set_option autoImplicit false

namespace Reconciler

open Files

namespace FileStore

variable {path text : String} {store : FileStore} {tables : List Table} {last : Table}
  {disk left : Disk}

/-! ## One write -/

/-- A write in which nothing fails keeps the former text as the backup. -/
theorem locate_backup_of_replace (htemporary : Path.extension? path ≠ some "tmp")
    (hbackup : Path.extension? path ≠ some "backup") {former : ByteArray}
    (hformer : disk.locate path = .ok (some (.file former)))
    (hsucceeds : Succeeds Disk.system (replace path text).run disk)
    (hrun : Script.run Disk.system (replace path text).run disk = (.ok (), left)) :
    left.locate (backup path) = .ok (some (.file former)) := by
  obtain ⟨course⟩ := exists_course hrun
  -- the new text is collected beside the file
  have hcreated : disk.writeBytes (temporary path) .empty = .ok course.created :=
    Disk.eq_ok_of_attempt course.create_eq
  obtain ⟨_, -, hcollected⟩ := exists_of_bind_eq_ok (Disk.eq_ok_of_attempt course.append_eq)
  have hspares : Disk.Spares path disk course.collected :=
    (spares_temporary htemporary hcreated).trans (spares_temporary htemporary hcollected)
  have hflushed : course.collected = course.flushed := congrArg Prod.snd course.flush_eq
  have hstill : course.flushed.locate path = .ok (some (.file former)) :=
    hflushed ▸ hspares.locate_iff.mpr hformer
  have hcontains : course.flushed.contains path = course.there :=
    congrArg Prod.fst course.exists_eq
  have hseen : course.flushed = course.seen := congrArg Prod.snd course.exists_eq
  have hthere : course.there = true := hcontains.symm.trans (Disk.contains_of_locate hstill)
  rw [hseen] at hstill
  -- the file is there, so it is copied, and nothing fails
  have hentry : (FileCall.copy path (backup path), course.seen) ∈
      (replace path text).run.trace Disk.system disk := by
    rw [course.trace_eq, hthere]
    simp
  obtain ⟨kept, hcopy, hattempt⟩ := Disk.attempt_of_ok (hsucceeds _ hentry)
  have hkept : course.kept = kept := by
    rw [course.kept_eq, hthere, if_pos rfl]
    exact congrArg Prod.snd hattempt
  have hcopied := Disk.locate_of_writeBytes (Disk.writeBytes_of_copy hstill
    (Disk.goal_ne_of_apart (apart_backup hbackup) hstill) hcopy)
  rw [← hkept] at hcopied
  exact Disk.locate_of_rename_of_apart (backup_apart_temporary path) (apart_backup hbackup).symm
    hcopied (Disk.eq_ok_of_attempt course.rename_eq)

/-! ## Histories -/

/-- Whether a call writes the table through: it moves a new text into place. -/
def WritesThrough (store : FileStore) (call : StoreCall) (disk : Disk) : Prop :=
  .rename (temporary store.path) store.path ∈ (store.answer call).asked Disk.system disk

/-- The stores that come of opening the one at a path, of calls in which no action on files fails,
and of opening it again, each with the tables that it had just before its writes, the latest
first. -/
inductive Written (path : String) : List Table → FileStore → Disk → Prop where
  | opened {store : FileStore} {before disk : Disk}
      (hopen : Script.run Disk.system (openAt path).run before = (.ok store, disk)) :
      Written path [] store disk
  | reopened {tables : List Table} {store again : FileStore} {disk after : Disk}
      (h : Written path tables store disk)
      (hopen : Script.run Disk.system (openAt path).run disk = (.ok again, after)) :
      Written path tables again after
  | kept {tables : List Table} {store : FileStore} {disk : Disk} (call : StoreCall)
      (h : Written path tables store disk)
      (hsucceeds : Succeeds Disk.system (store.answer call) disk)
      (hwrites : ¬ store.WritesThrough call disk) :
      Written path tables ((store.answer call).run Disk.system disk).1.2
        ((store.answer call).run Disk.system disk).2
  | wrote {tables : List Table} {store : FileStore} {disk : Disk} (call : StoreCall)
      (h : Written path tables store disk)
      (hsucceeds : Succeeds Disk.system (store.answer call) disk)
      (hwrites : store.WritesThrough call disk) :
      Written path (store.table :: tables) ((store.answer call).run Disk.system disk).1.2
        ((store.answer call).run Disk.system disk).2
  | watched {tables : List Table} {store : FileStore} {disk : Disk} (watches : Watches)
      (h : Written path tables store disk) : Written path tables { store with watches } disk

/-- A table is at a path when its document is the text of the file. -/
def At (path : String) (table : Table) (disk : Disk) : Prop :=
  disk.locate path = .ok (some (.file (Document.write table.toList).toUTF8))

/-- After a write the table is in the file, and after another one the backup has the table before
that write. -/
structure Backed (path : String) (tables : List Table) (store : FileStore) (disk : Disk) :
    Prop where
  path_eq : store.path = path
  keyed : store.table.Keyed
  current : tables ≠ [] → At path store.table disk
  former : ∀ last earlier rest, tables = last :: earlier :: rest →
    last.Keyed ∧ At (backup path) last disk

/-- Saving a store follows the actions of writing its document, with what the files are before
each. -/
theorem trace_save {φ : Type} (system : FileSystem φ) (store : FileStore) (files : φ) :
    store.save.trace system files =
      (replace store.path (Document.write store.table.toList)).run.trace system files := by
  rw [save, Script.bind_eq, Script.trace_bind]
  split <;> exact List.append_nil _

/-- Saving a store asks for the actions of writing its document. -/
theorem asked_save {φ : Type} (system : FileSystem φ) (store : FileStore) (files : φ) :
    store.save.asked system files =
      (replace store.path (Document.write store.table.toList)).run.asked system files := by
  rw [← Script.map_fst_trace, trace_save, Script.map_fst_trace]

/-- A commit asks for what its writing asks for. -/
theorem asked_commit {φ α : Type} (system : FileSystem φ) (store : FileStore) (value : α)
    (change : Option Change) (files : φ) :
    (commit store value change).asked system files =
      (replace store.path (Document.write store.table.toList)).run.asked system files := by
  rw [commit, Script.bind_eq, Script.asked_bind, asked_save]
  split <;> exact List.append_nil _

/-- A commit that works moves a text into place. -/
theorem rename_mem_asked_commit {α : Type} (store : FileStore) {value : α}
    {change : Option Change} (h : Script.run Disk.system
      (replace store.path (Document.write store.table.toList)).run disk = (.ok (), left)) :
    .rename (temporary store.path) store.path ∈
      (commit store value change).asked Disk.system disk := by
  obtain ⟨course⟩ := exists_course h
  rw [asked_commit, ← Script.map_fst_trace, course.trace_eq]
  simp

/-- A call that commits a change writes it through when the writing works. -/
theorem writesThrough_of_commit {call : StoreCall} {value : call.Value} {change : Option Change}
    (hanswer : store.answer call =
      commit { store with table := call.onTable store.table, dirty := true } value change)
    (hrun : Script.run Disk.system
      (replace store.path (Document.write (call.onTable store.table).toList)).run disk =
        (.ok (), left)) :
    store.WritesThrough call disk := by
  rw [WritesThrough, hanswer]
  exact rename_mem_asked_commit { store with table := call.onTable store.table, dirty := true } hrun

/-- A call that does not write through changes nothing, and one that does writes the table to which
it leads. -/
theorem writesThrough_cases (store : FileStore) (call : StoreCall)
    (hsucceeds : Succeeds Disk.system (store.answer call) disk) :
    (¬ store.WritesThrough call disk ∧
      ∃ answer, (store.answer call).run Disk.system disk = ((answer, store), disk)) ∨
    (store.WritesThrough call disk ∧
      ∃ answer written left,
        (store.answer call).run Disk.system disk = ((answer, written), left) ∧
        written.path = store.path ∧ written.table = call.onTable store.table ∧
        Succeeds Disk.system
          (replace store.path (Document.write (call.onTable store.table).toList)).run disk ∧
        Script.run Disk.system
          (replace store.path (Document.write (call.onTable store.table).toList)).run disk =
            (.ok (), left)) := by
  rcases store.answer_cases call with ⟨answer, hanswer, -⟩ | ⟨value, change, hanswer⟩
  · refine .inl ⟨?_, answer, by rw [hanswer]; rfl⟩
    rw [WritesThrough, hanswer]
    exact List.not_mem_nil
  · have hreplace := succeeds_commit_iff.mp (hanswer ▸ hsucceeds)
    obtain ⟨left, hrun, -⟩ := run_replace_of_succeeds hreplace
    have hcall : (store.answer call).run Disk.system disk =
        ((.ok value, { store with
          table := call.onTable store.table, dirty := false,
          watches := change.elim store.watches store.watches.publish }), left) := by
      rw [hanswer, run_commit, hrun]
    exact .inr ⟨writesThrough_of_commit hanswer hrun, _, _, left, hcall, rfl, rfl, hreplace, hrun⟩

/-- A call that writes keeps the table before it for the backup. -/
theorem Backed.wrote (htemporary : Path.extension? path ≠ some "tmp")
    (hbackup : Path.extension? path ≠ some "backup") (h : Backed path tables store disk)
    {call : StoreCall} (hsucceeds : Succeeds Disk.system (store.answer call) disk)
    (hwrites : store.WritesThrough call disk) :
    Backed path (store.table :: tables) ((store.answer call).run Disk.system disk).1.2
      ((store.answer call).run Disk.system disk).2 := by
  rcases store.writesThrough_cases call hsucceeds with ⟨hnone, -⟩ | ⟨-, hwritten⟩
  · exact absurd hwrites hnone
  obtain ⟨answer, written, left, hcall, hpath, htable, hreplace, hrun⟩ := hwritten
  rw [hcall]
  rw [h.path_eq] at hpath hreplace hrun
  obtain ⟨after, hafter, hlocate⟩ := run_replace_of_succeeds hreplace
  obtain rfl : left = after := congrArg Prod.snd (hrun.symm.trans hafter)
  refine ⟨hpath, ?_, fun _ => ?_, fun last earlier rest hlist => ?_⟩
  · rw [htable]
    exact keyed_onTable h.keyed call
  · rw [htable]
    exact hlocate
  · obtain ⟨rfl, hearlier⟩ := List.cons.inj hlist
    have hnonempty : tables ≠ [] := by simp [hearlier]
    exact ⟨h.keyed, locate_backup_of_replace htemporary hbackup (h.current hnonempty) hreplace hrun⟩

/-- Opening the store again keeps what the backup is behind. -/
theorem Backed.reopened (h : Backed path tables store disk) {again : FileStore} {after : Disk}
    (hopen : Script.run Disk.system (openAt path).run disk = (.ok again, after)) :
    Backed path tables again after := by
  obtain ⟨hpath, hkeyed, -⟩ := housed_of_run_openAt hopen
  by_cases hempty : tables = []
  · subst hempty
    exact ⟨hpath, hkeyed, fun hne => absurd rfl hne, nofun⟩
  · have hsame : Script.run Disk.system (openAt path).run disk =
        (.ok ⟨path, store.table, false, []⟩, disk) := reopens_of_locate h.keyed (h.current hempty)
    rw [hsame] at hopen
    cases hopen
    exact ⟨rfl, h.keyed, h.current, h.former⟩

/-- However a store came about, its backup is behind its file by one write. -/
theorem Written.backed (htemporary : Path.extension? path ≠ some "tmp")
    (hbackup : Path.extension? path ≠ some "backup") (h : Written path tables store disk) :
    Backed path tables store disk := by
  induction h with
  | opened hopen =>
    obtain ⟨hpath, hkeyed, -⟩ := housed_of_run_openAt hopen
    exact ⟨hpath, hkeyed, fun hne => absurd rfl hne, nofun⟩
  | reopened _ hopen ih => exact ih.reopened hopen
  | @kept tables store disk call _ hsucceeds hwrites ih =>
    rcases store.writesThrough_cases call hsucceeds with ⟨-, answer, hcall⟩ | ⟨hwritten, -⟩
    · rw [hcall]
      exact ih
    · exact absurd hwritten hwrites
  | wrote call _ hsucceeds hwrites ih => exact ih.wrote htemporary hbackup hsucceeds hwrites
  | watched watches _ ih => exact ⟨ih.path_eq, ih.keyed, ih.current, ih.former⟩

/-! ## Damage -/

/-- A file that is no document is made good from a backup that is one. -/
theorem openAt_of_no_document (hkeyed : last.Keyed)
    (hthere : disk.locate path = .ok (some (.file text.toUTF8)))
    (hdamaged : Document.read? text = none) (hbackup : At (backup path) last disk) :
    ∃ restored, Script.run Disk.system (openAt path).run disk =
      (.ok ⟨path, last, false, []⟩, restored) := by
  have htext := Disk.readText_of_file hthere
  have hjson : loaded path disk = .error .json := by
    simp only [loaded, Disk.contains_of_locate hthere, if_true, htext, hdamaged]
  have hformer : loaded (backup path) disk = .ok last.toList :=
    loaded_of_text (Disk.readText_of_file hbackup) (Document.read?_write _)
  have hload : Script.run Disk.system (loadOrRecover path).run disk =
      (.ok last.toList, (disk.attempt (disk.copy (backup path) path)).2) := by
    rw [run_loadOrRecover, hjson, run_recover, if_pos (Disk.contains_of_locate hbackup), hformer]
  refine ⟨(disk.attempt (disk.copy (backup path) path)).2, ?_⟩
  rw [openAt, run_bind_of_ok (housed_of_locate hthere), run_bind_of_ok hload]
  show (Except.ok (FileStore.mk path (.ofList last.toList) false []), _) = _
  rw [Table.ofList_toList hkeyed]

/-- After two writes or more in which nothing failed, the file of a store may be replaced by any
text that is no document: the store is opened with the table that it had just before the last
write, and opened again with the same one. -/
theorem openAt_of_damaged (htemporary : Path.extension? path ≠ some "tmp")
    (hbackup : Path.extension? path ≠ some "backup") {earlier : Table} {rest : List Table}
    (h : Written path (last :: earlier :: rest) store disk)
    (hdamaged : Document.read? text = none) :
    ∃ damaged restored, disk.writeBytes path text.toUTF8 = .ok damaged ∧
      Script.run Disk.system (openAt path).run damaged = (.ok ⟨path, last, false, []⟩, restored) ∧
      Reopens path last restored := by
  have hbacked := h.backed htemporary hbackup
  obtain ⟨hkeyed, hlast⟩ := hbacked.former last earlier rest rfl
  have hcurrent := hbacked.current (by simp)
  obtain ⟨damaged, hwrite⟩ := (Disk.free_of_locate hcurrent).exists_writeBytes text.toUTF8
  have hspares : Disk.Spares (backup path) disk damaged :=
    Disk.spares_writeBytes (apart_backup hbackup).symm hwrite
  obtain ⟨restored, hopen⟩ := openAt_of_no_document hkeyed (Disk.locate_of_writeBytes hwrite)
    hdamaged (hspares.locate_iff.mpr hlast)
  exact ⟨damaged, restored, hwrite, hopen, reopens_of_run_openAt hopen⟩

/-! ### A file that is cut short -/

/-- A call for which the table is written through, on a disk where that works, is a write. -/
theorem Written.of_commit {call : StoreCall} {value : call.Value} {change : Option Change}
    (h : Written path tables store disk)
    (hanswer : store.answer call =
      commit { store with table := call.onTable store.table, dirty := true } value change)
    (hsucceeds : Succeeds Disk.system
      (replace store.path (Document.write (call.onTable store.table).toList)).run disk) :
    Written path (store.table :: tables) ((store.answer call).run Disk.system disk).1.2
      ((store.answer call).run Disk.system disk).2 := by
  obtain ⟨left, hrun, -⟩ := run_replace_of_succeeds hsucceeds
  refine h.wrote call ?_ (writesThrough_of_commit hanswer hrun)
  rw [hanswer]
  exact succeeds_commit_iff.mpr hsucceeds

/-- The disk on which a text was written into an empty directory. -/
def writtenOnce (text : String) : Disk :=
  (((Disk.empty.put ["objects.tmp"] (.file .empty)).put ["objects.tmp"]
    (.file (.empty ++ text.toUTF8))).clear ["objects.tmp"]).put ["objects.json"]
      (.file (.empty ++ text.toUTF8))

/-- A text is written into an empty directory. -/
theorem run_replace_empty (text : String) :
    Script.run Disk.system (replace "objects.json" text).run .empty =
      (.ok (), writtenOnce text) := by
  rw [replace_eq]
  rfl

/-- A second group that is declared. -/
def laterGroup : Manifest :=
  .resource .subnetGroup ⟨"public", "second", ["subnet-c", "subnet-d"]⟩

/-- Two groups are declared one after the other, and of the file nothing is left but its first
character. The store is opened with the first group. -/
theorem openAt_of_damaged_laterGroup :
    let declared := Table.empty.applied "private" keptGroup
    ∃ store disk damaged restored,
      Written "objects.json" [declared, .empty] store disk ∧
      disk.writeBytes "objects.json" "\x7b".toUTF8 = .ok damaged ∧
      Script.run Disk.system (openAt "objects.json").run damaged =
        (.ok ⟨"objects.json", declared, false, []⟩, restored) ∧
      Reopens "objects.json" declared restored := by
  intro declared
  let text := Document.write declared.toList
  have hopened : Written "objects.json" [] ⟨"objects.json", .empty, false, []⟩ .empty :=
    .opened (run_openAt_of_holds rfl (.inl ⟨rfl, rfl⟩))
  have hanswer : answer ⟨"objects.json", .empty, false, []⟩
      (.operate (.apply "private" keptGroup)) =
        commit ⟨"objects.json", declared, true, []⟩ (Declaration.fresh "private" keptGroup)
          (some (.applied ⟨.resource .subnetGroup, "private"⟩)) := rfl
  have hcall : (answer ⟨"objects.json", .empty, false, []⟩
      (.operate (.apply "private" keptGroup))).run Disk.system .empty =
        ((.ok (.fresh "private" keptGroup), ⟨"objects.json", declared, false, []⟩),
          writtenOnce text) := by
    rw [hanswer, run_commit, run_replace_empty]
    rfl
  have hempty : Succeeds Disk.system (replace "objects.json" text).run .empty :=
    succeeds_replace (Disk.free_of_writeBytes rfl) (Disk.free_of_writeBytes rfl)
      (Disk.free_of_writeBytes rfl) text
  have hfirst := hopened.of_commit hanswer hempty
  rw [hcall] at hfirst
  have hagain : answer ⟨"objects.json", declared, false, []⟩
      (.operate (.apply "public" laterGroup)) =
        commit ⟨"objects.json", declared.applied "public" laterGroup, true, []⟩
          (Declaration.fresh "public" laterGroup)
          (some (.applied ⟨.resource .subnetGroup, "public"⟩)) := rfl
  have hwritten : Succeeds Disk.system (replace "objects.json"
      (Document.write (declared.applied "public" laterGroup).toList)).run (writtenOnce text) :=
    succeeds_replace (Disk.free_of_writeBytes rfl) (Disk.free_of_writeBytes rfl)
      (Disk.free_of_writeBytes rfl) _
  have hsecond := hfirst.of_commit hagain hwritten
  -- the first text is the backup by now, and the second one is what gets damaged
  have hdamaged : Document.read? "\x7b" = none := rfl
  obtain ⟨damaged, restored, hwrite, hopen, hreopens⟩ :=
    openAt_of_damaged (by decide) (by decide) hsecond hdamaged
  exact ⟨_, _, damaged, restored, hsecond, hwrite, hopen, hreopens⟩

end FileStore

end Reconciler
