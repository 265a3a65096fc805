import Reconciler.Proofs.Store.Recovery

/-!
# Stores on files that fail at times

Any action of a write may fail, and a failed action may have done nothing, a part, or all of what it
was to do (`Disk.Attempted`). A store that writes on such files may fall behind them in the middle
of a write, but it knows: whenever it is not dirty, its table is what is read at its path, and an
operation that writes and answers without an error leaves it so, whatever failed before
(`openAt_of_tried`). The one failure that a write survives is that of the copy of the former text,
and a copy, complete or not, leaves the collected text alone.
-/

set_option autoImplicit false

namespace Reconciler

open Files

/-! ## Actions that may fail -/

/-- What an action may come to on files that fail at times: it does what it does on a disk, or it
answers with a failure and leaves the disk as it was, or changed in part, or changed. -/
def Disk.Attempted (disk : Disk) (call : FileCall) (answer : call.Answer) (left : Disk) : Prop :=
  Disk.system call disk = (answer, left) ∨
    ¬ call.Succeeded answer ∧
      (left = disk ∨ disk.Partly call left ∨ left = (Disk.system call disk).2)

/-- A file system over a disk on which any action may fail. Nothing else changes the disk. -/
def Files.Fallible {φ : Type} (system : FileSystem φ) (disk : φ → Disk) : Prop :=
  ∀ call files, (disk files).Attempted call (system call files).1 (disk (system call files).2)

namespace Disk

variable {disk left : Disk}

/-- An attempted action that succeeds does what it does on a disk. -/
theorem Attempted.eq_of_succeeded {call : FileCall} {answer : call.Answer}
    (h : disk.Attempted call answer left) (hanswer : call.Succeeded answer) :
    Disk.system call disk = (answer, left) :=
  h.resolve_right fun hfailed => hfailed.1 hanswer

/-- A copy that may fail leaves the disk alone or writes some bytes to its target. -/
theorem Attempted.copy_cases {source target : String} {answer : Except FileError Unit}
    (h : disk.Attempted (.copy source target) answer left) :
    left = disk ∨ ∃ bytes, disk.writeBytes target bytes = .ok left := by
  have hdone : ∀ after, after = (Disk.system (.copy source target) disk).2 →
      after = disk ∨ ∃ bytes, disk.writeBytes target bytes = .ok after := by
    have hsystem : Disk.system (.copy source target) disk =
        disk.attempt (disk.copy source target) := rfl
    rintro _ rfl
    rw [hsystem]
    cases hcopy : disk.copy source target with
    | error error => exact .inl rfl
    | ok after => exact .inr (copy_of_ok hcopy)
  rcases h with hsystem | ⟨-, hsame | hpartly | hall⟩
  · exact hdone left (congrArg Prod.snd hsystem).symm
  · exact .inl hsame
  · cases hpartly with
    | copy count _ hwrite => exact .inr ⟨_, hwrite⟩
  · exact hdone left hall

end Disk

/-- Whether a call that answers a value is to have written the table. -/
def StoreCall.Durable : (call : StoreCall) → call.Value → Prop
  | .operate (.apply _ _), _ => True
  | .operate (.delete _), removed => removed = true
  | .operate (.updateStatus _ _ _), _ => True
  | .operate (.get _), _ => False
  | .list _, _ => False
  | .flush, _ => True

namespace FileStore

variable {φ : Type} {system : FileSystem φ} {disk : φ → Disk} {path text : String}
  {store : FileStore} {table : Table} {files left : φ}

/-! ## A write that works -/

/-- A write that answers without an error has put the text in place, whether or not the former
text could be copied. -/
theorem locate_of_run_replace (hfallible : Fallible system disk)
    (h : Script.run system (replace path text).run files = (.ok (), left)) :
    (disk left).locate path = .ok (some (.file text.toUTF8)) := by
  obtain ⟨course⟩ := exists_course h
  have hcreate := hfallible (.create (temporary path)) files
  have happend := hfallible (.append (temporary path) text) course.created
  have hflush := hfallible (.flush (temporary path)) course.collected
  have hexists := hfallible (.exists path) course.flushed
  have hcopy := hfallible (.copy path (backup path)) course.seen
  have hrename := hfallible (.rename (temporary path) path) course.kept
  rw [course.create_eq] at hcreate
  rw [course.append_eq] at happend
  rw [course.flush_eq] at hflush
  rw [course.exists_eq] at hexists
  rw [course.rename_eq] at hrename
  -- the text is collected
  have hcreated := Disk.eq_ok_of_attempt (hcreate.eq_of_succeeded rfl)
  have hcollected := Disk.locate_of_append (Disk.locate_of_writeBytes hcreated)
    (Disk.eq_ok_of_attempt (happend.eq_of_succeeded rfl))
  have hflushed : disk course.collected = disk course.flushed :=
    congrArg Prod.snd (hflush.eq_of_succeeded rfl)
  have hseen : disk course.flushed = disk course.seen :=
    congrArg Prod.snd (hexists.eq_of_succeeded trivial)
  rw [hflushed, hseen] at hcollected
  -- it stays while the former text is copied
  have hkept : (disk course.kept).locate (temporary path) = .ok (some (.file text.toUTF8)) := by
    rw [course.kept_eq]
    split
    · rcases hcopy.copy_cases with hsame | ⟨former, hwrite⟩
      · rw [hsame]
        exact hcollected
      · exact locate_temporary_of_writeBytes hcollected hwrite
    · exact hcollected
  exact Disk.locate_of_rename hkept (Disk.eq_ok_of_attempt (hrename.eq_of_succeeded rfl))

/-! ## Stores that know what was written -/

/-- A store that was opened at a path, and what it has come to by its own calls on files that may
fail at any action. -/
inductive Tried (system : FileSystem φ) (disk : φ → Disk) (path : String) :
    FileStore → φ → Prop where
  | opened {store : FileStore} {before : Disk} {files : φ}
      (hopen : Script.run Disk.system (openAt path).run before = (.ok store, disk files)) :
      Tried system disk path store files
  | called {store : FileStore} {files : φ} (call : StoreCall)
      (h : Tried system disk path store files) :
      Tried system disk path ((store.answer call).run system files).1.2
        ((store.answer call).run system files).2
  | watched {store : FileStore} {files : φ} (watches : Watches)
      (h : Tried system disk path store files) :
      Tried system disk path { store with watches } files

/-- A store that knows when its table is not what is read at its path. -/
structure Aware (path : String) (store : FileStore) (disk : Disk) : Prop where
  path_eq : store.path = path
  keyed : store.table.Keyed
  written : store.dirty = false → Reopens path store.table disk

/-- Writing the table through leaves a store aware: it is on the disk, or the store is dirty. -/
theorem aware_commit {α : Type} (hfallible : Fallible system disk) (store : FileStore)
    (hpath : store.path = path) (hkeyed : store.table.Keyed) (hdirty : store.dirty = true)
    (value : α) (change : Option Change) (files : φ) :
    Aware path ((commit store value change).run system files).1.2
      (disk ((commit store value change).run system files).2) := by
  rw [run_commit]
  rcases hwrite : Script.run system
    (replace store.path (Document.write store.table.toList)).run files with ⟨error | _, left⟩
  · refine ⟨hpath, hkeyed, fun hclean => ?_⟩
    rw [hdirty] at hclean
    cases hclean
  · have hlocate := locate_of_run_replace hfallible hwrite
    rw [hpath] at hlocate
    exact ⟨hpath, hkeyed, fun _ => reopens_of_locate hkeyed hlocate⟩

/-- A store stays aware of what it has not written over every call. -/
theorem Aware.answer (hfallible : Fallible system disk) (h : Aware path store (disk files))
    (call : StoreCall) :
    Aware path ((store.answer call).run system files).1.2
      (disk ((store.answer call).run system files).2) := by
  rcases store.answer_cases call with ⟨answer, hanswer, -⟩ | ⟨value, change, hanswer⟩
  · rw [hanswer]
    exact h
  · rw [hanswer]
    exact aware_commit hfallible { store with table := call.onTable store.table, dirty := true }
      h.path_eq (keyed_onTable h.keyed call) rfl value change files

/-- A store on files that fail at times is aware of what it has not written. -/
theorem Tried.aware (hfallible : Fallible system disk) (h : Tried system disk path store files) :
    Aware path store (disk files) := by
  induction h with
  | opened hopen =>
    obtain ⟨hpath, hkeyed, -⟩ := housed_of_run_openAt hopen
    exact ⟨hpath, hkeyed, fun _ => reopens_of_run_openAt hopen⟩
  | called call h ih => exact ih.answer hfallible call
  | watched watches h ih => exact ⟨ih.path_eq, ih.keyed, ih.written⟩

/-! ## Operations that last -/

/-- A commit that answers a value leaves a store that is not dirty. -/
theorem dirty_of_run_commit {α : Type} {value answer : α} {change : Option Change}
    {after : FileStore}
    (h : (commit store value change).run system files = ((.ok answer, after), left)) :
    after.dirty = false := by
  rw [run_commit] at h
  split at h
  · cases h
    rfl
  · cases h

/-- A durable call that answers leaves nothing unwritten. -/
theorem dirty_of_durable {call : StoreCall} {value : call.Value} {after : FileStore}
    (hrun : (store.answer call).run system files = ((.ok value, after), left))
    (hdurable : call.Durable value) : after.dirty = false := by
  cases call with
  | list kind => exact hdurable.elim
  | flush =>
    simp only [answer, flush] at hrun
    cases hdirty : store.dirty with
    | false =>
      rw [hdirty, if_neg Bool.false_ne_true] at hrun
      cases hrun
      exact hdirty
    | true =>
      rw [hdirty, if_pos rfl, ← commit_unit] at hrun
      exact dirty_of_run_commit hrun
  | operate operation =>
    cases operation with
    | get key => exact hdurable.elim
    | apply name manifest =>
      simp only [answer, perform, apply] at hrun
      split at hrun
      · cases hrun
      · exact dirty_of_run_commit hrun
    | delete key =>
      obtain rfl : value = true := hdurable
      simp only [answer, perform, delete] at hrun
      split at hrun
      · exact dirty_of_run_commit hrun
      · cases hrun
    | updateStatus key expected status =>
      simp only [answer, perform, updateStatus] at hrun
      split at hrun
      · cases hrun
      · exact dirty_of_run_commit hrun

/-- On files that may fail at any action, a store that is not dirty has the table with which it
would be opened again, and so has every store after a call that has written and answers without
an error. -/
theorem openAt_of_tried (hfallible : Fallible system disk)
    (htried : Tried system disk path store files) :
    (store.dirty = false → Reopens path store.table (disk files)) ∧
      ∀ (call : StoreCall) (value : call.Value) (after : FileStore) (left : φ),
        (store.answer call).run system files = ((.ok value, after), left) → call.Durable value →
          Reopens path after.table (disk left) := by
  refine ⟨(htried.aware hfallible).written, fun call value after left hrun hdurable => ?_⟩
  have haware := (htried.called call).aware hfallible
  rw [hrun] at haware
  exact haware.written (dirty_of_durable hrun hdurable)

/-! ### A flush after a failure -/

/-- A disk on which the first attempt to move a file fails. -/
def stumbling : FileSystem (Disk × Bool)
  | .rename source target, (disk, stumbled) =>
    if stumbled then
      ((Disk.system (.rename source target) disk).1,
        (Disk.system (.rename source target) disk).2, stumbled)
    else (.error (.other "Input/output error (os error 5)"), disk, true)
  | call, (disk, stumbled) => ((Disk.system call disk).1, (Disk.system call disk).2, stumbled)

/-- A disk that stumbles once is one on which an action may fail. -/
theorem fallible_stumbling : Fallible stumbling Prod.fst := by
  rintro call ⟨disk, stumbled⟩
  cases call with
  | rename source target =>
    cases stumbled with
    | true => exact .inl rfl
    | false => exact .inr ⟨nofun, .inl rfl⟩
  | _ => exact .inl rfl

/-- The disk on which a text was collected and not moved into place. -/
def collectedOnly (text : String) : Disk :=
  (Disk.empty.put ["objects.tmp"] (.file .empty)).put ["objects.tmp"]
    (.file (.empty ++ text.toUTF8))

/-- The first writing collects its text and stumbles when it is moved into place. -/
theorem run_replace_stumbling (text : String) :
    Script.run stumbling (replace "objects.json" text).run (.empty, false) =
      (.error (.store
          "Failed to rename objects.tmp to objects.json: Input/output error (os error 5)"),
        collectedOnly text, true) := by
  rw [replace_eq]
  rfl

/-- The second writing does not stumble. -/
theorem run_replace_stumbled (text again : String) :
    (Script.run stumbling (replace "objects.json" again).run (collectedOnly text, true)).1 =
      .ok () := by
  rw [replace_eq]
  rfl

/-- A group is declared in a store without objects, and is in its table though the temporary file
could not be moved into place. The flush that follows writes it. -/
theorem openAt_of_tried_stumbling :
    let store : FileStore := ⟨"objects.json", .empty, false, []⟩
    let declared := Table.empty.applied "private" keptGroup
    let behind : FileStore := { store with table := declared, dirty := true }
    ∃ error files after left,
      (store.answer (.operate (.apply "private" keptGroup))).run stumbling (.empty, false) =
        ((.error error, behind), files) ∧
      (behind.answer .flush).run stumbling files = ((.ok (), after), left) ∧
      Reopens "objects.json" declared left.1 := by
  intro store declared behind
  let text := Document.write declared.toList
  have hopened : Tried stumbling Prod.fst "objects.json" store (.empty, false) :=
    .opened (run_openAt_of_holds rfl (.inl ⟨rfl, rfl⟩))
  have hfirst : (store.answer (.operate (.apply "private" keptGroup))).run stumbling
      (.empty, false) = ((.error (.store
        "Failed to rename objects.tmp to objects.json: Input/output error (os error 5)"), behind),
          collectedOnly text, true) := by
    show (commit behind (Declaration.fresh "private" keptGroup) _).run stumbling (.empty, false) = _
    rw [run_commit, run_replace_stumbling]
  have htried := hopened.called (.operate (.apply "private" keptGroup))
  rw [hfirst] at htried
  have hflush : behind.answer .flush = commit behind () none := (commit_unit behind).symm
  obtain ⟨left, hwrite⟩ : ∃ left, Script.run stumbling (replace "objects.json" text).run
      (collectedOnly text, true) = (.ok (), left) :=
    ⟨_, Prod.ext (run_replace_stumbled text text) rfl⟩
  have hsecond : (behind.answer .flush).run stumbling (collectedOnly text, true) =
      ((.ok (), { behind with dirty := false }), left) := by
    rw [hflush, run_commit, hwrite]
    rfl
  exact ⟨_, _, _, left, hfirst, hsecond,
    (openAt_of_tried fallible_stumbling htried).2 .flush () _ left hsecond trivial⟩

end FileStore

end Reconciler
