import Reconciler.Proofs.Trace
import Reconciler.Store.File

/-!
# The actions of a store in a file

Each computation of a store in a file written out as the actions that it takes, one after the
other, so that a run of it can be followed action by action.
-/

set_option autoImplicit false

namespace Reconciler

open Files

/-- Goes on after an action on files, or is done with an error made from its failure. -/
def Files.check {α : Type} (answer : Except FileError Unit) (refusal : FileError → Error)
    (next : Files (Except Error α)) : Files (Except Error α) :=
  match answer with
  | .ok () => next
  | .error error => .done (.error (refusal error))

namespace FileStore

def moveIntoPlace (path : String) : Files (Except Error Unit) :=
  .ask (.rename (temporary path) path) fun renamed => check renamed (fun error =>
    .store s!"Failed to rename {temporary path} to {path}: {error.message}") (.done (.ok ()))

/-- A writing makes the temporary file, adds the text, flushes it, keeps a former text as the
backup, and moves the new one into place. -/
theorem replace_eq (path text : String) :
    (replace path text).run =
      .ask (.create (temporary path)) fun created => check created (fun error =>
          .store s!"Failed to create temp file {temporary path}: {error.message}") <|
        .ask (.append (temporary path) text) fun appended => check appended (fun error =>
            .store s!"Failed to write to temp file {temporary path}: {error.message}") <|
          .ask (.flush (temporary path)) fun flushed => check flushed (fun error =>
              .store s!"Failed to flush temp file {temporary path}: {error.message}") <|
            .ask (.exists path) fun there =>
              if there then .ask (.copy path (backup path)) fun _ => moveIntoPlace path
              else moveIntoPlace path := by
  have hmove : (require (act (.rename (temporary path) path)) fun error =>
      Error.store s!"Failed to rename {temporary path} to {path}: {error.message}").run =
        moveIntoPlace path := by
    refine congrArg (Script.ask _) (funext fun renamed => ?_)
    cases renamed <;> rfl
  refine congrArg (Script.ask _) (funext fun created => ?_)
  cases created with
  | error error => rfl
  | ok _ =>
    refine congrArg (Script.ask _) (funext fun appended => ?_)
    cases appended with
    | error error => rfl
    | ok _ =>
      refine congrArg (Script.ask _) (funext fun flushed => ?_)
      cases flushed with
      | error error => rfl
      | ok _ =>
        refine congrArg (Script.ask _) (funext fun there => ?_)
        cases there with
        | false => exact hmove
        | true => exact congrArg (Script.ask _) (funext fun _ => hmove)

/-- Loading reads the document in the file, if there is one. -/
theorem load_eq (path : String) :
    (load path).run =
      .ask (.exists path) fun there =>
        if there then .ask (.readText path) fun answer => match answer with
          | .error error => .done (.error (.store
            s!"Failed to read store file {path}: {error.message}"))
          | .ok text => match Document.read? text with
            | some objects => .done (.ok objects)
            | none => .done (.error .json)
        else .done (.ok []) := by
  refine congrArg (Script.ask _) (funext fun there => ?_)
  cases there with
  | false => rfl
  | true =>
    refine congrArg (Script.ask _) (funext fun answer => ?_)
    cases answer with
    | error error => rfl
    | ok text =>
      show ExceptT.run (match Document.read? text with
        | some objects => (pure objects : ExceptT Error Files (List Declaration))
        | none => throw Error.json) = match Document.read? text with
          | some objects => .done (.ok objects)
          | none => .done (.error .json)
      cases Document.read? text <;> rfl

/-- The directory of a path is made unless the path has none or something is there. -/
theorem makeParent_eq (path : String) :
    (makeParent path).run = match Path.parent? path with
      | none => .done (.ok ())
      | some parent =>
        if parent = "" then .done (.ok ())
        else .ask (.exists parent) fun there =>
          if there then .done (.ok ())
          else .ask (.makeDirectories parent) fun made => check made (fun error =>
            .config s!"Failed to create store directory {parent}: {error.message}")
              (.done (.ok ())) := by
  unfold makeParent
  cases Path.parent? path with
  | none => rfl
  | some parent =>
    dsimp only
    split
    · next h => cases h
    · next h =>
      cases h
      rfl
    · next parent hne h =>
      cases h
      rw [if_neg hne]
      refine congrArg (Script.ask _) (funext fun there => ?_)
      cases there with
      | true => rfl
      | false =>
        refine congrArg (Script.ask _) (funext fun made => ?_)
        cases made <;> rfl

/-! ## A writing that works -/

/-- A writing that works, followed action by action: what the file system remembers after each of
them. Whether the former text could be copied is not asked. -/
structure Course {φ : Type} (system : FileSystem φ) (path text : String) (files left : φ) where
  created : φ
  collected : φ
  flushed : φ
  there : Bool
  seen : φ
  kept : φ
  create_eq : system (.create (temporary path)) files = (.ok (), created)
  append_eq : system (.append (temporary path) text) created = (.ok (), collected)
  flush_eq : system (.flush (temporary path)) collected = (.ok (), flushed)
  exists_eq : system (.exists path) flushed = (there, seen)
  kept_eq : kept = if there then (system (.copy path (backup path)) seen).2 else seen
  rename_eq : system (.rename (temporary path) path) kept = (.ok (), left)

variable {φ : Type} {system : FileSystem φ} {path text : String} {files left : φ}

/-- A text that was moved into place was renamed. -/
theorem rename_of_run_moveIntoPlace (h : (moveIntoPlace path).run system files = (.ok (), left)) :
    system (.rename (temporary path) path) files = (.ok (), left) := by
  rw [moveIntoPlace, Script.run_ask] at h
  rcases hrename : system (.rename (temporary path) path) files with ⟨error | _, moved⟩
  · rw [hrename] at h
    cases h
  · rw [hrename] at h
    cases h
    rfl

/-- A writing that works took some course. -/
theorem exists_course (h : Script.run system (replace path text).run files = (.ok (), left)) :
    Nonempty (Course system path text files left) := by
  rw [replace_eq, Script.run_ask] at h
  rcases hcreate : system (.create (temporary path)) files with ⟨error | _, created⟩
  · rw [hcreate] at h
    cases h
  rw [hcreate] at h
  simp only [check, Script.run_ask] at h
  rcases happend : system (.append (temporary path) text) created with ⟨error | _, collected⟩
  · rw [happend] at h
    cases h
  rw [happend] at h
  simp only [Script.run_ask] at h
  rcases hflush : system (.flush (temporary path)) collected with ⟨error | _, flushed⟩
  · rw [hflush] at h
    cases h
  rw [hflush] at h
  simp only [Script.run_ask] at h
  rcases hlook : system (.exists path) flushed with ⟨_ | _, seen⟩
  · rw [hlook, if_neg Bool.false_ne_true] at h
    exact ⟨⟨_, _, _, _, _, seen, hcreate, happend, hflush, hlook, rfl,
      rename_of_run_moveIntoPlace h⟩⟩
  · rw [hlook, if_pos rfl, Script.run_ask] at h
    exact ⟨⟨_, _, _, _, _, _, hcreate, happend, hflush, hlook, rfl,
      rename_of_run_moveIntoPlace h⟩⟩

/-- The actions of a writing are those of its course, in order. -/
theorem Course.trace_eq (course : Course system path text files left) :
    (replace path text).run.trace system files =
      [(.create (temporary path), files), (.append (temporary path) text, course.created),
        (.flush (temporary path), course.collected), (.exists path, course.flushed)] ++
        (if course.there then [(.copy path (backup path), course.seen)] else []) ++
          [(.rename (temporary path) path, course.kept)] := by
  obtain ⟨created, collected, flushed, there, seen, kept, hcreate, happend, hflush, hlook, hkept,
    hrename⟩ := course
  have hmove : (moveIntoPlace path).trace system kept =
      [(.rename (temporary path) path, kept)] := by
    rw [moveIntoPlace, Script.trace_ask, hrename]
    rfl
  rw [replace_eq, Script.trace_ask, hcreate]
  simp only [check, Script.trace_ask, happend, hflush, hlook]
  cases there with
  | false =>
    rw [if_neg Bool.false_ne_true] at hkept
    rw [← hkept, if_neg Bool.false_ne_true, hmove]
    rfl
  | true =>
    rw [if_pos rfl] at hkept
    rw [if_pos rfl, Script.trace_ask, ← hkept, hmove]
    rfl

end FileStore

end Reconciler
