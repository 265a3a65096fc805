import Reconciler.Proofs.Trace
import Reconciler.Store.FileCall

/-!
# Runs in which every action succeeds

A run of a computation on files in which no action fails (`Files.Succeeds`), or at least none that
puts a text in place (`Files.WritesSucceed`), and how such runs are put together and taken apart
along the computation.
-/

set_option autoImplicit false

namespace Reconciler

/-- Whether an answer tells of no failure. -/
def FileCall.Succeeded : (call : FileCall) → call.Answer → Prop
  | .exists _, _ => True
  | .isFile _, _ => True
  | .makeDirectories _, answer => answer = .ok ()
  | .readText _, answer => ∃ text, answer = .ok text
  | .create _, answer => answer = .ok ()
  | .append _ _, answer => answer = .ok ()
  | .flush _, answer => answer = .ok ()
  | .copy _ _, answer => answer = .ok ()
  | .rename _ _, answer => answer = .ok ()

/-- Whether an action takes part in putting a new text in the place of a former one. Copying the
former text aside does not, and may fail. -/
def FileCall.isWrite : FileCall → Bool
  | .create _ => true
  | .append _ _ => true
  | .flush _ => true
  | .rename _ _ => true
  | _ => false

namespace Files

/-- Every action of a run succeeds. -/
def Succeeds {α φ : Type} (system : FileSystem φ) (script : Files α) (files : φ) : Prop :=
  ∀ entry ∈ script.trace system files, entry.1.Succeeded (system entry.1 entry.2).1

/-- Every write of a run succeeds. -/
def WritesSucceed {α φ : Type} (system : FileSystem φ) (script : Files α) (files : φ) : Prop :=
  ∀ entry ∈ script.trace system files,
    entry.1.isWrite = true → entry.1.Succeeded (system entry.1 entry.2).1

variable {α β ε φ : Type} {system : FileSystem φ} {files left : φ}

/-- No action of a finished computation fails. -/
theorem succeeds_done (value : α) : Succeeds system (.done value) files := by
  simp [Succeeds]

/-- No action fails when the first one does not and none of the others does. -/
theorem succeeds_ask_iff {call : FileCall} {next : call.Answer → Files α} :
    Succeeds system (.ask call next) files ↔
      call.Succeeded (system call files).1 ∧
        Succeeds system (next (system call files).1) (system call files).2 := by
  simp [Succeeds]

/-- No action of two computations in a row fails when none of either does. -/
theorem succeeds_bind_iff {script : Files α} {next : α → Files β} :
    Succeeds system (script.bind next) files ↔
      Succeeds system script files ∧
        Succeeds system (next (script.run system files).1) (script.run system files).2 := by
  simp only [Succeeds, Script.trace_bind, List.forall_mem_append]

/-! ## Runs in which every write succeeds -/

/-- No write fails where no action is taken. -/
theorem writesSucceed_of_trace_nil {script : Files α} (h : script.trace system files = []) :
    WritesSucceed system script files := by
  intro entry hentry
  rw [h] at hentry
  cases hentry

/-- No write fails when the first action is none that fails and none of the others is. -/
theorem writesSucceed_ask_iff {call : FileCall} {next : call.Answer → Files α} :
    WritesSucceed system (.ask call next) files ↔
      (call.isWrite = true → call.Succeeded (system call files).1) ∧
        WritesSucceed system (next (system call files).1) (system call files).2 := by
  simp [WritesSucceed]

/-- No write of two computations in a row fails when none of either does. -/
theorem writesSucceed_bind_iff {script : Files α} {next : α → Files β} :
    WritesSucceed system (script.bind next) files ↔
      WritesSucceed system script files ∧
        WritesSucceed system (next (script.run system files).1) (script.run system files).2 := by
  simp only [WritesSucceed, Script.trace_bind, List.forall_mem_append]

/-- When no action fails, no write does. -/
theorem Succeeds.writesSucceed {script : Files α} (h : Succeeds system script files) :
    WritesSucceed system script files :=
  fun entry hentry _ => h entry hentry

/-! ## Runs that may fail -/

/-- A computation goes on with the value of its first part. -/
theorem run_bind_of_ok {first : ExceptT ε Files α} {next : α → ExceptT ε Files β} {value : α}
    (h : Script.run system first.run files = (.ok value, left)) :
    Script.run system (first >>= next).run files = Script.run system (next value).run left := by
  show Script.run system (Script.bind first.run (ExceptT.bindCont next)) files = _
  rw [Script.run_bind, h]
  rfl

/-- A value comes from a value of the first part. -/
theorem exists_of_run_bind_eq_ok {first : ExceptT ε Files α} {next : α → ExceptT ε Files β}
    {value : β} (h : Script.run system (first >>= next).run files = (.ok value, left)) :
    ∃ middle between, Script.run system first.run files = (.ok middle, between) ∧
      Script.run system (next middle).run between = (.ok value, left) := by
  replace h : Script.run system (Script.bind first.run (ExceptT.bindCont next)) files =
    (.ok value, left) := h
  rw [Script.run_bind] at h
  rcases hfirst : Script.run system first.run files with ⟨error | middle, between⟩
  · rw [hfirst] at h
    cases h
  · rw [hfirst] at h
    exact ⟨middle, between, rfl, h⟩

/-- When no action of two parts fails, none of the first part does. -/
theorem Succeeds.first {first : ExceptT ε Files α} {next : α → ExceptT ε Files β}
    (h : Succeeds system (first >>= next).run files) : Succeeds system first.run files :=
  (succeeds_bind_iff.mp h).1

/-- When no action of two parts fails, none of the second part does. -/
theorem Succeeds.next {first : ExceptT ε Files α} {next : α → ExceptT ε Files β} {value : α}
    (h : Succeeds system (first >>= next).run files)
    (hfirst : Script.run system first.run files = (.ok value, left)) :
    Succeeds system (next value).run left := by
  have hnext := (succeeds_bind_iff.mp h).2
  have hrun : Script.run system first files = (.ok value, left) := hfirst
  rw [hrun] at hnext
  exact hnext

/-- No action of two parts fails when none of the first does and none of the second after it. -/
theorem succeeds_bind_of_run {first : ExceptT ε Files α} {next : α → ExceptT ε Files β}
    {value : α} (hfirst : Succeeds system first.run files)
    (hrun : Script.run system first.run files = (.ok value, left))
    (hnext : Succeeds system (next value).run left) :
    Succeeds system (first >>= next).run files := by
  refine succeeds_bind_iff.mpr ⟨hfirst, ?_⟩
  have hfirst : Script.run system first files = (.ok value, left) := hrun
  rw [hfirst]
  exact hnext

/-- A computation that cannot refuse answers its value. -/
theorem run_lift (system : FileSystem φ) (script : Files α) (files : φ) :
    Script.run system (ExceptT.run (liftM script : ExceptT ε Files α)) files =
      (.ok (script.run system files).1, (script.run system files).2) := by
  show Script.run system (Script.bind script fun value => .done (Except.ok value)) files = _
  rw [Script.run_bind]
  rfl

/-- A computation that cannot refuse succeeds as it does without an error to answer. -/
theorem succeeds_lift_iff {script : Files α} :
    Succeeds system (ExceptT.run (liftM script : ExceptT ε Files α)) files ↔
      Succeeds system script files := by
  show Succeeds system (Script.bind script fun value => .done (Except.ok value)) files ↔ _
  rw [succeeds_bind_iff, and_iff_left (succeeds_done _)]

end Files

end Reconciler
