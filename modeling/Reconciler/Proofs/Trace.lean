import Reconciler.Script

/-!
# What a script asks

Three views of the questions of a script. `Script.Asks` speaks of the script alone: every
question that it may ever ask, whatever the answers are, is of a given sort. The other two speak
of one run: `Script.trace` has the questions in order, each together with what the outside party
remembers at the moment at which it is asked, and `Script.dialogue` has each with its answer. What
a script may ask is all that a run asks (`Asks.of_mem_trace`), and an invariant of the outside
party that the questions of a sort keep holds after the run (`Asks.run_invariant`).
-/

set_option autoImplicit false

namespace Reconciler.Script

variable {Query : Type} {Answer : Query → Type} {α β σ : Type}

/-! ## Every question of a script -/

/-- A script that asks questions of one sort only, whatever the answers are. -/
def Asks (p : Query → Prop) : Script Query Answer α → Prop
  | .done _ => True
  | .ask query next => p query ∧ ∀ answer, Asks p (next answer)

/-- Two scripts in a row ask questions of one sort when both do. -/
theorem Asks.bind {p : Query → Prop} {script : Script Query Answer α}
    {f : α → Script Query Answer β} (hscript : script.Asks p) (hf : ∀ value, (f value).Asks p) :
    (script.bind f).Asks p := by
  induction script with
  | done value => exact hf value
  | ask query next ih =>
    obtain ⟨hquery, hnext⟩ := hscript
    exact ⟨hquery, fun answer => ih answer (hnext answer)⟩

/-- A weaker sort takes in the questions of a stronger one. -/
theorem Asks.imp {p q : Query → Prop} {script : Script Query Answer α} (h : script.Asks p)
    (himp : ∀ query, p query → q query) : script.Asks q := by
  induction script with
  | done value => trivial
  | ask query next ih => exact ⟨himp query h.1, fun answer => ih answer (h.2 answer)⟩

/-- The questions of a script in another form are those of the script, put into that form. -/
theorem asks_mapQueries {Query' : Type} {Answer' : Query' → Type} {p : Query' → Prop}
    (ask : Query → Query') (back : (query : Query) → Answer' (ask query) → Answer query)
    {script : Script Query Answer α} (h : script.Asks fun query => p (ask query)) :
    (script.mapQueries ask back).Asks p := by
  induction script with
  | done value => trivial
  | ask query next ih => exact ⟨h.1, fun answer => ih _ (h.2 _)⟩

/-! ## The questions of a run -/

/-- The questions that a run asks, in order, each with the memory of the outside party when
it is asked. -/
def trace (handler : Handler Query Answer σ) : Script Query Answer α → σ → List (Query × σ)
  | .done _, _ => []
  | .ask query next, s =>
    (query, s) :: trace handler (next (handler query s).1) (handler query s).2

/-- A finished script asks nothing. -/
@[simp]
theorem trace_done (handler : Handler Query Answer σ) (value : α) (s : σ) :
    (Script.done value : Script Query Answer α).trace handler s = [] := rfl

/-- A question comes before the questions of what goes on with its answer. -/
@[simp]
theorem trace_ask (handler : Handler Query Answer σ) (query : Query)
    (next : Answer query → Script Query Answer α) (s : σ) :
    (Script.ask query next).trace handler s =
      (query, s) :: (next (handler query s).1).trace handler (handler query s).2 := rfl

/-- The trace of two scripts in a row is that of the first and then that of the second. -/
theorem trace_bind (handler : Handler Query Answer σ) (script : Script Query Answer α)
    (f : α → Script Query Answer β) (s : σ) :
    (script.bind f).trace handler s =
      script.trace handler s ++
        (f (script.run handler s).1).trace handler (script.run handler s).2 := by
  induction script generalizing s with
  | done value => rfl
  | ask query next ih => exact congrArg ((query, s) :: ·) (ih _ _)

/-- The trace of a run without the memories is what the run asks. -/
theorem map_fst_trace (handler : Handler Query Answer σ) (script : Script Query Answer α)
    (s : σ) : (script.trace handler s).map Prod.fst = script.asked handler s := by
  induction script generalizing s with
  | done value => rfl
  | ask query next ih => exact congrArg (query :: ·) (ih _ _)

/-- Two scripts in a row ask the questions of the first and then those of the second. -/
theorem asked_bind (handler : Handler Query Answer σ) (script : Script Query Answer α)
    (f : α → Script Query Answer β) (s : σ) :
    (script.bind f).asked handler s =
      script.asked handler s ++
        (f (script.run handler s).1).asked handler (script.run handler s).2 := by
  simp only [← map_fst_trace, trace_bind, List.map_append]

/-- The questions that a run asks, in order, each with the answer that it gets. -/
def dialogue (handler : Handler Query Answer σ) :
    Script Query Answer α → σ → List ((query : Query) × Answer query)
  | .done _, _ => []
  | .ask query next, s =>
    ⟨query, (handler query s).1⟩ ::
      dialogue handler (next (handler query s).1) (handler query s).2

/-- The dialogue of a run is its trace with the answers in place of the memories. -/
theorem dialogue_eq_map_trace (handler : Handler Query Answer σ) (script : Script Query Answer α)
    (s : σ) :
    script.dialogue handler s =
      (script.trace handler s).map fun entry => ⟨entry.1, (handler entry.1 entry.2).1⟩ := by
  induction script generalizing s with
  | done value => rfl
  | ask query next ih => exact congrArg (⟨query, (handler query s).1⟩ :: ·) (ih _ _)

/-- The dialogue of two scripts in a row is that of the first and then that of the second. -/
theorem dialogue_bind (handler : Handler Query Answer σ) (script : Script Query Answer α)
    (f : α → Script Query Answer β) (s : σ) :
    (script.bind f).dialogue handler s =
      script.dialogue handler s ++
        (f (script.run handler s).1).dialogue handler (script.run handler s).2 := by
  simp only [dialogue_eq_map_trace, trace_bind, List.map_append]

/-- The dialogue of a run without the answers is what the run asks. -/
theorem map_fst_dialogue (handler : Handler Query Answer σ) (script : Script Query Answer α)
    (s : σ) : (script.dialogue handler s).map Sigma.fst = script.asked handler s := by
  rw [dialogue_eq_map_trace, List.map_map, ← map_fst_trace]
  rfl

/-- A run asks no question that the script may not ask. -/
theorem Asks.of_mem_trace {p : Query → Prop} {handler : Handler Query Answer σ}
    {script : Script Query Answer α} (h : script.Asks p) {s : σ} {entry : Query × σ}
    (hentry : entry ∈ script.trace handler s) : p entry.1 := by
  induction script generalizing s with
  | done value => simp at hentry
  | ask query next ih =>
    rcases List.mem_cons.mp hentry with rfl | hrest
    · exact h.1
    · exact ih _ (h.2 _) hrest

/-- What a script asks in a run is what it may ask. -/
theorem Asks.of_mem_asked {p : Query → Prop} {handler : Handler Query Answer σ}
    {script : Script Query Answer α} (h : script.Asks p) {s : σ} {query : Query}
    (hquery : query ∈ script.asked handler s) : p query := by
  rw [← map_fst_trace] at hquery
  obtain ⟨entry, hentry, rfl⟩ := List.mem_map.mp hquery
  exact h.of_mem_trace hentry

/-- What the questions of a sort keep in the memory of the outside party holds after a run of
a script that asks no others. -/
theorem Asks.run_invariant {p : Query → Prop} (invariant : σ → Prop)
    {handler : Handler Query Answer σ}
    (keeps : ∀ query s, p query → invariant s → invariant (handler query s).2)
    {script : Script Query Answer α} (h : script.Asks p) {s : σ} (hs : invariant s) :
    invariant (script.run handler s).2 := by
  induction script generalizing s with
  | done value => exact hs
  | ask query next ih => exact ih _ (h.2 _) (keeps query s h.1 hs)

end Reconciler.Script
