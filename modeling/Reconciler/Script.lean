/-!
# Scripts

A computation that asks an outside party questions and goes on with the answers. A script
is a finite tree: it either is done with a value or asks one question and has a script for
every answer. Running it against a handler is a fold, so what was asked, in which order, and
what would have happened with other answers are all plain facts about a value.
-/

set_option autoImplicit false

namespace Reconciler

/-- A computation over questions of a type `Query`, each with its own type of answers. -/
inductive Script (Query : Type) (Answer : Query → Type) (α : Type) : Type where
  | done (value : α)
  | ask (query : Query) (next : Answer query → Script Query Answer α)

/-- The outside party: it answers each question and may remember what it likes. -/
abbrev Handler (Query : Type) (Answer : Query → Type) (σ : Type) : Type :=
  (query : Query) → σ → Answer query × σ

namespace Script

variable {Query : Type} {Answer : Query → Type} {α β σ : Type}

/-- Goes on with a second script once the first is done. -/
def bind : Script Query Answer α → (α → Script Query Answer β) → Script Query Answer β
  | .done value, f => f value
  | .ask query next, f => .ask query fun answer => bind (next answer) f

instance : Monad (Script Query Answer) where
  pure := .done
  bind := bind

def question (query : Query) : Script Query Answer (Answer query) :=
  .ask query .done

def run (handler : Handler Query Answer σ) : Script Query Answer α → σ → α × σ
  | .done value, s => (value, s)
  | .ask query next, s => run handler (next (handler query s).1) (handler query s).2

/-- Runs a script with an outside party that answers by an action. -/
def perform {m : Type → Type} [Monad m] (handler : (query : Query) → m (Answer query)) :
    Script Query Answer α → m α
  | .done value => pure value
  | .ask query next => do perform handler (next (← handler query))

/-- The questions a run asks, in order. -/
def asked (handler : Handler Query Answer σ) : Script Query Answer α → σ → List Query
  | .done _, _ => []
  | .ask query next, s =>
    query :: asked handler (next (handler query s).1) (handler query s).2

/-- Asks the questions of a script in another form. -/
def mapQueries {Query' : Type} {Answer' : Query' → Type} (ask : Query → Query')
    (back : (query : Query) → Answer' (ask query) → Answer query) :
    Script Query Answer α → Script Query' Answer' α
  | .done value => .done value
  | .ask query next => .ask (ask query) fun answer =>
    mapQueries ask back (next (back query answer))

/-- The script of a value is done with it. -/
@[simp]
theorem pure_eq (value : α) : (pure value : Script Query Answer α) = .done value := rfl

/-- Scripts are put in a row by `Script.bind`. -/
@[simp]
theorem bind_eq (script : Script Query Answer α) (f : α → Script Query Answer β) :
    script >>= f = script.bind f := rfl

/-- A finished script goes on with what comes after it. -/
@[simp]
theorem bind_done (value : α) (f : α → Script Query Answer β) :
    (Script.done value).bind f = f value := rfl

/-- A question is asked first, whatever comes after its answer. -/
@[simp]
theorem bind_ask (query : Query) (next : Answer query → Script Query Answer α)
    (f : α → Script Query Answer β) :
    (Script.ask query next).bind f = .ask query fun answer => (next answer).bind f := rfl

/-- A finished script answers its value. -/
@[simp]
theorem run_done (handler : Handler Query Answer σ) (value : α) (s : σ) :
    (Script.done value : Script Query Answer α).run handler s = (value, s) := rfl

/-- A script is run by answering its question and going on with the answer. -/
@[simp]
theorem run_ask (handler : Handler Query Answer σ) (query : Query)
    (next : Answer query → Script Query Answer α) (s : σ) :
    (Script.ask query next).run handler s =
      (next (handler query s).1).run handler (handler query s).2 := rfl

/-- Going on with nothing to do changes nothing. -/
theorem bind_done_right (script : Script Query Answer α) : script.bind .done = script := by
  induction script with
  | done value => rfl
  | ask query next ih => exact congrArg (Script.ask query) (funext ih)

/-- A run of two scripts in a row is a run of the first and then of the second. -/
theorem run_bind (handler : Handler Query Answer σ) (script : Script Query Answer α)
    (f : α → Script Query Answer β) (s : σ) :
    (script.bind f).run handler s =
      (f (script.run handler s).1).run handler (script.run handler s).2 := by
  induction script generalizing s with
  | done value => rfl
  | ask query next ih => exact ih _ _

end Script

end Reconciler
