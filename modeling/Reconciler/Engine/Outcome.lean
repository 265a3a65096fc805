import Reconciler.Config.Engine
import Reconciler.Provider.Call

/-!
# Outcomes of a pass

What one pass of an engine comes to: the status to store and the delay that the pass asks for
before the next one, or a failure with the delay that its cause calls for. An engine never
waits; waiting is always a delay in its outcome.
-/

set_option autoImplicit false

namespace Reconciler

/-- The outcome of a pass that did not fail. -/
structure Outcome (S : Type) where
  status : S
  /-- The delay before the next pass, left to the dispatcher when absent. -/
  delay : Option Duration
  deriving DecidableEq, Repr

namespace Outcome

variable {S T : Type}

/-- An outcome that asks for no delay. -/
def settle (status : S) : Outcome S := ⟨status, none⟩

/-- An outcome that asks for a delay. -/
def after (status : S) (delay : Duration) : Outcome S := ⟨status, some delay⟩

/-- The same outcome with its status in another form. -/
def map (f : S → T) (outcome : Outcome S) : Outcome T := ⟨f outcome.status, outcome.delay⟩

end Outcome

/-- A pass of an engine: the calls it makes and what they come to. -/
abbrev Pass (S : Type) : Type :=
  Script Call Call.Answer (Except Failure (Outcome S))

/-- Gives every error of a pass the delay that its sort calls for. -/
def Pass.ofCalls {S : Type} (config : EngineConfig) (calls : Calls (Outcome S)) : Pass S :=
  Script.bind calls.run fun result => .done (result.mapError config.fail)

end Reconciler
