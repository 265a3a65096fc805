import Reconciler.Catalog
import Reconciler.Daemon.Settings
import Reconciler.Store.Manifests

/-!
# Start of the daemon

What the daemon does before its run loop begins: it checks the configuration, makes the
provider and the store, and applies the manifest file if one is named. The first failure ends
the start.
-/

set_option autoImplicit false

namespace Reconciler.Daemon

/-- Why the daemon could not start. -/
inductive StartupError where
  | failed (error : Error)
  | manifests (refusal : Manifests.Refusal)

/-- The text of a failure, from the outside in. -/
def StartupError.message : StartupError → String
  | .failed error => error.message
  | .manifests refusal => ": ".intercalate refusal.messages

/-- What the daemon runs with. -/
structure Prepared where
  simulator : SimulatorConfig
  store : Store
  engine : EngineConfig

def catalog : Catalog := Catalog.builtin.addSimulator

def applyManifests (settings : Settings) (store : Store) :
    Files (Except StartupError Store) :=
  match settings.manifests with
  | none => .done (.ok store)
  | some path => (Manifests.applyFile store path).bind fun result => match result with
    | (.ok _, store) => .done (.ok store)
    | (.error refusal, _) => .done (.error (.manifests refusal))

def prepare (settings : Settings) : ExceptT StartupError Files Prepared := do
  let config := settings.config
  MonadExcept.ofExcept (config.validate.mapError StartupError.failed)
  let simulator ←
    MonadExcept.ofExcept ((catalog.provider config.provider).mapError StartupError.failed)
  let opened ← ExceptT.mk <| (catalog.store config.store).run.bind fun result =>
    .done (result.mapError StartupError.failed)
  let store ← ExceptT.mk (applyManifests settings opened)
  return { simulator, store, engine := config.engine }

end Reconciler.Daemon
