import Reconciler.Config.Engine
import Reconciler.Config.Provider
import Reconciler.Config.Store

/-!
# The configuration

The settings of the provider, the store and the engines together. They are judged in this
order, and the first refusal decides.
-/

set_option autoImplicit false

namespace Reconciler

open Json

structure Config where
  provider : ProviderConfig
  store : StoreConfig
  engine : EngineConfig
  deriving Repr

namespace Config

def validate (config : Config) : Except Error Unit := do
  config.provider.validate
  config.store.validate
  config.engine.validate

def toJson (config : Config) : Json :=
  .obj [
    ("provider", config.provider.toJson),
    ("store", config.store.toJson),
    ("engine", config.engine.toJson)]

def ofJson? : Json → Option Config :=
  toRecord? do
    let provider ← Reader.defaulted "provider" ProviderConfig.ofJson? .default
    let store ← Reader.defaulted "store" StoreConfig.ofJson? .memory
    let engine ← Reader.defaulted "engine" EngineConfig.ofJson? .default
    return { provider, store, engine }

end Config

end Reconciler
