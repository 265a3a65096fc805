import Reconciler.Config.Provider
import Reconciler.Config.Store
import Reconciler.Store.Basic
import Std.Data.ExtTreeMap

/-!
# The catalog of providers and stores

The makers of providers and stores under the names by which a configuration asks for them. A
maker registered under a name that is taken replaces the former one.
-/

set_option autoImplicit false

namespace Reconciler

open Json

/-- Makes a provider from its settings. Every provider here is a simulator, and what is made is
the configuration that it runs with. -/
abbrev ProviderMaker : Type := Json → Except Error SimulatorConfig

abbrev StoreMaker : Type := Json → ExceptT Error Files Store

/-- The makers of providers and stores. -/
structure Catalog where
  providers : Std.ExtTreeMap String ProviderMaker
  stores : Std.ExtTreeMap String StoreMaker

namespace Catalog

/-- What a simulator reads from its settings. It may be made without a configuration, so it has
defaults of its own. -/
def simulatorReader : Reader SimulatorConfig := do
  let readyAfter ← Reader.defaulted "ready_after_polls" toUInt32? 3
  let deleteAfter ← Reader.defaulted "delete_after_polls" toUInt32? 2
  let dryRun ← Reader.defaulted "dry_run" toBool? false
  return { readyAfter, deleteAfter, dryRun }

def makeSimulator : ProviderMaker := fun settings =>
  match toRecord? simulatorReader settings with
  | some config => .ok config
  | none => .error (.config "Invalid simulated provider config: ")

/-- Makes a store in memory, whatever its settings. -/
def makeMemoryStore : StoreMaker := fun _ =>
  pure (.memory .empty)

/-- Makes a store in the file that its settings name. -/
def makeFileStore : StoreMaker := fun settings =>
  match (settings.member? "path").bind asText? with
  | some path => Store.file <$> FileStore.openAt path
  | none => throw (.config "file store requires a 'path' string")

def empty : Catalog := ⟨∅, ∅⟩

def addProvider (catalog : Catalog) (name : String) (maker : ProviderMaker) : Catalog :=
  { catalog with providers := catalog.providers.insert name maker }

def addStore (catalog : Catalog) (name : String) (maker : StoreMaker) : Catalog :=
  { catalog with stores := catalog.stores.insert name maker }

def addSimulator (catalog : Catalog) : Catalog :=
  catalog.addProvider "simulated" makeSimulator

/-- The catalog with the stores that are always there. -/
def builtin : Catalog :=
  (empty.addStore "memory" makeMemoryStore).addStore "file" makeFileStore

/-- Makes the provider that a configuration asks for. -/
def provider (catalog : Catalog) (config : ProviderConfig) : Except Error SimulatorConfig := do
  config.validate
  match catalog.providers[config.typeName]? with
  | some maker => maker config.settings
  | none => throw (.config s!"Unknown provider type: {config.typeName}")

def store (catalog : Catalog) (config : StoreConfig) : ExceptT Error Files Store := do
  MonadExcept.ofExcept config.validate
  match catalog.stores[config.typeName]? with
  | some maker => maker config.settings
  | none => throw (.config s!"Unknown store type: {config.typeName}")

def providerNames (catalog : Catalog) : List String := catalog.providers.keys

def storeNames (catalog : Catalog) : List String := catalog.stores.keys

end Catalog

end Reconciler
