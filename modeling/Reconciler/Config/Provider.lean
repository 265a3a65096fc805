import Reconciler.Error
import Reconciler.Json.Reader

/-!
# Provider settings

Which provider to use and what to tell it: the simulator with its poll counts, or a provider
registered under a name of its own with any JSON value as its settings.
-/

set_option autoImplicit false

namespace Reconciler

open Json

/-- The settings of the simulated provider. -/
structure SimulatorConfig where
  /-- How many looks a new or changed resource takes to become available. -/
  readyAfter : UInt32
  /-- How many looks a deleted resource takes to disappear. -/
  deleteAfter : UInt32
  /-- Whether writes are judged but not carried out. -/
  dryRun : Bool
  deriving DecidableEq, Repr, Inhabited

namespace SimulatorConfig

def default : SimulatorConfig := ⟨3, 2, false⟩

def reader : Reader SimulatorConfig := do
  let readyAfter ← Reader.defaulted "ready_after_polls" toUInt32? default.readyAfter
  let deleteAfter ← Reader.defaulted "delete_after_polls" toUInt32? default.deleteAfter
  let dryRun ← Reader.defaulted "dry_run" toBool? default.dryRun
  return { readyAfter, deleteAfter, dryRun }

def ofJson? : Json → Option SimulatorConfig :=
  toRecord? reader

def members (config : SimulatorConfig) : List (String × Json) :=
  [("ready_after_polls", ofNat config.readyAfter.toNat),
   ("delete_after_polls", ofNat config.deleteAfter.toNat),
   ("dry_run", .bool config.dryRun)]

end SimulatorConfig

/-- Which provider to use. -/
inductive ProviderConfig where
  | simulated (config : SimulatorConfig)
  | custom (factory : String) (config : Json)
  deriving BEq, Repr

namespace ProviderConfig

/-- The simulator with the settings it has when nothing is said. -/
def default : ProviderConfig := .simulated .default

instance : Inhabited ProviderConfig := ⟨default⟩

def validate : ProviderConfig → Except Error Unit
  | .simulated _ => .ok ()
  | .custom factory config =>
    if factory = "" then .error (.config "Custom provider factory cannot be empty")
    else if config.isNull then .error (.config "Custom provider config cannot be null")
    else .ok ()

/-- The name under which the provider is registered. -/
def typeName : ProviderConfig → String
  | .simulated _ => "simulated"
  | .custom factory _ => factory

def settings : ProviderConfig → Json
  | .simulated config => .obj config.members
  | .custom _ config => config

def toJson : ProviderConfig → Json
  | .simulated config => .obj (("type", .str "simulated") :: config.members)
  | .custom factory config =>
    .obj [("type", .str "custom"), ("factory", .str factory), ("config", config)]

def customReader : Reader ProviderConfig := do
  let factory ← Reader.required "factory" asText?
  let config ← Reader.required "config" some
  return .custom factory config

def ofJson? (json : Json) : Option ProviderConfig := do
  let (tag, fields) ← json.toTagged? "type"
  if tag = "simulated" then (SimulatorConfig.ofJson? fields).map .simulated
  else if tag = "custom" then toRecord? customReader fields
  else none

end ProviderConfig

end Reconciler
