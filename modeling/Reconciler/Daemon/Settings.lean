import Reconciler.Config.Basic
import Reconciler.Store.FileCall
import Reconciler.Store.Path
import Reconciler.Text.Blank
import Reconciler.Text.Numeral

/-!
# Settings of the daemon

The settings that the daemon reads from environment variables, the checks that it makes before
it starts, and the configuration that they amount to. Each variable may be unset, which is not
the same as empty.
-/

set_option autoImplicit false

namespace Reconciler.Daemon

abbrev Environment : Type := String → Option String

def variableNames : List String :=
  ["AURORA_PROVIDER_TYPE", "AURORA_SIM_READY_AFTER_POLLS", "AURORA_SIM_DELETE_AFTER_POLLS",
   "AURORA_DRY_RUN", "AURORA_STORE_TYPE", "AURORA_STORE_PATH", "AURORA_MANIFESTS",
   "AURORA_STABILIZATION_SECS", "AURORA_RESYNC_SECS", "AURORA_LOG_LEVEL"]

/-- The settings of the daemon. -/
structure Settings where
  providerType : String
  readyAfter : UInt32
  deleteAfter : UInt32
  dryRun : Bool
  storeType : String
  storePath : Option String
  manifests : Option String
  stabilizationSecs : UInt64
  resyncSecs : UInt64
  logLevel : String
  deriving DecidableEq, Repr

/-- Why a variable could not be read. -/
inductive VariableError where
  | noNumber (name value : String) (cause : Text.NumeralError)
  | noFlag (name value : String)
  deriving DecidableEq, Repr

/-- The messages of an error, the outermost first. -/
def VariableError.messages : VariableError → List String
  | .noNumber name value cause =>
    [s!"{name} must be a non-negative integer. Got: '{value}'", cause.message]
  | .noFlag name value => [s!"{name} must be true or false. Got: '{value}'"]

namespace Environment

/-- Reads a number that may not exceed a limit; an unset variable has a default. -/
def number (environment : Environment) (name : String) (limit default : Nat) :
    Except VariableError Nat :=
  match environment name with
  | none => .ok default
  | some value => (Text.readNumeral limit (Text.trim value)).mapError (.noNumber name value)

/-- Reads a flag, in either case of letters; an unset variable is false. -/
def flag (environment : Environment) (name : String) : Except VariableError Bool :=
  match environment name with
  | none => .ok false
  | some value =>
    let word := (Text.trim value).toLower
    if word ∈ ["1", "true", "yes"] then .ok true
    else if word ∈ ["0", "false", "no", ""] then .ok false
    else .error (.noFlag name value)

end Environment

namespace Settings

/-- Reads the settings from the environment; the first variable at fault decides. -/
def ofEnvironment (environment : Environment) : Except VariableError Settings := do
  let defaults := EngineConfig.default
  let readyAfter ← environment.number "AURORA_SIM_READY_AFTER_POLLS" (UInt32.size - 1) 3
  let deleteAfter ← environment.number "AURORA_SIM_DELETE_AFTER_POLLS" (UInt32.size - 1) 2
  let dryRun ← environment.flag "AURORA_DRY_RUN"
  let stabilizationSecs ← environment.number "AURORA_STABILIZATION_SECS" (UInt64.size - 1)
    defaults.stabilizationSecs.toNat
  let resyncSecs ← environment.number "AURORA_RESYNC_SECS" (UInt64.size - 1)
    defaults.resyncSecs.toNat
  return {
    providerType := (environment "AURORA_PROVIDER_TYPE").getD "simulated"
    readyAfter := .ofNat readyAfter
    deleteAfter := .ofNat deleteAfter
    dryRun
    storeType := (environment "AURORA_STORE_TYPE").getD "memory"
    storePath := environment "AURORA_STORE_PATH"
    manifests := (environment "AURORA_MANIFESTS").filter (· ≠ "")
    stabilizationSecs := .ofNat stabilizationSecs
    resyncSecs := .ofNat resyncSecs
    logLevel := (environment "AURORA_LOG_LEVEL").getD "info" }

/-- Why settings are refused. -/
inductive Refusal where
  | noProvider
  | unknownStore (storeType : String)
  | noStorePath
  | noStoreDirectory (directory : String)
  | noManifests (path : String)
  | readyAfterTooLarge (count : UInt32)
  | deleteAfterTooLarge (count : UInt32)
  | stabilizationTooLong (seconds : UInt64)
  | resyncOutside (seconds : UInt64)
  | unknownLevel (level : String)
  deriving DecidableEq, Repr

def Refusal.message : Refusal → String
  | .noProvider => "AURORA_PROVIDER_TYPE cannot be empty. " ++
    "Set it via: export AURORA_PROVIDER_TYPE=simulated"
  | .unknownStore storeType =>
    s!"AURORA_STORE_TYPE '{storeType}' is not supported. Supported types: file, memory"
  | .noStorePath => "AURORA_STORE_PATH is required when AURORA_STORE_TYPE=file. " ++
    "Set it via: export AURORA_STORE_PATH=/var/lib/aurora/objects.json"
  | .noStoreDirectory directory =>
    s!"AURORA_STORE_PATH parent directory does not exist: {directory}. " ++
      s!"Create it first: sudo mkdir -p {directory}"
  | .noManifests path => s!"AURORA_MANIFESTS file does not exist: {path}"
  | .readyAfterTooLarge count =>
    s!"AURORA_SIM_READY_AFTER_POLLS must be at most 1000. Got: {count}"
  | .deleteAfterTooLarge count =>
    s!"AURORA_SIM_DELETE_AFTER_POLLS must be at most 1000. Got: {count}"
  | .stabilizationTooLong seconds =>
    s!"AURORA_STABILIZATION_SECS must be between 0 and 3600 seconds. Got: {seconds}"
  | .resyncOutside seconds =>
    s!"AURORA_RESYNC_SECS must be between 1 and 3600 seconds. Got: {seconds}"
  | .unknownLevel level =>
    s!"AURORA_LOG_LEVEL '{level}' is not valid. Valid levels: trace, debug, info, warn, error"

def demand (condition : Bool) (refusal : Refusal) : ExceptT Refusal Files Unit :=
  if condition then pure () else throw refusal

/-- Checks that a file store has a path whose directory exists. -/
def validateStorePath (settings : Settings) : ExceptT Refusal Files Unit :=
  if settings.storeType ≠ "file" then pure ()
  else match settings.storePath with
    | none => throw .noStorePath
    | some path =>
      if path = "" then throw .noStorePath
      else match Path.parent? path with
        | none => pure ()
        | some directory =>
          if directory = "" then pure ()
          else do
            demand (← (Files.act (.exists directory) : Files Bool)) (.noStoreDirectory directory)

/-- Checks that there is a manifest file if one is named. -/
def validateManifests (settings : Settings) : ExceptT Refusal Files Unit :=
  match settings.manifests with
  | none => pure ()
  | some path => do demand (← (Files.act (.isFile path) : Files Bool)) (.noManifests path)

/-- Checks the settings; the first refusal decides. -/
def validate (settings : Settings) : ExceptT Refusal Files Unit := do
  demand (settings.providerType ≠ "") .noProvider
  demand (settings.storeType ∈ ["file", "memory"]) (.unknownStore settings.storeType)
  validateStorePath settings
  validateManifests settings
  demand (settings.readyAfter ≤ 1000) (.readyAfterTooLarge settings.readyAfter)
  demand (settings.deleteAfter ≤ 1000) (.deleteAfterTooLarge settings.deleteAfter)
  demand (settings.stabilizationSecs ≤ 3600)
    (.stabilizationTooLong settings.stabilizationSecs)
  demand (1 ≤ settings.resyncSecs ∧ settings.resyncSecs ≤ 3600)
    (.resyncOutside settings.resyncSecs)
  demand (settings.logLevel.toLower ∈ ["trace", "debug", "info", "warn", "error"])
    (.unknownLevel settings.logLevel)

def config (settings : Settings) : Config :=
  { provider :=
      if settings.providerType = "simulated" then
        .simulated ⟨settings.readyAfter, settings.deleteAfter, settings.dryRun⟩
      else .custom settings.providerType (.obj [("dry_run", .bool settings.dryRun)])
    store := match settings.storePath with
      | some path => if settings.storeType = "file" then .file path else .memory
      | none => .memory
    engine := { EngineConfig.default with
      stabilizationSecs := settings.stabilizationSecs
      resyncSecs := settings.resyncSecs } }

end Settings

end Reconciler.Daemon
