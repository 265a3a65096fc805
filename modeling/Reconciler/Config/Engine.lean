import Reconciler.Error
import Reconciler.Json.Reader

/-!
# Engine settings

The times that rule the passes, in whole seconds, and the size of the notice channel.
-/

set_option autoImplicit false

namespace Reconciler

open Json

/-- The settings of the engines and the dispatcher. -/
structure EngineConfig where
  /-- How long a resource has to be ready before it counts as provisioned. -/
  stabilizationSecs : UInt64
  /-- The delay after a failed pass. -/
  errorSecs : UInt64
  /-- The delay while a deletion is blocked. -/
  blockedSecs : UInt64
  /-- The delay while a resource is awaited. -/
  pollSecs : UInt64
  /-- The delay when a pass asks for none. -/
  resyncSecs : UInt64
  /-- How many notices are kept for the reader. -/
  noticeCapacity : UInt64
  deriving DecidableEq, Repr

namespace EngineConfig

def default : EngineConfig :=
  { stabilizationSecs := 120
    errorSecs := 1
    blockedSecs := 5
    pollSecs := 10
    resyncSecs := 30
    noticeCapacity := 1000 }

instance : Inhabited EngineConfig := ⟨default⟩

def validate (config : EngineConfig) : Except Error Unit :=
  if config.resyncSecs = 0 then .error (.config "resync_secs must be > 0")
  else if config.noticeCapacity = 0 then
    .error (.config "event_channel_capacity must be > 0")
  else .ok ()

def stabilization (config : EngineConfig) : Duration :=
  .ofSeconds config.stabilizationSecs.toNat

def resync (config : EngineConfig) : Duration :=
  .ofSeconds config.resyncSecs.toNat

def onError (config : EngineConfig) : Duration :=
  .ofSeconds config.errorSecs.toNat

def onBlocked (config : EngineConfig) : Duration :=
  .ofSeconds config.blockedSecs.toNat

def poll (config : EngineConfig) : Duration :=
  .ofSeconds config.pollSecs.toNat

/-- Pairs an error with the delay that its sort calls for. -/
def fail (config : EngineConfig) (cause : Error) : Failure :=
  ⟨cause, if cause.isBlocked then config.onBlocked else config.onError⟩

def toJson (config : EngineConfig) : Json :=
  .obj [
    ("stabilization_secs", ofNat config.stabilizationSecs.toNat),
    ("error_requeue_secs", ofNat config.errorSecs.toNat),
    ("blocked_requeue_secs", ofNat config.blockedSecs.toNat),
    ("poll_requeue_secs", ofNat config.pollSecs.toNat),
    ("resync_secs", ofNat config.resyncSecs.toNat),
    ("event_channel_capacity", ofNat config.noticeCapacity.toNat)]

def ofJson? : Json → Option EngineConfig :=
  toRecord? do
    let stabilizationSecs ←
      Reader.defaulted "stabilization_secs" toUInt64? default.stabilizationSecs
    let errorSecs ← Reader.defaulted "error_requeue_secs" toUInt64? default.errorSecs
    let blockedSecs ← Reader.defaulted "blocked_requeue_secs" toUInt64? default.blockedSecs
    let pollSecs ← Reader.defaulted "poll_requeue_secs" toUInt64? default.pollSecs
    let resyncSecs ← Reader.defaulted "resync_secs" toUInt64? default.resyncSecs
    let noticeCapacity ←
      Reader.defaulted "event_channel_capacity" toUInt64? default.noticeCapacity
    return { stabilizationSecs, errorSecs, blockedSecs, pollSecs, resyncSecs, noticeCapacity }

end EngineConfig

end Reconciler
