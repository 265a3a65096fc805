import Reconciler.Manifest
import Reconciler.Status

/-!
# Declared objects

An object as the store holds it: its identity, its version, its desired spec and its observed
status. A freshly declared object has version one and the initial status of its kind.
-/

set_option autoImplicit false

namespace Reconciler

open Json

structure Declaration where
  key : Key
  /-- Grows by one with every write of the spec or the status. -/
  version : UInt64
  manifest : Manifest
  status : Status
  deriving DecidableEq, Repr

namespace Declaration

def fresh (name : String) (manifest : Manifest) : Declaration :=
  { key := ⟨manifest.kind, name⟩
    version := 1
    manifest
    status := .initial manifest.kind }

def toJson (object : Declaration) : Json :=
  .obj [
    ("key", object.key.toJson),
    ("resource_version", ofNat object.version.toNat),
    ("manifest", object.manifest.toJson),
    ("status", object.status.toJson)]

def ofJson? : Json → Option Declaration :=
  toRecord? do
    let key ← Reader.required "key" Key.ofJson?
    let version ← Reader.required "resource_version" toUInt64?
    let manifest ← Reader.required "manifest" Manifest.ofJson?
    let status ← Reader.required "status" Status.ofJson?
    return { key, version, manifest, status }

end Declaration

end Reconciler
