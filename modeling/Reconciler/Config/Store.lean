import Reconciler.Error
import Reconciler.Json.Reader

/-!
# Store settings

Where declared objects are kept: in memory, in a file, or in a store registered under a name
of its own with any JSON value as its settings.
-/

set_option autoImplicit false

namespace Reconciler

open Json

/-- Which store to use. -/
inductive StoreConfig where
  | memory
  | file (path : String)
  | custom (factory : String) (config : Json)
  deriving BEq, Repr, Inhabited

namespace StoreConfig

def validate : StoreConfig → Except Error Unit
  | .memory => .ok ()
  | .file path =>
    if path = "" then .error (.config "File store path cannot be empty") else .ok ()
  | .custom factory _ =>
    if factory = "" then .error (.config "Custom store factory cannot be empty") else .ok ()

def typeName : StoreConfig → String
  | .memory => "memory"
  | .file _ => "file"
  | .custom factory _ => factory

def settings : StoreConfig → Json
  | .memory => .null
  | .file path => .obj [("path", .str path)]
  | .custom _ config => config

def toJson : StoreConfig → Json
  | .memory => .obj [("type", .str "memory")]
  | .file path => .obj [("type", .str "file"), ("path", .str path)]
  | .custom factory config =>
    .obj [("type", .str "custom"), ("factory", .str factory), ("config", config)]

def customReader : Reader StoreConfig := do
  let factory ← Reader.required "factory" asText?
  let config ← Reader.required "config" some
  return .custom factory config

def ofJson? (json : Json) : Option StoreConfig := do
  let (tag, fields) ← json.toTagged? "type"
  if tag = "memory" then toRecord? (pure .memory) fields
  else if tag = "file" then toRecord? (.file <$> Reader.required "path" asText?) fields
  else if tag = "custom" then toRecord? customReader fields
  else none

end StoreConfig

end Reconciler
