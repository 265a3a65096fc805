import Reconciler.Store.Basic

/-!
# Manifest files

A file that lists objects to declare, each with its name and its manifest. Its objects are
applied in order until one is refused. What goes wrong is told from the outside in: first what
was attempted, then why it failed.
-/

set_option autoImplicit false

namespace Reconciler.Manifests

open Json

/-- An object to declare. -/
structure Entry where
  name : String
  manifest : Manifest
  deriving DecidableEq, Repr

def Entry.ofJson? : Json → Option Entry :=
  toRecord? do
    let name ← Reader.required "name" asText?
    let manifest ← Reader.required "manifest" Manifest.ofJson?
    return { name, manifest }

def read? (text : String) : Option (List Entry) :=
  (parse? text).bind (toList? Entry.ofJson?)

/-- Why a manifest file could not be applied. -/
inductive Refusal where
  | unreadable (path : String) (error : FileError)
  | invalid (path : String)
  | refused (name : String) (error : Error)

/-- The messages of a refusal, the outermost first. -/
def Refusal.messages : Refusal → List String
  | .unreadable path error => [s!"Failed to read manifest file {path}", error.message]
  | .invalid path => [s!"Manifest file {path} is not valid"]
  | .refused name error => [s!"Failed to apply {name}", error.message]

/-- Applies objects in order and counts them; the first one that is refused ends it. -/
def applyAll (store : Store) : List Entry → Files (Except Refusal Nat × Store)
  | [] => .done (.ok 0, store)
  | entry :: rest =>
    (store.apply entry.name entry.manifest).bind fun result => match result with
      | (.error error, store) => .done (.error (.refused entry.name error), store)
      | (.ok _, store) => (applyAll store rest).bind fun result =>
        .done (result.1.map (· + 1), result.2)

def applyFile (store : Store) (path : String) : Files (Except Refusal Nat × Store) :=
  .ask (.readText path) fun answer => match answer with
    | .error error => .done (.error (.unreadable path error), store)
    | .ok text => match read? text with
      | none => .done (.error (.invalid path), store)
      | some entries => applyAll store entries

end Reconciler.Manifests
