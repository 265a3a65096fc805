import Reconciler.Store.Document
import Reconciler.Store.FileCall
import Reconciler.Store.Path
import Reconciler.Store.Watch

/-!
# The file store

A table of declared objects that is kept in a file. Every change is written through before its
operation is done: the new text goes into a temporary file, the old file is kept as a backup,
and the temporary file takes its place. A file that cannot be read as a document is made good
from the backup when the store is opened.
-/

set_option autoImplicit false

namespace Reconciler

/-- A store that is kept in a file. -/
structure FileStore where
  path : String
  table : Table
  /-- Whether there are changes that have not been written. -/
  dirty : Bool
  watches : Watches

namespace FileStore

open Files

/-- The file in which a new text is collected. -/
def temporary (path : String) : String :=
  Path.withExtension path "tmp"

/-- The file in which the former text is kept. -/
def backup (path : String) : String :=
  Path.withExtension path "backup"

/-- Writes a text in place of the one that is kept, which becomes the backup. -/
def replace (path text : String) : ExceptT Error Files Unit := do
  let temp := temporary path
  require (act (.create temp)) fun error =>
    .store s!"Failed to create temp file {temp}: {error.message}"
  require (act (.append temp text)) fun error =>
    .store s!"Failed to write to temp file {temp}: {error.message}"
  require (act (.flush temp)) fun error =>
    .store s!"Failed to flush temp file {temp}: {error.message}"
  if ← (act (.exists path) : Files Bool) then
    let _ ← (act (.copy path (backup path)) : Files (Except FileError Unit))
  require (act (.rename temp path)) fun error =>
    .store s!"Failed to rename {temp} to {path}: {error.message}"

/-- Reads the objects that are kept at a path; a path with nothing there has none. -/
def load (path : String) : ExceptT Error Files (List Declaration) := do
  if ← (act (.exists path) : Files Bool) then
    let text ← require (act (.readText path)) fun error =>
      .store s!"Failed to read store file {path}: {error.message}"
    match Document.read? text with
    | some objects => return objects
    | none => throw .json
  else return []

/-- Reads the objects from the backup and restores the file from it; without a backup that can
be read there are none. -/
def recover (path : String) : Files (List Declaration) := do
  if ← act (.exists (backup path)) then
    match ← (load (backup path)).run with
    | .ok objects =>
      let _ ← act (.copy (backup path) path)
      return objects
    | .error _ => return []
  else return []

/-- Reads the objects that are kept at a path, from the backup if need be. Only a text that is
no document calls for the backup; a file that cannot be read at all is an error. -/
def loadOrRecover (path : String) : ExceptT Error Files (List Declaration) :=
  ExceptT.mk do
    match ← (load path).run with
    | .error .json => return .ok (← recover path)
    | result => return result

def makeParent (path : String) : ExceptT Error Files Unit :=
  match Path.parent? path with
  | none => pure ()
  | some "" => pure ()
  | some parent => do
    if ← (act (.exists parent) : Files Bool) then return ()
    require (act (.makeDirectories parent)) fun error =>
      .config s!"Failed to create store directory {parent}: {error.message}"

def openAt (path : String) : ExceptT Error Files FileStore := do
  makeParent path
  let objects ← loadOrRecover path
  return { path, table := .ofList objects, dirty := false, watches := [] }

variable (store : FileStore)

/-- Writes the table through. -/
def save : Files (Except Error Unit × FileStore) := do
  match ← (replace store.path (Document.write store.table.toList)).run with
  | .ok () => return (.ok (), { store with dirty := false })
  | .error error => return (.error error, store)

/-- Writes the table through and then tells a change, unless the writing fails. -/
def commit {α : Type} (value : α) (change : Option Change) :
    Files (Except Error α × FileStore) := do
  match ← save store with
  | (.ok (), saved) =>
    return (.ok value, { saved with watches := change.elim saved.watches saved.watches.publish })
  | (.error error, unsaved) => return (.error error, unsaved)

/-- Declares an object or replaces its spec. -/
def apply (name : String) (manifest : Manifest) :
    Files (Except Error Declaration × FileStore) :=
  match store.table.apply name manifest with
  | .error error => .done (.error error, store)
  | .ok (object, table) =>
    commit { store with table, dirty := true } object (some (.applied object.key))

/-- Removes an object and tells whether there was one. -/
def delete (key : Key) : Files (Except Error Bool × FileStore) :=
  match store.table.delete key with
  | (true, table) => commit { store with table, dirty := true } true (some (.deleted key))
  | (false, table) => .done (.ok false, { store with table })

def updateStatus (key : Key) (expected : UInt64) (status : Status) :
    Files (Except Error UInt64 × FileStore) :=
  match store.table.updateStatus key expected status with
  | .error error => .done (.error error, store)
  | .ok (version, table) => commit { store with table, dirty := true } version none

/-- Writes the table through if it has changes that have not been written. -/
def flush : Files (Except Error Unit × FileStore) :=
  if store.dirty then save store else .done (.ok (), store)

end FileStore

end Reconciler
