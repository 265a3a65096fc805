import Reconciler.Store.Memory
import Reconciler.Store.File

/-!
# Stores

A store of declared objects of either sort, with one set of operations. An operation takes the
store and says what it acts on in the file system, what it answers and how the store is after
it; a store in memory acts on nothing.
-/

set_option autoImplicit false

namespace Reconciler

/-- A store of declared objects. -/
inductive Store where
  | memory (store : MemoryStore)
  | file (store : FileStore)

namespace Store

/-- What an operation does: its actions on files, its answer and the store after it. -/
abbrev Effect (α : Type) : Type := Files (Except Error α × Store)

def table : Store → Table
  | .memory store => store.table
  | .file store => store.table

def watches : Store → Watches
  | .memory store => store.watches
  | .file store => store.watches

def withWatches (store : Store) (watches : Watches) : Store :=
  match store with
  | .memory store => .memory { store with watches }
  | .file store => .file { store with watches }

def ofMemory {α : Type} (effect : Except Error α × MemoryStore) : Effect α :=
  .done (effect.1, .memory effect.2)

def ofFile {α : Type} (effect : Files (Except Error α × FileStore)) : Effect α :=
  effect.bind fun result => .done (result.1, .file result.2)

/-- Declares an object or replaces its spec. -/
def apply (store : Store) (name : String) (manifest : Manifest) : Effect Declaration :=
  match store with
  | .memory store => ofMemory (store.apply name manifest)
  | .file store => ofFile (store.apply name manifest)

/-- Removes an object and tells whether there was one. -/
def delete (store : Store) (key : Key) : Effect Bool :=
  match store with
  | .memory store => ofMemory ((store.delete key).map .ok id)
  | .file store => ofFile (store.delete key)

/-- Commits a status that was computed from the expected version. -/
def updateStatus (store : Store) (key : Key) (expected : UInt64) (status : Status) :
    Effect UInt64 :=
  match store with
  | .memory store => ofMemory (store.updateStatus key expected status)
  | .file store => ofFile (store.updateStatus key expected status)

/-- Writes what has not been written; a store in memory has nothing to write. -/
def flush (store : Store) : Effect Unit :=
  match store with
  | .memory store => ofMemory (.ok (), store)
  | .file store => ofFile store.flush

/-- Opens a watch and gives its place among the watches. -/
def watch (store : Store) : Nat × Store :=
  (store.watches.length, store.withWatches store.watches.opened)

def nextChange (store : Store) (index : Nat) : Option Change × Store :=
  match store.watches[index]?.bind Watch.next? with
  | some (change, watch) => (some change, store.withWatches (store.watches.set index watch))
  | none => (none, store)

def drain (store : Store) (index : Nat) : List Change × Store :=
  let (changes, watches) := store.watches.drain index
  (changes, store.withWatches watches)

end Store

end Reconciler
