import Reconciler.Store.Table
import Reconciler.Store.Watch

/-!
# The memory store

A table of declared objects with its watches. Every change of a spec is told to the watches;
a commit of a status is not.
-/

set_option autoImplicit false

namespace Reconciler

/-- A store that lives in memory. -/
structure MemoryStore where
  table : Table
  watches : Watches

namespace MemoryStore

def empty : MemoryStore := ⟨.empty, []⟩

/-- Declares an object or replaces its spec. -/
def apply (store : MemoryStore) (name : String) (manifest : Manifest) :
    Except Error Declaration × MemoryStore :=
  match store.table.apply name manifest with
  | .error error => (.error error, store)
  | .ok (object, table) =>
    (.ok object, ⟨table, store.watches.publish (.applied object.key)⟩)

/-- Removes an object and tells whether there was one. -/
def delete (store : MemoryStore) (key : Key) : Bool × MemoryStore :=
  match store.table.delete key with
  | (true, table) => (true, ⟨table, store.watches.publish (.deleted key)⟩)
  | (false, table) => (false, { store with table })

def updateStatus (store : MemoryStore) (key : Key) (expected : UInt64) (status : Status) :
    Except Error UInt64 × MemoryStore :=
  match store.table.updateStatus key expected status with
  | .error error => (.error error, store)
  | .ok (version, table) => (.ok version, { store with table })

end MemoryStore

end Reconciler
