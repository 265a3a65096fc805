import Reconciler.Kind

/-!
# Watches

A watch collects the changes of a store's specs for one reader. It holds a bounded number of
changes; when more arrive before they are read, the oldest are dropped and the reader is told
to list the store again.
-/

set_option autoImplicit false

namespace Reconciler

/-- A change of the declared objects, as it is told to a reader. -/
inductive Change where
  /-- A spec was declared or replaced. -/
  | applied (key : Key)
  /-- An object was removed. -/
  | deleted (key : Key)
  /-- Changes were dropped, and the store is to be listed again. -/
  | resync
  deriving DecidableEq, Repr

/-- The changes that wait for one reader. -/
structure Watch where
  /-- The changes, the oldest first. -/
  pending : List Change
  /-- Whether older changes were dropped. -/
  lagged : Bool
  deriving DecidableEq, Repr

namespace Watch

def capacity : Nat := 256

def fresh : Watch := ⟨[], false⟩

/-- Takes up a change and drops the oldest one when there is no room. -/
def push (watch : Watch) (change : Change) : Watch :=
  if watch.pending.length < capacity then { watch with pending := watch.pending ++ [change] }
  else ⟨watch.pending.drop 1 ++ [change], true⟩

/-- The next change to read, and the watch without it. -/
def next? (watch : Watch) : Option (Change × Watch) :=
  if watch.lagged then some (.resync, { watch with lagged := false })
  else match watch.pending with
    | [] => none
    | change :: rest => some (change, { watch with pending := rest })

/-- All changes to read, and the watch without them. -/
def drain (watch : Watch) : List Change × Watch :=
  ((if watch.lagged then [.resync] else []) ++ watch.pending, fresh)

end Watch

/-- The watches of a store, in the order in which they were opened. -/
abbrev Watches : Type := List Watch

namespace Watches

def publish (watches : Watches) (change : Change) : Watches :=
  watches.map (·.push change)

/-- Opens a watch; it is told the changes from now on. -/
def opened (watches : Watches) : Watches :=
  watches ++ [.fresh]

def drain (watches : Watches) (index : Nat) : List Change × Watches :=
  match watches[index]? with
  | none => ([], watches)
  | some watch => (watch.drain.1, watches.set index watch.drain.2)

end Watches

end Reconciler
