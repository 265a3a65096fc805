import Reconciler.Declaration
import Reconciler.Error
import Reconciler.Text.Blank
import Std.Data.ExtTreeMap

/-!
# The table of declared objects

The objects under their keys, with the rules of versions and of optimistic writes: applying a
spec keeps the status, committing a status needs the version it was computed from, and both
count the version up.
-/

set_option autoImplicit false

namespace Reconciler

/-- The declared objects under their keys. -/
structure Table where
  objects : Std.ExtTreeMap Key Declaration

namespace Table

def empty : Table := ⟨∅⟩

/-- The table with an object put under its own key. -/
def put (table : Table) (object : Declaration) : Table :=
  ⟨table.objects.insert object.key object⟩

/-- The table of a list of objects; of several with one key the last one stays. -/
def ofList (objects : List Declaration) : Table :=
  objects.foldl put empty

def get? (table : Table) (key : Key) : Option Declaration :=
  table.objects[key]?

def toList (table : Table) : List Declaration :=
  table.objects.toList.map (·.2)

/-- The objects in the order of their keys, of all kinds or of one. -/
def list (table : Table) (kind : Option Kind) : List Declaration :=
  table.toList.filter fun object => kind.all (object.key.kind = ·)

def size (table : Table) : Nat :=
  table.objects.size

/-- An object with another spec and the next version. -/
def replaced (object : Declaration) (manifest : Manifest) : Declaration :=
  { object with manifest, version := object.version + 1 }

/-- Declares an object, or replaces its spec and keeps its status. -/
def apply (table : Table) (name : String) (manifest : Manifest) :
    Except Error (Declaration × Table) :=
  if Text.isBlank name then .error (.invalidInput "object name must not be empty")
  else
    let key : Key := ⟨manifest.kind, name⟩
    match table.objects[key]? with
    | some existing =>
      let object := replaced existing manifest
      .ok (object, ⟨table.objects.insert key object⟩)
    | none =>
      let object := Declaration.fresh name manifest
      .ok (object, ⟨table.objects.insert key object⟩)

/-- Removes an object and tells whether there was one. -/
def delete (table : Table) (key : Key) : Bool × Table :=
  (key ∈ table.objects, ⟨table.objects.erase key⟩)

/-- Commits a status that was computed from the expected version. -/
def updateStatus (table : Table) (key : Key) (expected : UInt64) (status : Status) :
    Except Error (UInt64 × Table) :=
  match table.objects[key]? with
  | none => .error (.notFound ("object " ++ key.text))
  | some object =>
    if object.version ≠ expected then .error (.conflict key expected object.version)
    else if status.fits key.kind then
      let version := object.version + 1
      .ok (version, ⟨table.objects.insert key { object with status, version }⟩)
    else .error (.invalidInput
      ("status flavor does not match object kind " ++ key.kind.text))

/-- An applied spec is seen under its own key and nowhere else. -/
theorem get?_of_apply {table after : Table} {name : String} {manifest : Manifest}
    {object : Declaration} (h : table.apply name manifest = .ok (object, after)) (key : Key) :
    after.get? key =
      if ⟨manifest.kind, name⟩ = key then some object else table.get? key := by
  simp only [apply] at h
  split at h
  · simp at h
  · split at h <;>
    · simp only [Except.ok.injEq, Prod.mk.injEq] at h
      obtain ⟨rfl, rfl⟩ := h
      simp [get?, Std.ExtTreeMap.getElem?_insert]

/-- A removed object is gone, and no other object is. -/
theorem get?_delete (table : Table) (key other : Key) :
    (table.delete key).2.get? other = if key = other then none else table.get? other := by
  simp [delete, get?, Std.ExtTreeMap.getElem?_erase]

/-- A committed status is seen under its key with its version, and nowhere else. -/
theorem get?_of_updateStatus {table after : Table} {key : Key} {expected version : UInt64}
    {status : Status} (h : table.updateStatus key expected status = .ok (version, after))
    (other : Key) :
    after.get? other =
      if key = other then (table.get? key).map ({ · with status, version })
      else table.get? other := by
  simp only [updateStatus] at h
  split at h
  · simp at h
  · next object found =>
    split at h
    · simp at h
    · split at h
      · simp only [Except.ok.injEq, Prod.mk.injEq] at h
        obtain ⟨rfl, rfl⟩ := h
        simp [get?, found, Std.ExtTreeMap.getElem?_insert]
      · simp at h

end Table

end Reconciler
