import Reconciler.Adapter
import Reconciler.Guard
import Reconciler.Inspect
import Reconciler.Proofs.Store.Table
import Reconciler.Store.Memory

/-!
# Masked objects

A masked object is the object without the master password of its spec. Two objects with the same
mask differ in that password at most. What is decided or told about an object is the same for the
masked one, and the operations of a store in memory do to masked objects what they do to the
objects themselves, with the same answers.
-/

set_option autoImplicit false

namespace Reconciler

/-! ## Specs -/

def ClusterSpec.masked (spec : ClusterSpec) : ClusterSpec :=
  { spec with masterPassword := "" }

/-- A spec without the master password; only clusters have one. -/
def ResourceKind.masked : (kind : ResourceKind) → kind.Spec → kind.Spec
  | .cluster, spec => spec.masked
  | .dbInstance, spec => spec
  | .parameterGroup, spec => spec
  | .clusterParameterGroup, spec => spec
  | .subnetGroup, spec => spec

/-- The mask keeps the identifier of a spec. -/
@[simp]
theorem ResourceKind.identifier_masked (kind : ResourceKind) (spec : kind.Spec) :
    kind.identifier (kind.masked spec) = kind.identifier spec := by
  cases kind <;> rfl

/-- A password is no drift. -/
@[simp]
theorem Drift.of_masked (kind : ResourceKind) (existing : kind.Snapshot) (spec : kind.Spec) :
    Drift.of kind existing (kind.masked spec) = Drift.of kind existing spec := by
  cases kind <;> rfl

/-- A password asks for no change. -/
@[simp]
theorem Adapter.change?_masked (kind : ResourceKind) (existing : kind.Snapshot)
    (spec : kind.Spec) : change? kind existing (kind.masked spec) = change? kind existing spec := by
  cases kind <;> rfl

/-- An update does the same for a masked spec. -/
@[simp]
theorem Adapter.update_masked (kind : ResourceKind) (existing : kind.Snapshot)
    (spec : kind.Spec) : update kind existing (kind.masked spec) = update kind existing spec := by
  simp only [update, change?_masked]

namespace Inspect

/-- A cluster spec is shown as the masked one is. -/
@[simp]
theorem clusterSpec_masked (spec : ClusterSpec) : clusterSpec spec.masked = clusterSpec spec := rfl

/-- Whether a cluster can be created does not depend on its password: the simulator keeps none. -/
@[simp]
theorem clusterCreation_masked (spec : ClusterSpec) :
    clusterCreation spec.masked.creation = clusterCreation spec.creation := rfl

end Inspect

/-! ## Objects -/

def Manifest.masked : Manifest → Manifest
  | .resource kind spec => .resource kind (kind.masked spec)
  | .deletion spec => .deletion spec

namespace Manifest

/-- The mask keeps the kind of a manifest. -/
@[simp]
theorem kind_masked (manifest : Manifest) : manifest.masked.kind = manifest.kind := by
  cases manifest <;> rfl

/-- The mask keeps what a manifest manages. -/
@[simp]
theorem manages?_masked (manifest : Manifest) : manifest.masked.manages? = manifest.manages? := by
  cases manifest with
  | resource kind spec => simp only [masked, manages?, ResourceKind.identifier_masked]
  | deletion spec => rfl

/-- The mask keeps what a manifest depends on. -/
@[simp]
theorem dependencies_masked (manifest : Manifest) :
    manifest.masked.dependencies = manifest.dependencies := by
  cases manifest with
  | resource kind spec => cases kind <;> rfl
  | deletion spec => rfl

end Manifest

def Declaration.masked (object : Declaration) : Declaration :=
  { object with manifest := object.manifest.masked }

namespace Guard

/-- A masked object blocks what the object blocks. -/
@[simp]
theorem blockersOf_masked (target : Target) (object : Declaration) :
    blockersOf target object.masked = blockersOf target object := by
  simp only [blockersOf, Declaration.masked, Manifest.manages?_masked,
    Manifest.dependencies_masked]

/-- Masked objects are the same blockers as the objects. -/
@[simp]
theorem blockers_masked (target : Target) (objects : List Declaration) :
    blockers target (objects.map Declaration.masked) = blockers target objects := by
  simp only [blockers, List.flatMap_map, blockersOf_masked]

/-- The guard judges masked objects as it judges the objects. -/
@[simp]
theorem check_masked (target : Target) (objects : List Declaration) :
    check target (objects.map Declaration.masked) = check target objects := by
  simp only [check, blockers_masked]

end Guard

/-! ## Tables -/

def Table.masked (table : Table) : Table :=
  ⟨table.objects.map fun _ object => object.masked⟩

namespace Table

variable (table : Table)

/-- A masked table has the masked objects under the same keys. -/
@[simp]
theorem get?_masked (key : Key) : table.masked.get? key = (table.get? key).map .masked := by
  simp [masked, get?]

/-- A masked table lists the masked objects. -/
@[simp]
theorem toList_masked : table.masked.toList = table.toList.map .masked := by
  simp [masked, toList, Std.ExtTreeMap.toList_map]

/-- A masked object takes the place of the object. -/
theorem masked_insert (key : Key) (object : Declaration) :
    (⟨table.objects.insert key object⟩ : Table).masked =
      ⟨table.masked.objects.insert key object.masked⟩ := by
  refine eq_of_get? fun other => ?_
  rw [get?_masked]
  simp only [get?, Std.ExtTreeMap.getElem?_insert]
  split
  · rfl
  · exact (table.get?_masked other).symm

/-- A masked object is applied to a masked table as the object is to the table. -/
theorem apply_masked (name : String) (manifest : Manifest) :
    table.masked.apply name manifest.masked =
      (table.apply name manifest).map fun result => (result.1.masked, result.2.masked) := by
  have hget := table.get?_masked ⟨manifest.kind, name⟩
  simp only [get?] at hget
  simp only [apply, Manifest.kind_masked, hget]
  split
  · rfl
  · cases table.objects[(⟨manifest.kind, name⟩ : Key)]? with
    | none =>
      simp only [Option.map_none, Except.map, masked_insert]
      simp only [Declaration.fresh, Declaration.masked, Manifest.kind_masked]
    | some object =>
      simp only [Option.map_some, Except.map, masked_insert]
      rfl

/-- A masked table loses the same object. -/
theorem delete_masked (key : Key) :
    table.masked.delete key = ((table.delete key).1, (table.delete key).2.masked) := by
  refine Prod.ext ?_ (eq_of_get? fun other => ?_)
  · simp only [delete_fst, get?_masked, Option.isSome_map]
  · simp only [get?_delete, get?_masked]
    split <;> rfl

/-- A masked table takes a status as the table does. -/
theorem updateStatus_masked (key : Key) (expected : UInt64) (status : Status) :
    table.masked.updateStatus key expected status =
      (table.updateStatus key expected status).map fun result => (result.1, result.2.masked) := by
  have hget := table.get?_masked key
  simp only [get?] at hget
  simp only [updateStatus, hget]
  cases table.objects[key]? with
  | none => rfl
  | some object =>
    simp only [Option.map_some, Declaration.masked]
    split
    · rfl
    · split
      · simp only [Except.map, masked_insert]
        rfl
      · rfl

end Table

/-! ## Stores in memory -/

def MemoryStore.masked (store : MemoryStore) : MemoryStore :=
  { store with table := store.table.masked }

namespace MemoryStore

variable (store : MemoryStore)

/-- A masked object is applied to a masked store as the object is to the store. -/
theorem apply_masked (name : String) (manifest : Manifest) :
    store.masked.apply name manifest.masked =
      ((store.apply name manifest).1.map .masked, (store.apply name manifest).2.masked) := by
  simp only [apply, masked, Table.apply_masked]
  cases store.table.apply name manifest <;> rfl

/-- A masked store loses the same object. -/
theorem delete_masked (key : Key) :
    store.masked.delete key = ((store.delete key).1, (store.delete key).2.masked) := by
  simp only [delete, masked, Table.delete_masked]
  rcases store.table.delete key with ⟨_ | _, after⟩ <;> rfl

/-- A masked store takes a status as the store does. -/
theorem updateStatus_masked (key : Key) (expected : UInt64) (status : Status) :
    store.masked.updateStatus key expected status =
      ((store.updateStatus key expected status).1,
        (store.updateStatus key expected status).2.masked) := by
  simp only [updateStatus, masked, Table.updateStatus_masked]
  cases store.table.updateStatus key expected status <;> rfl

end MemoryStore

end Reconciler
