import Reconciler.Proofs.Store.Operation
import Reconciler.Proofs.Store.Table

/-!
# Objects under their own keys

In a table that operations have filled, every object is found under the key that it carries, so
the list of its objects makes up the table again.
-/

set_option autoImplicit false

namespace Reconciler.Table

/-- Every object is under its own key. -/
def Keyed (table : Table) : Prop :=
  ∀ key object, table.get? key = some object → object.key = key

variable {table : Table}

/-- An empty table is keyed. -/
theorem keyed_empty : Keyed empty := fun key object h => by simp at h

/-- An object that is put under its own key keeps a table keyed. -/
theorem Keyed.put (hkeyed : table.Keyed) (object : Declaration) : (table.put object).Keyed := by
  intro key found hfound
  rw [get?_put] at hfound
  split at hfound
  · next hkey =>
    cases hfound
    exact hkey
  · exact hkeyed key found hfound

/-- A table made from a list is keyed. -/
theorem keyed_ofList (objects : List Declaration) : (ofList objects).Keyed :=
  List.foldlRecOn objects put keyed_empty fun _ hkeyed object _ => hkeyed.put object

/-- In a keyed table a spec is applied to the object under its own key. -/
theorem Keyed.apply (hkeyed : table.Keyed) {name : String} {manifest : Manifest}
    {object : Declaration} {after : Table} (h : table.apply name manifest = .ok (object, after)) :
    object.key = ⟨manifest.kind, name⟩ := by
  simp only [Table.apply] at h
  split at h
  · cases h
  · split at h
    · next existing hexisting =>
      cases h
      exact hkeyed _ existing hexisting
    · cases h
      rfl

/-- Applying a spec keeps a table keyed. -/
theorem Keyed.applied (hkeyed : table.Keyed) (name : String) (manifest : Manifest) :
    (table.applied name manifest).Keyed := by
  unfold Table.applied
  split
  · next object after h =>
    intro key found hfound
    rw [get?_of_apply h] at hfound
    split at hfound
    · next hkey =>
      cases hfound
      rw [hkeyed.apply h, hkey]
    · exact hkeyed key found hfound
  · exact hkeyed

/-- Removing an object keeps a table keyed. -/
theorem Keyed.delete (hkeyed : table.Keyed) (key : Key) : (table.delete key).2.Keyed := by
  intro other found hfound
  rw [get?_delete] at hfound
  split at hfound
  · cases hfound
  · exact hkeyed other found hfound

/-- Offering a status keeps a table keyed. -/
theorem Keyed.offered (hkeyed : table.Keyed) (key : Key) (expected : UInt64) (status : Status) :
    (table.offered key expected status).Keyed := by
  unfold Table.offered
  split
  · next version after h =>
    intro other found hfound
    rw [get?_of_updateStatus h] at hfound
    split at hfound
    · next hkey =>
      obtain ⟨object, hobject, rfl⟩ := Option.map_eq_some_iff.mp hfound
      rw [← hkey]
      exact hkeyed key object hobject
    · exact hkeyed other found hfound
  · exact hkeyed

/-- Every operation keeps a table keyed. -/
theorem Keyed.onTable (hkeyed : table.Keyed) (operation : Operation) :
    (operation.onTable table).Keyed := by
  cases operation with
  | get key => exact hkeyed
  | apply name manifest => exact hkeyed.applied name manifest
  | delete key => exact hkeyed.delete key
  | updateStatus key expected status => exact hkeyed.offered key expected status

/-- Operations in a row keep a table keyed. -/
theorem Keyed.after (h : table.Keyed) (operations : List Operation) :
    (table.after operations).Keyed := by
  induction operations generalizing table with
  | nil => exact h
  | cons operation rest ih => exact ih (h.onTable operation)

/-- Objects with other keys do not change what is found under a key. -/
theorem get?_foldl_put_of_ne {objects : List Declaration} {key : Key}
    (h : ∀ object ∈ objects, object.key ≠ key) (table : Table) :
    (objects.foldl put table).get? key = table.get? key := by
  induction objects generalizing table with
  | nil => rfl
  | cons object rest ih =>
    rw [List.foldl_cons, ih (fun other hother => h other (List.mem_cons_of_mem _ hother)),
      get?_put, if_neg (h object List.mem_cons_self)]

/-- The only object of a list with a key is found under it. -/
theorem get?_foldl_put_of_mem {objects : List Declaration} {key : Key} {object : Declaration}
    (hmem : object ∈ objects) (hkey : object.key = key)
    (honly : ∀ other ∈ objects, other.key = key → other = object) (table : Table) :
    (objects.foldl put table).get? key = some object := by
  induction objects generalizing table with
  | nil => cases hmem
  | cons first rest ih =>
    have honlyRest := fun other hother => honly other (List.mem_cons_of_mem first hother)
    by_cases hrest : object ∈ rest
    · exact ih hrest honlyRest (table.put first)
    · have hfirst : first = object := by
        rcases List.mem_cons.mp hmem with hsame | hin
        · exact hsame.symm
        · exact absurd hin hrest
      rw [List.foldl_cons, get?_foldl_put_of_ne (fun other hother hsame =>
        hrest (honlyRest other hother hsame ▸ hother)), get?_put, hfirst, if_pos hkey]

/-- The objects of a table in which each is under its own key make up the table. -/
theorem ofList_toList (hkeyed : table.Keyed) : ofList table.toList = table := by
  refine eq_of_get? fun key => ?_
  cases hfound : table.get? key with
  | none =>
    rw [ofList, get?_foldl_put_of_ne, get?_empty]
    intro object hobject hkey
    obtain ⟨other, hother⟩ := (mem_toList_iff table object).mp hobject
    rw [← hkey, hkeyed other object hother, hother] at hfound
    cases hfound
  | some object =>
    refine get?_foldl_put_of_mem ((mem_toList_iff table object).mpr ⟨key, hfound⟩)
      (hkeyed key object hfound) (fun other hother hkey => ?_) _
    obtain ⟨place, hplace⟩ := (mem_toList_iff table other).mp hother
    rw [← hkeyed place other hplace, hkey, hfound] at hplace
    exact (Option.some.inj hplace).symm

/-- The objects are listed in the order of their keys. -/
theorem Keyed.pairwise_toList (hkeyed : table.Keyed) :
    table.toList.Pairwise fun first second => compare first.key second.key = .lt := by
  have howner : ∀ entry ∈ table.objects.toList, entry.2.key = entry.1 := fun entry hentry =>
    hkeyed entry.1 entry.2 (Std.ExtTreeMap.mem_toList_iff_getElem?_eq_some.mp hentry)
  rw [toList, List.pairwise_map]
  refine Std.ExtTreeMap.ordered_keys_toList.imp_of_mem fun hfirst hsecond horder => ?_
  rwa [howner _ hfirst, howner _ hsecond]

end Reconciler.Table
