import Reconciler.Store.Table

/-!
# Looking into the table

The objects of the table are those found under some key, and they are listed in the order of
their keys.
-/

set_option autoImplicit false

namespace Reconciler

/-- A key comes before another one by its kind, or by its name under the same kind. -/
theorem Key.compare_eq_lt_iff {first second : Key} :
    compare first second = .lt ↔
      first.kind.rank < second.kind.rank ∨
        first.kind = second.kind ∧ first.name < second.name := by
  show (compare first.kind.rank second.kind.rank).then (compare first.name second.name) = .lt ↔ _
  have hname : compare first.name second.name = .lt ↔ first.name < second.name :=
    compareOfLessAndEq_eq_lt
  have hkind : first.kind.rank = second.kind.rank ↔ first.kind = second.kind :=
    ⟨Kind.rank_injective, congrArg Kind.rank⟩
  rw [Ordering.then_eq_lt, Nat.compare_eq_lt, Nat.compare_eq_eq, hname, hkind]

namespace Table

/-- The objects that are listed are those found under some key. -/
theorem mem_toList_iff (table : Table) (object : Declaration) :
    object ∈ table.toList ↔ ∃ key, table.get? key = some object := by
  simp only [toList, List.mem_map, get?]
  constructor
  · rintro ⟨⟨key, _⟩, hentry, rfl⟩
    exact ⟨key, Std.ExtTreeMap.mem_toList_iff_getElem?_eq_some.mp hentry⟩
  · rintro ⟨key, hkey⟩
    exact ⟨(key, object), Std.ExtTreeMap.mem_toList_iff_getElem?_eq_some.mpr hkey, rfl⟩

/-- An object is put under its own key, and the others stay. -/
theorem get?_put (table : Table) (object : Declaration) (key : Key) :
    (table.put object).get? key = if object.key = key then some object else table.get? key := by
  simp [put, get?, Std.ExtTreeMap.getElem?_insert]

/-- Nothing is found in an empty table. -/
@[simp]
theorem get?_empty (key : Key) : empty.get? key = none := by
  simp [empty, get?]

/-- Tables with the same objects under the same keys are the same. -/
theorem eq_of_get? {table other : Table} (h : ∀ key, table.get? key = other.get? key) :
    table = other :=
  congrArg Table.mk (Std.ExtTreeMap.ext_getElem? fun key => h key)

/-- A removal answers whether the object was there. -/
theorem delete_fst (table : Table) (key : Key) :
    (table.delete key).1 = (table.get? key).isSome := by
  have hmem : key ∈ table.objects ↔ (table.get? key).isSome = true :=
    Std.ExtTreeMap.mem_iff_isSome_getElem?
  simp only [delete, hmem, Bool.decide_eq_true]

/-- Removing what is not there changes nothing. -/
theorem delete_snd_of_absent {table after : Table} {key : Key}
    (h : table.delete key = (false, after)) : after = table := by
  have habsent : table.get? key = none := by
    have hthere := table.delete_fst key
    rw [h] at hthere
    exact Option.isNone_iff_eq_none.mp (by simpa using hthere.symm)
  refine eq_of_get? fun other => ?_
  have hget := table.get?_delete key other
  rw [h] at hget
  rw [hget]
  split
  · next heq => rw [← heq, habsent]
  · rfl

end Table

end Reconciler
