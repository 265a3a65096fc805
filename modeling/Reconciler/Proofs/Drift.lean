import Reconciler.Drift

/-!
# When nothing drifts

A field does not drift exactly when it has its desired value. An absent actual value reads as
the empty one, and lists of identifiers have the same members exactly when they are the same in
ascending order.
-/

set_option autoImplicit false

namespace Reconciler.Drift

/-! ## Single values -/

/-- A text agrees with itself. -/
theorem compare_self (field value : String) : compare field value value = [] :=
  if_pos rfl

/-- Texts are reported exactly when they differ. -/
theorem compare_eq_nil_iff {field desired actual : String} :
    compare field desired actual = [] ↔ desired = actual := by
  unfold compare
  split
  · next h => exact iff_of_true rfl h
  · next h => exact iff_of_false (List.cons_ne_nil _ _) h

/-- A declared value agrees with itself. -/
theorem compareDeclared_self (field : String) (value : Option String) :
    compareDeclared field value value = [] := by
  cases value with
  | none => rfl
  | some value => exact compare_self field value

/-- A declared value is reported exactly when it is there and differs from the actual one, where
absent counts as blank. -/
theorem compareDeclared_eq_nil_iff {field : String} {desired actual : Option String} :
    compareDeclared field desired actual = [] ↔ ∀ value ∈ desired, value = actual.getD "" := by
  cases desired with
  | none => simp [compareDeclared]
  | some value => simp [compareDeclared, compare_eq_nil_iff]

/-! ## Sets -/

/-- Sorting drops repeated names only. -/
theorem mem_ascending {name : String} {names : List String} :
    name ∈ ascending names ↔ name ∈ names := by
  simp [ascending]

/-- Lists with the same members are the same in ascending order. -/
theorem ascending_eq_iff {names others : List String} :
    ascending names = ascending others ↔ ∀ name, name ∈ names ↔ name ∈ others := by
  constructor
  · intro h name
    rw [← mem_ascending, h, mem_ascending]
  · intro h
    have hsets : Std.ExtTreeSet.ofList names Ord.compare = .ofList others Ord.compare := by
      refine Std.ExtTreeSet.ext_mem fun name => ?_
      simpa using h name
    rw [ascending, hsets, ascending]

/-- Lists of names are reported exactly when they differ as sets. -/
theorem compareMembers_eq_nil_iff {field : String} {desired actual : List String} :
    compareMembers field desired actual = [] ↔ ascending desired = ascending actual := by
  have hmissing : (ascending desired).filter (· ∉ actual) = [] ↔
      ∀ name, name ∈ desired → name ∈ actual := by
    simp [List.filter_eq_nil_iff, mem_ascending]
  have hunexpected : (ascending actual).filter (· ∉ desired) = [] ↔
      ∀ name, name ∈ actual → name ∈ desired := by
    simp [List.filter_eq_nil_iff, mem_ascending]
  have hboth : (ascending desired).filter (· ∉ actual) = [] ∧
      (ascending actual).filter (· ∉ desired) = [] ↔ ascending desired = ascending actual := by
    rw [hmissing, hunexpected, ascending_eq_iff]
    exact forall_and.symm.trans (forall_congr' fun _ => iff_def.symm)
  rw [← hboth]
  simp only [compareMembers, List.isEmpty_iff, Bool.and_eq_true]
  split
  · next h => exact iff_of_true rfl h
  · next h => exact iff_of_false (List.cons_ne_nil _ _) h

/-- A list of names agrees with itself. -/
theorem compareMembers_self (field : String) (names : List String) :
    compareMembers field names names = [] :=
  compareMembers_eq_nil_iff.mpr rfl

/-! ## Parameters -/

/-- A parameter is reported exactly when it is not set to the declared value. -/
theorem compareParameter_eq_nil_iff {actual : ParameterMap} {desired : Parameter} :
    compareParameter actual desired = [] ↔ actual[desired.name]? = some desired.value := by
  unfold compareParameter
  split
  · next value hvalue => rw [hvalue, compare_eq_nil_iff, Option.some.injEq, eq_comm]
  · next hunset => simp [hunset]

/-- Declared parameters do not drift exactly when each of them has its value. -/
theorem flatMap_compareParameter_eq_nil_iff {actual : ParameterMap}
    {parameters : List Parameter} :
    parameters.flatMap (compareParameter actual) = [] ↔
      ∀ parameter ∈ parameters, actual[parameter.name]? = some parameter.value := by
  simp only [List.flatMap_eq_nil_iff, compareParameter_eq_nil_iff]

end Reconciler.Drift
