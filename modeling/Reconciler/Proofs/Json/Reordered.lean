import Mathlib.Data.List.Forall2
import Mathlib.Data.List.Permutation
import Reconciler.Proofs.Json.Token

/-!
# Values up to the order of members

An object is a set of named members, and a printer may give them in any order. `Reordered` relates
two values that differ in nothing but this order, at any depth; the order of the items of an array
is kept, and so is that of members with the same name.
-/

set_option autoImplicit false

namespace Reconciler.Json

/-- Two values that differ at most in the order in which objects give members of different
names. -/
inductive Reordered : Json → Json → Prop where
  | refl (json : Json) : Reordered json json
  | arr {items others : List Json} (hitems : List.Forall₂ Reordered items others) :
      Reordered (.arr items) (.arr others)
  | obj {members others : List (String × Json)}
      (hmembers : ∀ name, List.Forall₂ Reordered (named members name) (named others name)) :
      Reordered (.obj members) (.obj others)

/-- The members of an object are the declared ones in some order. -/
def Carries (declared members : List (String × Json)) : Prop :=
  ∀ name, List.Forall₂ Reordered (named declared name) (named members name)

/-- A value that has one order only. -/
def Rigid (json : Json) : Prop :=
  ∀ other, json.Reordered other → other = json

variable {room : Nat} {json other : Json} {items : List Json}
  {declared members : List (String × Json)} {name : String}

namespace Reordered

/-- An array in another order is an array, item by item. -/
theorem exists_items (h : (Json.arr items).Reordered other) :
    ∃ others, other = .arr others ∧ List.Forall₂ Reordered items others := by
  cases h with
  | refl => exact ⟨items, rfl, List.forall₂_same.mpr fun item _ => .refl item⟩
  | arr hitems => exact ⟨_, rfl, hitems⟩

/-- An object in another order is an object with the same members in some order. -/
theorem exists_members (h : (Json.obj declared).Reordered other) :
    ∃ members, other = .obj members ∧ Carries declared members := by
  cases h with
  | refl => exact ⟨declared, rfl, fun _ => List.forall₂_same.mpr fun value _ => .refl value⟩
  | obj hmembers => exact ⟨_, rfl, hmembers⟩

/-- Another order does not make a value `null`. -/
theorem isNull_eq (h : json.Reordered other) : other.isNull = json.isNull := by
  cases h <;> rfl

end Reordered

/-! ## Values of one order -/

/-- A text has one order only. -/
theorem rigid_str (text : String) : Rigid (.str text) := by
  intro other h
  cases h
  rfl

/-- A whole number has one order only. -/
theorem rigid_int (value : Int) : Rigid (.int value) := by
  intro other h
  cases h
  rfl

/-- A truth value has one order only. -/
theorem rigid_bool (value : Bool) : Rigid (.bool value) := by
  intro other h
  cases h
  rfl

/-! ## Members -/

/-- The values under a name are that of the first member, if it has the name, and those of the
rest. -/
theorem named_cons (member : String × Json) (rest : List (String × Json)) (name : String) :
    named (member :: rest) name =
      if member.1 = name then member.2 :: named rest name else named rest name := by
  by_cases hname : member.1 = name <;> simp [named, hname]

/-- The values under a name are those of the members with that name. -/
theorem mem_named {value : Json} : value ∈ named members name ↔ (name, value) ∈ members := by
  simp [named]

/-- Leaving out the members of one name keeps the values under every other name. -/
theorem named_filter_ne (members : List (String × Json)) (name field : String) :
    named (members.filter (·.1 ≠ name)) field =
      if field = name then [] else named members field := by
  by_cases hfield : field = name
  · rw [if_pos hfield, named, List.filterMap_eq_nil_iff]
    intro member hmember
    have hother : member.1 ≠ name := of_decide_eq_true (List.mem_filter.mp hmember).2
    exact if_neg (hfield ▸ hother)
  · rw [if_neg hfield, named, named, List.filterMap_filter]
    congr 1
    funext member
    by_cases hmember : member.1 = name <;> simp [hmember, Ne.symm hfield]

namespace Carries

/-- A name that is declared once is given once, by the same value in some order. -/
theorem exists_value (h : Carries declared members) (name : String)
    (hdeclared : named declared name = [json]) :
    ∃ other, named members name = [other] ∧ json.Reordered other := by
  have hvalues := h name
  rw [hdeclared, List.forall₂_cons_left_iff] at hvalues
  obtain ⟨other, rest, hother, hrest, heq⟩ := hvalues
  rw [List.forall₂_nil_left_iff.mp hrest] at heq
  exact ⟨other, heq, hother⟩

/-- A name that is declared once with a value of one order only is given once with that value. -/
theorem named_eq (h : Carries declared members) (hdeclared : named declared name = [json])
    (hrigid : Rigid json) : named members name = [json] := by
  obtain ⟨other, hnamed, hother⟩ := h.exists_value name hdeclared
  rw [hnamed, hrigid other hother]

/-- A name that is not declared is not given. -/
theorem named_eq_nil (h : Carries declared members) (hdeclared : named declared name = []) :
    named members name = [] := by
  have hvalues := h name
  rw [hdeclared, List.forall₂_nil_left_iff] at hvalues
  exact hvalues

end Carries

/-- The members of two names are those of the one and those of the other, mixed in some way. -/
theorem perm_filter_pair {first second : String} (hne : first ≠ second)
    (members : List (String × Json)) :
    (members.filter fun member => member.1 = first ∨ member.1 = second).Perm
      ((named members first).map (first, ·) ++ (named members second).map (second, ·)) := by
  induction members with
  | nil => exact .refl []
  | cons member rest ih =>
    obtain ⟨name, value⟩ := member
    by_cases hfirst : name = first
    · subst hfirst
      simpa [named, hne] using ih
    · by_cases hsecond : name = second
      · subst hsecond
        simpa [named, hfirst] using (ih.cons (name, value)).trans List.perm_middle.symm
      · simpa [named, hfirst, hsecond] using ih

/-- Two members that an object has once each come in one of two orders. -/
theorem filter_pair_cases {first second : String} (hne : first ≠ second) {value other : Json}
    (hfirst : named members first = [value]) (hsecond : named members second = [other]) :
    (members.filter fun member => member.1 = first ∨ member.1 = second) =
        [(first, value), (second, other)] ∨
      (members.filter fun member => member.1 = first ∨ member.1 = second) =
        [(second, other), (first, value)] := by
  have hperm := perm_filter_pair hne members
  rw [hfirst, hsecond] at hperm
  exact List.perm_pair.mp hperm

/-- The order of members with different names does not matter to what a name gives. -/
theorem named_eq_of_perm (hperm : declared.Perm members) (hnodup : (declared.map (·.1)).Nodup)
    (name : String) : named declared name = named members name := by
  induction hperm with
  | nil => rfl
  | cons member _ ih => rw [named_cons, named_cons, ih (List.nodup_cons.mp hnodup).2]
  | swap member other rest =>
    have hne : other.1 ≠ member.1 := by
      simp only [List.map_cons, List.nodup_cons, List.mem_cons, not_or] at hnodup
      exact hnodup.1.1
    by_cases hmember : member.1 = name
    · have hother : other.1 ≠ name := hmember ▸ hne
      simp [named_cons, hother]
    · simp [named_cons, hmember]
  | trans hfirst _ ihfirst ihsecond =>
    exact (ihfirst hnodup).trans (ihsecond ((hfirst.map _).nodup hnodup))

/-- Members of different names may stand in any order. -/
theorem Reordered.of_perm {others : List (String × Json)} (hperm : declared.Perm members)
    (hnodup : (declared.map (·.1)).Nodup)
    (hmembers : List.Forall₂ (fun member other => member.1 = other.1 ∧ member.2.Reordered other.2)
      members others) :
    (Json.obj declared).Reordered (.obj others) := by
  refine .obj fun name => ?_
  rw [named_eq_of_perm hperm hnodup name]
  clear hperm hnodup
  induction hmembers with
  | nil => exact .nil
  | @cons member other _ _ hmember _ ih =>
    rw [named_cons, named_cons, hmember.1]
    by_cases hname : other.1 = name
    · rw [if_pos hname, if_pos hname]
      exact .cons hmember.2 ih
    · rwa [if_neg hname, if_neg hname]

/-! ## Plain values -/

/-- What related values have the others have as well, value by value. -/
theorem forall_mem_of_forall₂ {α β : Type} {R : α → β → Prop} {p : β → Prop} {values : List α}
    {others : List β} (h : List.Forall₂ R values others)
    (hp : ∀ value ∈ values, ∀ other, R value other → p other) : ∀ other ∈ others, p other := by
  induction h with
  | nil => exact fun _ hother => absurd hother List.not_mem_nil
  | cons hvalue _ ih =>
    rw [List.forall_mem_cons] at hp ⊢
    exact ⟨hp.1 _ hvalue, ih hp.2⟩

/-- A plain value is plain in any order. -/
theorem Plain.reordered (h : Plain room json) (hother : json.Reordered other) :
    Plain room other := by
  -- on the plain value, since `Reordered` is nested and has no induction of its own
  induction h generalizing other with
  | null room => cases hother; exact .null room
  | bool room value => cases hother; exact .bool room value
  | int hlow hhigh => cases hother; exact .int hlow hhigh
  | str room value => cases hother; exact .str room value
  | arr hitems ih =>
    obtain ⟨others, rfl, hsame⟩ := hother.exists_items
    exact .arr (forall_mem_of_forall₂ hsame fun item hitem other => ih item hitem)
  | obj hmembers ih =>
    obtain ⟨others, rfl, hsame⟩ := hother.exists_members
    refine .obj fun member hmember => ?_
    refine forall_mem_of_forall₂ (hsame member.1) (fun value hvalue other => ?_) member.2
      (mem_named.mpr hmember)
    exact ih _ (mem_named.mp hvalue)

end Reconciler.Json
