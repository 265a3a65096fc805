import Reconciler.Store.Watch

/-!
# What waiting changes tell

The last that the waiting changes of a watch tell about an object: that it was declared, or that
it was removed. A change about another object leaves that as it is, unless the watch drops its
oldest change, which it remembers.
-/

set_option autoImplicit false

namespace Reconciler

/-- What a change tells about an object: whether it is declared. -/
def Change.word? (key : Key) : Change → Option Bool
  | .applied other => if other = key then some true else none
  | .deleted other => if other = key then some false else none
  | .resync => none

/-- What the last change about an object tells. -/
def lastWord? (key : Key) (changes : List Change) : Option Bool :=
  (changes.filterMap (Change.word? key)).getLast?

variable {key : Key} {change : Change} {changes : List Change} {watch : Watch}

/-- The last word of two lists is that of the second, if it has one, and else that of the first. -/
theorem lastWord?_append (key : Key) (first second : List Change) :
    lastWord? key (first ++ second) = (lastWord? key second).or (lastWord? key first) := by
  rw [lastWord?, List.filterMap_append, List.getLast?_append]
  rfl

/-- The last word of one change is its own. -/
@[simp]
theorem lastWord?_singleton (key : Key) (change : Change) :
    lastWord? key [change] = change.word? key := by
  rw [lastWord?, List.filterMap_cons, List.filterMap_nil]
  cases change.word? key <;> rfl

/-- The last word of a list is that of its rest, if it has one, and else that of its first
change. -/
theorem lastWord?_cons (key : Key) (change : Change) (changes : List Change) :
    lastWord? key (change :: changes) = (lastWord? key changes).or (change.word? key) := by
  rw [← List.singleton_append, lastWord?_append, lastWord?_singleton]

/-- A change tells that an object is declared exactly when it was applied. -/
theorem Change.word?_eq_true_iff : change.word? key = some true ↔ change = .applied key := by
  cases change <;> simp [word?]

/-- A change tells that an object is gone exactly when it was deleted. -/
theorem Change.word?_eq_false_iff : change.word? key = some false ↔ change = .deleted key := by
  cases change <;> simp [word?]

/-- No removal waits where there is no word about an object. -/
theorem deleted_notMem (h : lastWord? key changes = none) : .deleted key ∉ changes := by
  intro hmem
  have hword := List.filterMap_eq_nil_iff.mp (List.getLast?_eq_none_iff.mp h) _ hmem
  simp [Change.word?] at hword

/-- An object whose last change declared it has a declaration that no removal follows. -/
theorem exists_of_lastWord? (h : lastWord? key changes = some true) :
    ∃ before after, changes = before ++ .applied key :: after ∧ .deleted key ∉ after := by
  induction changes with
  | nil => cases h
  | cons change rest ih =>
    rw [lastWord?_cons] at h
    rcases Option.or_eq_some_iff.mp h with hrest | ⟨hnone, hword⟩
    · obtain ⟨before, after, rfl, hafter⟩ := ih hrest
      exact ⟨change :: before, after, rfl, hafter⟩
    · obtain rfl := Change.word?_eq_true_iff.mp hword
      exact ⟨[], rest, rfl, deleted_notMem hnone⟩

namespace Watch

/-- Without its oldest change a list has the same last word, or none. -/
theorem lastWord?_drop (key : Key) (changes : List Change) :
    lastWord? key (changes.drop 1) = lastWord? key changes ∨
      lastWord? key (changes.drop 1) = none := by
  cases changes with
  | nil => exact .inl rfl
  | cons change rest =>
    rw [List.drop_one, List.tail_cons, lastWord?_cons]
    cases lastWord? key rest with
    | none => exact .inr rfl
    | some word => exact .inl rfl

/-- A change about an object is the last that is told about it. -/
theorem lastWord?_push_of_some (watch : Watch) {word : Bool} (h : change.word? key = some word) :
    lastWord? key (watch.push change).pending = some word := by
  unfold push
  split <;> simp [lastWord?_append, h]

/-- A change about something else leaves the last word about an object as it is, unless the watch
drops that word. -/
theorem lastWord?_push_of_none (watch : Watch) (h : change.word? key = none) :
    lastWord? key (watch.push change).pending = lastWord? key watch.pending ∨
      (watch.push change).lagged = true ∧ lastWord? key (watch.push change).pending = none := by
  unfold push
  split
  · simp [lastWord?_append, h]
  · simpa [lastWord?_append, h] using lastWord?_drop key watch.pending

/-- What is read from a watch is that changes were dropped, or else its oldest change. -/
theorem next?_cases {rest : Watch} (h : watch.next? = some (change, rest)) :
    (watch.lagged = true ∧ change = .resync ∧ rest = { watch with lagged := false }) ∨
      watch.lagged = false ∧ watch.pending = change :: rest.pending ∧ rest.lagged = false := by
  unfold next? at h
  split at h
  · next hlagged =>
    cases h
    exact .inl ⟨hlagged, rfl, rfl⟩
  · next hlagged =>
    have hfalse : watch.lagged = false := by simpa using hlagged
    split at h
    · cases h
    · next hpending =>
      cases h
      exact .inr ⟨hfalse, hpending, hfalse⟩

/-- Draining a watch is reading one change after the other until none waits. -/
theorem drain_eq_next? (watch : Watch) :
    watch.drain.1 = match watch.next? with
      | none => []
      | some (change, rest) => change :: rest.drain.1 := by
  obtain ⟨pending, lagged⟩ := watch
  cases lagged with
  | true => rfl
  | false => cases pending <;> rfl

/-- A watch that lags goes on lagging. -/
theorem lagged_push (h : watch.lagged = true) : (watch.push change).lagged = true := by
  unfold push
  split
  · exact h
  · rfl

end Watch

end Reconciler
