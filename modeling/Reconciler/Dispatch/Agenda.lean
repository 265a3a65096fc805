import Reconciler.Kind
import Std.Data.ExtTreeMap

/-!
# The agenda

When each object is due for its next pass. An object has at most one due time, and scheduling
it again keeps the earlier one. Times are milliseconds of the dispatcher's own timer.
-/

set_option autoImplicit false

namespace Reconciler

/-- The due times of objects. -/
structure Agenda where
  due : Std.ExtTreeMap Key Nat

namespace Agenda

def empty : Agenda := ⟨∅⟩

def due? (agenda : Agenda) (key : Key) : Option Nat :=
  agenda.due[key]?

/-- Puts an object on the agenda, unless it is due earlier already. -/
def schedule (agenda : Agenda) (key : Key) (time : Nat) : Agenda :=
  ⟨agenda.due.insert key ((agenda.due? key).elim time (min · time))⟩

/-- Puts several objects on the agenda at one time. -/
def scheduleAll (agenda : Agenda) (keys : List Key) (time : Nat) : Agenda :=
  keys.foldl (fun agenda key => agenda.schedule key time) agenda

def forget (agenda : Agenda) (key : Key) : Agenda :=
  ⟨agenda.due.erase key⟩

def next? (agenda : Agenda) : Option Nat :=
  (agenda.due.toList.map (·.2)).min?

/-- The objects that are due at a time, the earliest first, those due together by key. -/
def dueAt (agenda : Agenda) (time : Nat) : List Key :=
  ((agenda.due.toList.filter (·.2 ≤ time)).mergeSort fun a b => a.2 ≤ b.2).map (·.1)

/-- Takes the objects that are due at a time off the agenda. -/
def takeDue (agenda : Agenda) (time : Nat) : List Key × Agenda :=
  (agenda.dueAt time, ⟨agenda.due.filter fun _ due => time < due⟩)

/-- Scheduling a key brings its due time forward if it can, and leaves the other keys alone. -/
theorem due?_schedule (agenda : Agenda) (key other : Key) (time : Nat) :
    (agenda.schedule key time).due? other =
      if key = other then some ((agenda.due? key).elim time (min · time))
      else agenda.due? other := by
  simp [schedule, due?, Std.ExtTreeMap.getElem?_insert]

/-- A forgotten key is due at no time; the other keys are left alone. -/
theorem due?_forget (agenda : Agenda) (key other : Key) :
    (agenda.forget key).due? other = if key = other then none else agenda.due? other := by
  simp [forget, due?, Std.ExtTreeMap.getElem?_erase]

/-- After the due keys were taken, what is left are the keys that are due later. -/
theorem due?_takeDue (agenda : Agenda) (time : Nat) (key : Key) :
    (agenda.takeDue time).2.due? key = (agenda.due? key).filter (time < ·) := by
  simp [takeDue, due?]

end Agenda

end Reconciler
