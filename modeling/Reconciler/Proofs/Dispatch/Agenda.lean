import Mathlib.Data.List.DropRight
import Mathlib.Order.Bounds.Defs
import Reconciler.Dispatch.Agenda

/-!
# The agenda as a map of least times

What an agenda holds is told by the history of what was done to it. An object is due at the least
of the times for which it was scheduled since it was last forgotten or taken
(`agenda_holds_least_times`). Taking what is due sorts by the time alone, but the objects are gone
through in the order of their keys and the sort is stable, so those due together come by key.
-/

set_option autoImplicit false

namespace Reconciler.Agenda

variable {agenda : Agenda} {key : Key}

/-! ## When an object is on the agenda -/

/-- A key is due at no time after scheduling exactly if it is another key and was due at no time
before. -/
theorem due?_schedule_eq_none_iff (agenda : Agenda) (key other : Key) (time : Nat) :
    (agenda.schedule key time).due? other = none ↔ key ≠ other ∧ agenda.due? other = none := by
  rw [due?_schedule]
  split
  · next h => simp [h]
  · next h => simp [h]

/-- A key is due at no time after scheduling several exactly if it is none of them and was due at no
time before. -/
theorem due?_scheduleAll_eq_none_iff (agenda : Agenda) (keys : List Key) (time : Nat)
    (other : Key) :
    (agenda.scheduleAll keys time).due? other = none ↔
      other ∉ keys ∧ agenda.due? other = none := by
  induction keys generalizing agenda with
  | nil => simp [scheduleAll]
  | cons key rest ih =>
    have hrest : (agenda.scheduleAll (key :: rest) time).due? other =
        ((agenda.schedule key time).scheduleAll rest time).due? other := rfl
    rw [hrest, ih, due?_schedule_eq_none_iff, List.mem_cons, not_or, eq_comm (a := other),
      and_left_comm, and_assoc]

/-- The keys due at a time are those whose own time has come. -/
theorem mem_dueAt_iff (agenda : Agenda) (time : Nat) (key : Key) :
    key ∈ agenda.dueAt time ↔ ∃ due ∈ agenda.due? key, due ≤ time := by
  simp [dueAt, due?]

/-- An object is on the agenda, or among those that were taken off it, or was on neither. -/
theorem due?_of_takeDue {time : Nat} (htaken : key ∉ (agenda.takeDue time).1)
    (hleft : (agenda.takeDue time).2.due? key = none) : agenda.due? key = none := by
  rw [due?_takeDue] at hleft
  refine Option.eq_none_iff_forall_ne_some.mpr fun due hdue => htaken ?_
  rw [hdue] at hleft
  refine (mem_dueAt_iff agenda time key).mpr ⟨due, hdue, ?_⟩
  simpa using hleft

/-! ## The next time -/

/-- The entries of the agenda are the keys with their due times. -/
theorem mem_toList_iff (agenda : Agenda) (key : Key) (due : Nat) :
    (key, due) ∈ agenda.due.toList ↔ agenda.due? key = some due :=
  Std.ExtTreeMap.mem_toList_iff_getElem?_eq_some

/-- The times of the agenda are the due times of its keys. -/
theorem mem_times_iff (agenda : Agenda) (time : Nat) :
    time ∈ agenda.due.toList.map (·.2) ↔ ∃ key, agenda.due? key = some time := by
  simp only [List.mem_map, Prod.exists, mem_toList_iff, exists_eq_right]

/-- The next time is the least of all due times. -/
theorem next?_eq_some_iff (agenda : Agenda) (time : Nat) :
    agenda.next? = some time ↔ IsLeast {due | ∃ key, agenda.due? key = some due} time := by
  rw [next?, List.min?_eq_some_iff, mem_times_iff]
  simp only [mem_times_iff]
  rfl

/-- There is no next time exactly when no key is due at any time. -/
theorem next?_eq_none_iff (agenda : Agenda) :
    agenda.next? = none ↔ ∀ key, agenda.due? key = none := by
  rw [next?, List.min?_eq_none_iff, List.eq_nil_iff_forall_not_mem]
  simp only [mem_times_iff, not_exists, Option.eq_none_iff_forall_ne_some]
  exact forall_comm

/-! ## The order in which objects are taken -/

/-- Of two objects on an agenda the first is due earlier, or both are due together and the first
has the lesser key. -/
def Precedes (agenda : Agenda) (first second : Key) : Prop :=
  ∃ s ∈ agenda.due? first, ∃ t ∈ agenda.due? second, s < t ∨ s = t ∧ compare first second = .lt

/-- An object that precedes another is not that object. -/
theorem Precedes.ne {first second : Key} (h : agenda.Precedes first second) : first ≠ second := by
  rintro rfl
  obtain ⟨s, hs, t, ht, hlt | ⟨-, hlt⟩⟩ := h
  · have : s = t := Option.mem_unique hs ht
    omega
  · rw [Std.compare_self] at hlt
    cases hlt

section

variable {α : Type} (rank : α → Nat) (list : List α)

/-- Comparing by rank is transitive. -/
theorem rank_trans (a b c : α) (hab : decide (rank a ≤ rank b) = true)
    (hbc : decide (rank b ≤ rank c) = true) : decide (rank a ≤ rank c) = true := by
  simp only [decide_eq_true_eq] at hab hbc ⊢
  exact Nat.le_trans hab hbc

/-- Comparing by rank is total. -/
theorem rank_total (a b : α) : (decide (rank a ≤ rank b) || decide (rank b ≤ rank a)) = true := by
  simp only [Bool.or_eq_true, decide_eq_true_eq]
  exact Nat.le_total _ _

/-- Sorting by a rank leaves those of one rank in their order. -/
theorem filter_mergeSort (n : Nat) :
    ((list.mergeSort fun a b => rank a ≤ rank b).filter fun a => rank a = n) =
      list.filter fun a => rank a = n := by
  have hties : (list.filter fun a => rank a = n).Pairwise
      fun a b => decide (rank a ≤ rank b) = true := by
    refine List.pairwise_filter.mpr (List.pairwise_of_forall fun a b ha hb => ?_)
    simp only [decide_eq_true_eq] at ha hb ⊢
    omega
  have hsub := (List.sublist_mergeSort (rank_trans rank) (rank_total rank) hties
    List.filter_sublist).filter fun a => decide (rank a = n)
  simp only [List.filter_filter, Bool.and_self] at hsub
  have hlength := ((List.mergeSort_perm list fun a b => rank a ≤ rank b).filter
    fun a => decide (rank a = n)).length_eq
  exact (hsub.eq_of_length hlength.symm).symm

/-- A list sorted by a rank keeps its own order among those of one rank. -/
theorem pairwise_mergeSort_of_pairwise {r : α → α → Prop} (h : list.Pairwise r) :
    (list.mergeSort fun a b => rank a ≤ rank b).Pairwise
      fun a b => rank a < rank b ∨ rank a = rank b ∧ r a b := by
  have hsorted := List.pairwise_mergeSort (rank_trans rank) (rank_total rank) list
  rw [List.pairwise_iff_forall_sublist] at h hsorted ⊢
  intro a b hab
  have hle : rank a ≤ rank b := of_decide_eq_true (hsorted hab)
  rcases Nat.lt_or_eq_of_le hle with hlt | heq
  · exact .inl hlt
  · have hties := hab.filter fun c => decide (rank c = rank b)
    rw [filter_mergeSort] at hties
    simp only [heq, decide_true, List.filter_cons_of_pos, List.filter_nil] at hties
    exact .inr ⟨heq, h (hties.trans List.filter_sublist)⟩

end

/-- Due keys come in the order of their due times, and those of one time in the order of keys. -/
theorem pairwise_dueAt (agenda : Agenda) (time : Nat) :
    (agenda.dueAt time).Pairwise agenda.Precedes := by
  have hkeys : (agenda.due.toList.filter (·.2 ≤ time)).Pairwise
      fun a b => compare a.1 b.1 = .lt :=
    Std.ExtTreeMap.ordered_keys_toList.filter _
  rw [dueAt, List.pairwise_map]
  refine (pairwise_mergeSort_of_pairwise (·.2) _ hkeys).imp_of_mem fun {a b} ha hb hab => ?_
  have hdue {c : Key × Nat} (hc : c ∈ (agenda.due.toList.filter (·.2 ≤ time)).mergeSort
      fun a b => a.2 ≤ b.2) : agenda.due? c.1 = some c.2 :=
    (mem_toList_iff agenda c.1 c.2).mp (List.mem_of_mem_filter (List.mem_mergeSort.mp hc))
  exact ⟨a.2, hdue ha, b.2, hdue hb, hab⟩

/-- What is taken off an agenda at a time, and what is left on it. -/
structure Takes (agenda : Agenda) (time : Nat) (keys : List Key) (left : Agenda) : Prop where
  mem_iff : ∀ key, key ∈ keys ↔ ∃ due ∈ agenda.due? key, due ≤ time
  nodup : keys.Nodup
  ordered : keys.Pairwise agenda.Precedes
  left_eq : ∀ key, left.due? key = if key ∈ keys then none else agenda.due? key

/-- Taking the due keys gives them in order and without repetition, and leaves all others. -/
theorem takes_takeDue (agenda : Agenda) (time : Nat) :
    agenda.Takes time (agenda.takeDue time).1 (agenda.takeDue time).2 where
  mem_iff := mem_dueAt_iff agenda time
  nodup := (pairwise_dueAt agenda time).imp Precedes.ne
  ordered := pairwise_dueAt agenda time
  left_eq key := by
    rw [due?_takeDue]
    split
    · next htaken =>
      obtain ⟨due, hdue, hle⟩ := (mem_dueAt_iff agenda time key).mp htaken
      rw [Option.mem_def.mp hdue, Option.filter_some_neg (by simpa using hle)]
    · next hleft =>
      cases hdue : agenda.due? key with
      | none => rfl
      | some due =>
        have hlt : time < due := Nat.lt_of_not_le fun hle =>
          hleft ((mem_dueAt_iff agenda time key).mpr ⟨due, hdue, hle⟩)
        exact Option.filter_some_pos (decide_eq_true hlt)

/-! ## Histories -/

/-- What is done to an agenda. -/
inductive Step where
  | schedule (key : Key) (time : Nat)
  | forget (key : Key)
  | takeDue (time : Nat)

/-- What was done to an agenda. -/
inductive Entry where
  | scheduled (key : Key) (time : Nat)
  | forgotten (key : Key)
  | taken (keys : List Key)

/-- An agenda with what was done to it, the latest last. -/
structure History where
  agenda : Agenda
  log : List Entry

namespace History

def start : History := ⟨.empty, []⟩

def next (history : History) : Step → History
  | .schedule key time =>
    ⟨history.agenda.schedule key time, history.log ++ [.scheduled key time]⟩
  | .forget key => ⟨history.agenda.forget key, history.log ++ [.forgotten key]⟩
  | .takeDue time =>
    let taken := history.agenda.takeDue time
    ⟨taken.2, history.log ++ [.taken taken.1]⟩

/-- The history of an agenda that is empty at first. -/
def ofSteps (steps : List Step) : History :=
  steps.foldl next start

end History

/-- Whether an object is forgotten or taken. -/
def Entry.removes (key : Key) : Entry → Bool
  | .scheduled .. => false
  | .forgotten other => other = key
  | .taken keys => key ∈ keys

/-- The time for which an object is scheduled. -/
def Entry.time? (key : Key) : Entry → Option Nat
  | .scheduled other time => if other = key then some time else none
  | .forgotten _ => none
  | .taken _ => none

/-- The times for which an object was scheduled since it was last forgotten or taken. -/
def timesSince (key : Key) (log : List Entry) : List Nat :=
  (log.rtakeWhile fun entry => !entry.removes key).filterMap (Entry.time? key)

variable {log : List Entry} {entry : Entry}

/-- After its removal a key has no scheduled times. -/
theorem timesSince_concat_of_removes (h : entry.removes key = true) :
    timesSince key (log ++ [entry]) = [] := by
  rw [timesSince, List.rtakeWhile_concat_neg _ _ _ (by simp [h])]
  rfl

/-- A step that does not remove a key adds the time that it schedules the key for, if it does. -/
theorem timesSince_concat_of_not_removes (h : entry.removes key = false) :
    timesSince key (log ++ [entry]) = timesSince key log ++ (entry.time? key).toList := by
  rw [timesSince, List.rtakeWhile_concat_pos _ _ _ (by simp [h]), List.filterMap_append,
    ← timesSince, List.filterMap_cons, List.filterMap_nil]
  cases entry.time? key <;> rfl

/-- The least of a list with one time more is the lesser of that time and the least before. -/
theorem min?_concat (times : List Nat) (time : Nat) :
    (times ++ [time]).min? = some (times.min?.elim time (min · time)) := by
  cases times with
  | nil => rfl
  | cons first rest =>
    rw [List.cons_append, List.min?_cons', List.min?_cons', List.foldl_append]
    rfl

namespace History

/-- Every object is due at the least time for which it was scheduled since it was last forgotten
or taken. -/
def Faithful (history : History) : Prop :=
  ∀ key, history.agenda.due? key = (timesSince key history.log).min?

variable {history : History}

/-- Scheduling keeps the agenda faithful to its history. -/
theorem Faithful.schedule (h : history.Faithful) (key : Key) (time : Nat) :
    (history.next (.schedule key time)).Faithful := by
  intro other
  rw [next, due?_schedule, timesSince_concat_of_not_removes rfl, Entry.time?]
  split
  · next hsame =>
    subst hsame
    rw [Option.toList_some, min?_concat, h]
  · rw [Option.toList_none, List.append_nil, h]

/-- Objects are removed from the agenda and nothing is scheduled. -/
theorem Faithful.remove (h : history.Faithful) {left : Agenda}
    (htime : ∀ key, entry.time? key = none)
    (hleft : ∀ key, left.due? key =
      if entry.removes key = true then none else history.agenda.due? key) :
    Faithful ⟨left, history.log ++ [entry]⟩ := by
  intro key
  rw [hleft]
  split
  · next hremoves =>
    rw [timesSince_concat_of_removes hremoves]
    rfl
  · next hkeeps =>
    rw [timesSince_concat_of_not_removes (Bool.of_not_eq_true hkeeps), htime, h,
      Option.toList_none, List.append_nil]

/-- Forgetting keeps the agenda faithful to its history. -/
theorem Faithful.forget (h : history.Faithful) (key : Key) :
    (history.next (.forget key)).Faithful := by
  refine h.remove (fun _ => rfl) fun other => ?_
  simp only [due?_forget, Entry.removes, decide_eq_true_eq]

/-- Taking the due keys keeps the agenda faithful to its history. -/
theorem Faithful.takeDue (h : history.Faithful) (time : Nat) :
    (history.next (.takeDue time)).Faithful := by
  refine h.remove (fun _ => rfl) fun key => ?_
  have hleft := (takes_takeDue history.agenda time).left_eq key
  simpa only [Entry.removes, decide_eq_true_eq] using hleft

/-- Every step keeps the agenda faithful to its history. -/
theorem Faithful.next (h : history.Faithful) (step : Step) : (history.next step).Faithful := by
  cases step with
  | schedule key time => exact h.schedule key time
  | forget key => exact h.forget key
  | takeDue time => exact h.takeDue time

/-- A whole run of steps keeps the agenda faithful to its history. -/
theorem Faithful.foldl_next (h : history.Faithful) (steps : List Step) :
    (steps.foldl History.next history).Faithful := by
  induction steps generalizing history with
  | nil => exact h
  | cons step rest ih => exact ih (h.next step)

/-- The empty agenda is faithful to the empty history. -/
theorem faithful_start : start.Faithful := by
  intro key
  simp [start, due?, empty, timesSince]

end History

/-- Whatever is done to an agenda that is empty at first, each object is due at the least time for
which it was scheduled since it was last forgotten or taken, and is not on the agenda when there is
none. The next time is the least of all, and at any time those objects are taken that are due by
then, once each, by their times and then by their keys, and no others. -/
theorem agenda_holds_least_times (steps : List Step) :
    let history := History.ofSteps steps
    let agenda := history.agenda
    (∀ key, agenda.due? key = (timesSince key history.log).min?) ∧
      (agenda.next? = none ↔ ∀ key, agenda.due? key = none) ∧
      (∀ time, agenda.next? = some time ↔
        IsLeast {due | ∃ key, agenda.due? key = some due} time) ∧
      ∀ time, agenda.Takes time (agenda.takeDue time).1 (agenda.takeDue time).2 := by
  intro history agenda
  have hfaithful : history.Faithful := History.faithful_start.foldl_next steps
  exact ⟨hfaithful, next?_eq_none_iff agenda, next?_eq_some_iff agenda, takes_takeDue agenda⟩

end Reconciler.Agenda
