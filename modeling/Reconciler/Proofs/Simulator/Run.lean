import Reconciler.Proofs.Simulator.Moves

/-!
# Runs of the simulator

A run begins with a fresh simulator and goes on with one event after the other, each a call or
an error that is injected into the next call. The tables move with the calls that are served,
so what holds of one state of a run and the next is what a served call does (`moves_succ`).
-/

set_option autoImplicit false

namespace Reconciler.Simulator

/-- What reaches the simulator. -/
inductive Event where
  | call (call : Call)
  /-- Lets the next call fail. -/
  | failNext (error : Error)

def State.after (config : SimulatorConfig) (state : State) : Event → State
  | .call call => (provider config call state).2
  | .failNext error => state.failNext error

section

variable (config : SimulatorConfig) (events : Nat → Event)

/-- The state before event number `n` of a run. -/
def stateAt : Nat → State
  | 0 => .fresh
  | n + 1 => (stateAt n).after config (events n)

def tablesAt (n : Nat) : Tables := (stateAt config events n).tables

/-- Event number `n` is a call that is answered from the tables and not by an injected error. -/
structure Serves (n : Nat) (call : Call) : Prop where
  event : events n = .call call
  calm : (stateAt config events n).pending = none

/-- Whether event number `n` is a look at a target that is answered from the tables. -/
def looksAt (target : Target) (n : Nat) : Bool :=
  match events n with
  | .call (.describe kind identifier) =>
    (stateAt config events n).pending.isNone && decide ((kind, identifier) = target)
  | _ => false

/-- The number of looks at a target from event number `k` on and before event number `n`. -/
def looksBetween (target : Target) (k n : Nat) : Nat :=
  (List.range' k (n - k)).countP (looksAt config events target)

end

/-- The events of a list, and after them looks at a cluster that is not there. -/
def replay (events : List Event) (n : Nat) : Event :=
  events.getD n (.call (.describe .cluster ""))

variable {config : SimulatorConfig} {events : Nat → Event} {n : Nat}

/-! ## One event -/

/-- A call that is served moves the tables by itself only. -/
theorem tablesAt_succ_of_serves {call : Call} (h : Serves config events n call) :
    tablesAt config events (n + 1) = (serve config (tablesAt config events n) call).2 := by
  simp only [tablesAt, stateAt, h.event, State.after, provider, h.calm]

/-- A call that is served, or an event that the tables do not notice. -/
theorem serves_or_unchanged (config : SimulatorConfig) (events : Nat → Event) (n : Nat) :
    (∃ call, Serves config events n call) ∨
      (∀ call, ¬ Serves config events n call) ∧
        tablesAt config events (n + 1) = tablesAt config events n := by
  cases hevent : events n with
  | failNext error =>
    refine .inr ⟨fun call h => ?_, ?_⟩
    · cases hevent.symm.trans h.event
    · simp only [tablesAt, stateAt, hevent, State.after, State.failNext]
  | call call =>
    cases hpending : (stateAt config events n).pending with
    | none => exact .inl ⟨call, hevent, hpending⟩
    | some error =>
      refine .inr ⟨fun _ h => ?_, ?_⟩
      · cases hpending.symm.trans h.calm
      · simp only [tablesAt, stateAt, hevent, State.after, provider, hpending]

/-- A served call is a move of every resource. -/
theorem moves_succ {call : Call} (h : Serves config events n call) (kind : ResourceKind)
    (identifier : String) :
    Moves config (tablesAt config events n) kind identifier call
      ((tablesAt config events n).find? kind identifier)
      ((tablesAt config events (n + 1)).find? kind identifier) := by
  rw [tablesAt_succ_of_serves h]
  exact moves_serve config _ call kind identifier

/-- An event is one call at most. -/
theorem Serves.unique {call other : Call} (h : Serves config events n call)
    (hother : Serves config events n other) : call = other :=
  Event.call.inj (h.event.symm.trans hother.event)

/-- Before the first event there are no resources. -/
@[simp]
theorem find?_tablesAt_zero (kind : ResourceKind) (identifier : String) :
    (tablesAt config events 0).find? kind identifier = none :=
  Tables.find?_empty kind identifier

/-- What holds of empty tables and is kept by every call holds in every state of a run. -/
theorem tablesAt_invariant {invariant : Tables → Prop} (hempty : invariant .empty)
    (hserve : ∀ tables call, invariant tables → invariant (serve config tables call).2)
    (events : Nat → Event) (n : Nat) : invariant (tablesAt config events n) := by
  induction n with
  | zero => exact hempty
  | succ n ih =>
    rcases serves_or_unchanged config events n with ⟨call, hserves⟩ | ⟨-, hsame⟩
    · rw [tablesAt_succ_of_serves hserves]
      exact hserve _ call ih
    · rw [hsame]
      exact ih

/-! ## Counting looks -/

/-- A look counts when it is served. -/
theorem looksAt_iff {kind : ResourceKind} {identifier : String} :
    looksAt config events (kind, identifier) n = true ↔
      Serves config events n (.describe kind identifier) := by
  unfold looksAt
  constructor
  · intro h
    split at h
    · next hevent =>
      rw [Bool.and_eq_true, Option.isNone_iff_eq_none, decide_eq_true_eq] at h
      cases h.2
      exact ⟨hevent, h.1⟩
    · cases h
  · rintro ⟨hevent, hcalm⟩
    simp [hevent, hcalm]

variable {kind : ResourceKind} {identifier : String} {k : Nat}

/-- An event with a served call is a look exactly when its call is a description of the target. -/
theorem Serves.looksAt_iff {call : Call} (h : Serves config events n call) :
    looksAt config events (kind, identifier) n = true ↔ call = .describe kind identifier :=
  Simulator.looksAt_iff.trans ⟨h.unique, fun heq => heq ▸ h⟩

/-- An event in which no call is served is not a look. -/
theorem looksAt_of_not_serves (hnone : ∀ call, ¬ Serves config events n call) :
    looksAt config events (kind, identifier) n = false :=
  Bool.eq_false_iff.mpr fun hseen => hnone _ (looksAt_iff.mp hseen)

/-- A served call is not a look at a target for which it is a write. -/
theorem Serves.looksAt_of_write {call : Call} (h : Serves config events n call)
    (hwrite : call.target = (kind, identifier) → call.isWrite = true) :
    looksAt config events (kind, identifier) n = false := by
  refine Bool.eq_false_iff.mpr fun hseen => ?_
  cases h.looksAt_iff.mp hseen
  cases hwrite rfl

/-- No looks are counted over no events. -/
@[simp]
theorem looksBetween_self (target : Target) : looksBetween config events target k k = 0 := by
  simp [looksBetween]

/-- One event more adds its look, if it is one. -/
theorem looksBetween_succ (hk : k ≤ n) (target : Target) :
    looksBetween config events target k (n + 1) =
      looksBetween config events target k n + (looksAt config events target n).toNat := by
  have hlength : n + 1 - k = (n - k) + 1 := by omega
  have hlast : k + 1 * (n - k) = n := by omega
  rw [looksBetween, hlength, List.range'_concat, hlast, List.countP_append, List.countP_singleton]
  cases looksAt config events target n <;> rfl

end Reconciler.Simulator
