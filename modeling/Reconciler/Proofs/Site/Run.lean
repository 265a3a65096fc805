import Reconciler.Proofs.Deletion.Safety
import Reconciler.Proofs.Dispatch.Attention

/-!
# Runs over a store in memory

A run begins with nothing declared and goes on with one event after the other: a pass over some
key, a write of a client, or anything that happens at the provider. Statuses are written by
passes alone. What an event does to the object under one key is said once, in `Step`, and every
event of a run is such a step for every key (`step_succ`).
-/

set_option autoImplicit false

namespace Reconciler

/-! ## A pass over another key -/

/-- The requests of a pass over a key: no other object is written. -/
def Dispatch.Spares (key : Key) : Request → Prop
  | .commit other _ _ => other = key
  | .get _ => True
  | .list => True
  | .call _ => True
  | .flush => False
  | .nextChange => False

/-- A pass asks to write no object but its own. -/
theorem Dispatch.spares_pass (config : EngineConfig) (now : Int64) (key : Key) :
    (Dispatch.pass config now key).Asks (Spares key) := by
  refine ⟨trivial, fun answer => ?_⟩
  rcases answer with error | _ | object
  · trivial
  · trivial
  · refine ((asks_engine config now object).imp ?_).bind fun result => ?_
    · rintro _ (rfl | ⟨call, rfl⟩) <;> trivial
    · rcases result with error | failure | outcome
      · trivial
      · trivial
      · dsimp only
        unfold commit
        split
        · trivial
        · refine ⟨rfl, fun answer => ?_⟩
          rcases answer with error | version
          · dsimp only
            split <;> trivial
          · trivial

namespace Site

variable {φ μ : Type} (system : FileSystem φ) (provider : Provider μ) (config : EngineConfig)

/-- A write of a client leaves a store in memory one. -/
theorem perform_memory {site : Site φ μ} {store : MemoryStore} (hstore : site.store = .memory store)
    (edit : Edit) : ∃ after, (site.perform system edit.operation).store = .memory after := by
  cases edit with
  | apply name manifest =>
    refine ⟨(store.apply name manifest).2, ?_⟩
    simp only [Edit.operation, perform, operate, hstore]
    rfl
  | delete key =>
    refine ⟨(store.delete key).2, ?_⟩
    simp only [Edit.operation, perform, operate, hstore]
    rfl

/-- A pass at a store in memory touches no object but its own. -/
theorem pass_memory (now : Int64) (key : Key) {site : Site φ μ} {store : MemoryStore}
    (hstore : site.store = .memory store) :
    ∃ after, (site.pass system provider config now key).2.store = .memory after ∧
      ∀ other, key ≠ other → after.table.get? other = store.table.get? other := by
  refine (Dispatch.spares_pass config now key).run_invariant
    (fun site : Site φ μ => ∃ after, site.store = .memory after ∧
      ∀ other, key ≠ other → after.table.get? other = store.table.get? other) ?_
    ⟨store, hstore, fun _ _ => rfl⟩
  rintro request current hspares ⟨after, hafter, hothers⟩
  cases request with
  | get | list | call => exact ⟨after, hafter, hothers⟩
  | flush | nextChange => exact hspares.elim
  | commit written expected status =>
    obtain rfl : written = key := hspares
    have htable := Store.table_run_updateStatus system current.store current.files written expected
      status
    refine ⟨(after.updateStatus written expected status).2, ?_, fun other hother => ?_⟩
    · simp only [serve, operate, hafter]
      rfl
    · have hoffered : (after.updateStatus written expected status).2.table =
          after.table.offered written expected status := by
        rw [hafter] at htable
        exact htable
      rw [hoffered, Table.get?_offered_of_ne expected status hother, hothers other hother]

/-! ## Runs -/

/-- What happens at a site whose statuses are written by the dispatcher alone. -/
inductive Event (μ : Type) where
  | pass (now : Int64) (key : Key)
  | client (edit : Edit)
  /-- Something happens at the provider. -/
  | elsewhere (memory : μ → μ)

def Event.turn : Event μ → Turn φ μ
  | .pass now key => .pass now key
  | .client edit => .client edit.operation
  | .elsewhere memory => .elsewhere id memory

/-- The time of an event that is a pass over a key. -/
def Event.passOver? (key : Key) : Event μ → Option Int64
  | .pass now other => if other = key then some now else none
  | _ => none

/-- An event that is a pass over a key is the pass at that time. -/
theorem Event.eq_pass_of_passOver? {key : Key} {event : Event μ} {now : Int64}
    (h : event.passOver? key = some now) : event = .pass now key := by
  cases event with
  | pass time other =>
    simp only [passOver?, Option.ite_none_right_eq_some, Option.some.injEq] at h
    obtain ⟨rfl, rfl⟩ := h
    rfl
  | client | elsewhere => cases h

/-- A run that begins with nothing declared, over any provider. -/
structure Run (φ μ : Type) where
  system : FileSystem φ
  provider : Provider μ
  config : EngineConfig
  files : φ
  /-- What the provider remembers at the beginning. -/
  memory : μ
  events : Nat → Event μ

namespace Run

/-- The site before event number `n`. -/
def siteAt (run : Run φ μ) : Nat → Site φ μ
  | 0 => ⟨.memory .empty, 0, run.files, run.memory⟩
  | n + 1 => (run.siteAt n).turn run.system run.provider run.config (run.events n).turn

/-- The object under a key before event number `n`. -/
def objectAt (run : Run φ μ) (key : Key) (n : Nat) : Option Declaration :=
  (run.siteAt n).table.get? key

end Run

/-- What an event does to the object under a key. -/
inductive Step (key : Key) : Event μ → Option Declaration → Option Declaration → Prop where
  | passed (now : Int64) (before after : Option Declaration) :
    Step key (.pass now key) before after
  | declared (manifest : Manifest) (hkind : manifest.kind = key.kind)
      (hname : Text.isBlank key.name = false) :
    Step key (.client (.apply key.name manifest)) none (some (.fresh key.name manifest))
  | replaced (manifest : Manifest) (hkind : manifest.kind = key.kind)
      (hname : Text.isBlank key.name = false) (object : Declaration) :
    Step key (.client (.apply key.name manifest)) (some object)
      (some (Table.replaced object manifest))
  | removed (before : Option Declaration) : Step key (.client (.delete key)) before none
  | kept {event : Event μ} (object : Option Declaration)
      (hpass : ∀ now, event ≠ .pass now key)
      (happly : ∀ manifest, manifest.kind = key.kind →
        event = .client (.apply key.name manifest) → Text.isBlank key.name = true) :
    Step key event object object

/-- Applying a spec declares an object or replaces its spec, and keeps every other one. -/
theorem step_apply (key : Key) (table : Table) (name : String) (manifest : Manifest) :
    Step (μ := μ) key (.client (.apply name manifest)) (table.get? key)
      ((table.applied name manifest).get? key) := by
  by_cases hkey : ⟨manifest.kind, name⟩ = key
  · subst hkey
    cases hblank : Text.isBlank name with
    | true =>
      rw [Table.get?_applied_of_blank manifest hblank]
      exact .kept _ (fun now h => by cases h) fun _ _ _ => hblank
    | false =>
      rw [Table.get?_applied_self manifest hblank]
      cases table.get? ⟨manifest.kind, name⟩ with
      | none => exact .declared manifest rfl hblank
      | some object => exact .replaced manifest rfl hblank object
  · rw [Table.get?_applied_of_ne hkey]
    refine .kept _ (fun now h => by cases h) fun other hkind heq => absurd ?_ hkey
    cases heq
    rw [hkind]

/-- Removing an object is a step for every key. -/
theorem step_delete (key other : Key) (table : Table) :
    Step (μ := μ) key (.client (.delete other)) (table.get? key)
      ((table.delete other).2.get? key) := by
  rw [Table.get?_delete]
  split
  · next hkey =>
    subst hkey
    exact .removed _
  · exact .kept _ (fun now h => by cases h) fun _ _ h => by cases h

/-- An event at a store in memory leaves the store in memory. -/
theorem turn_memory {site : Site φ μ} {store : MemoryStore} (hstore : site.store = .memory store)
    (event : Event μ) :
    ∃ after, (site.turn system provider config event.turn).store = .memory after := by
  cases event with
  | pass now key =>
    obtain ⟨after, hafter, -⟩ := pass_memory system provider config now key hstore
    exact ⟨after, hafter⟩
  | client edit => exact perform_memory system hstore edit
  | elsewhere change => exact ⟨store, hstore⟩

/-- Every event at a store in memory is a step for every key. -/
theorem step_turn {site : Site φ μ} {store : MemoryStore} (hstore : site.store = .memory store)
    (key : Key) (event : Event μ) :
    Step key event (site.table.get? key)
      ((site.turn system provider config event.turn).table.get? key) := by
  cases event with
  | pass now other =>
    by_cases hkey : other = key
    · subst hkey
      exact .passed now _ _
    · obtain ⟨after, hafter, hothers⟩ := pass_memory system provider config now other hstore
      have hsame : (site.turn system provider config (.pass now other)).table.get? key =
          site.table.get? key := by
        rw [turn, table, hafter, table, hstore]
        exact hothers key hkey
      rw [Event.turn, hsame]
      refine .kept _ (fun time h => hkey ?_) fun _ _ h => by cases h
      cases h
      rfl
  | client edit =>
    rw [Event.turn, turn, table_perform]
    cases edit with
    | apply name manifest => exact step_apply key _ name manifest
    | delete other => exact step_delete key other _
  | elsewhere change => exact .kept _ (fun now h => by cases h) fun _ _ h => by cases h

namespace Run

variable (run : Run φ μ)

/-- The store of a run is in memory before every event. -/
theorem exists_memory (n : Nat) : ∃ store, (run.siteAt n).store = .memory store := by
  induction n with
  | zero => exact ⟨.empty, rfl⟩
  | succ n ih =>
    obtain ⟨store, hstore⟩ := ih
    exact turn_memory run.system run.provider run.config hstore (run.events n)

/-- Every event of a run is a step for every key. -/
theorem step_succ (key : Key) (n : Nat) :
    Step key (run.events n) (run.objectAt key n) (run.objectAt key (n + 1)) := by
  obtain ⟨store, hstore⟩ := run.exists_memory n
  exact step_turn run.system run.provider run.config hstore key (run.events n)

end Run

end Site

end Reconciler
