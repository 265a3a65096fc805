import Reconciler.Proofs.Simulator.Run

/-!
# Calls that fail

A call that fails leaves the tables as they are. The one exception is the last look at a resource
under deletion, which is not found any more and is gone from then on. An error that is injected
hits the next call, which does not get to the tables, and no call after that one knows of it
(`failing_calls`).
-/

set_option autoImplicit false

namespace Reconciler.Simulator

/-- A call is the look that ends the countdown of a deletion. -/
def LastLook (tables : Tables) (target : Target) (call : Call) : Prop :=
  call = .describe target.1 target.2 ∧ ∃ resource left,
    tables.find? target.1 target.2 = some (resource, .deleting left) ∧ left ≤ 1

/-- A look finds a resource gone exactly in the last phase of its deletion. -/
theorem Phase.look_eq_none_iff (phase : Phase) :
    phase.look = none ↔ ∃ left, phase = .deleting left ∧ left ≤ 1 := by
  cases phase with
  | settled | creating _ | modifying _ => simp [look]
  | deleting left => simp [look]

variable {config : SimulatorConfig} {tables : Tables}

/-! ## Errors that come from the tables -/

/-- A look that fails finds nothing, or finds the resource gone. -/
theorem describe_of_error {kind : ResourceKind} {identifier : String} {error : Error}
    (h : (serve config tables (.describe kind identifier)).1 = .error error) :
    (serve config tables (.describe kind identifier)).2 = tables ∨
      LastLook tables (kind, identifier) (.describe kind identifier) := by
  cases hthere : tables.find? kind identifier with
  | none =>
    obtain ⟨_, -, hserved⟩ := @serve_describe_of_none config _ _ _ hthere
    left
    rw [hserved]
  | some entry =>
    obtain ⟨resource, phase⟩ := entry
    cases hlook : phase.look with
    | none =>
      obtain ⟨left, rfl, hlast⟩ := (Phase.look_eq_none_iff phase).mp hlook
      exact .inr ⟨rfl, resource, left, hthere, hlast⟩
    | some next =>
      obtain ⟨_, hserved, -⟩ := @serve_describe_of_some config _ _ _ _ _ _ hthere hlook
      rw [hserved] at h
      cases h

/-- A call that is served and fails leaves the tables alone, unless it is the last look at
something under deletion. -/
theorem serve_of_error {call : Call} {error : Error}
    (h : (serve config tables call).1 = .error error) :
    (serve config tables call).2 = tables ∨ LastLook tables call.target call := by
  cases hwrite : call.isWrite with
  | true => exact .inl ((judged_serve tables hwrite).tables_of_error h)
  | false =>
    cases call with
    | describe kind identifier => exact describe_of_error h
    | create | modify | delete => cases hwrite

/-- The last look at a resource under deletion does not find it and takes it, and nothing else,
out of the tables. -/
theorem serve_of_lastLook {target : Target} {call : Call} (h : LastLook tables target call) :
    (∃ error, error.isNotFound = true ∧ (serve config tables call).1 = .error error) ∧
      (serve config tables call).2.find? target.1 target.2 = none ∧
      Tables.Elsewhere target tables (serve config tables call).2 := by
  obtain ⟨rfl, resource, left, hthere, hlast⟩ := h
  have hlook : (Phase.deleting left).look = none :=
    (Phase.look_eq_none_iff _).mpr ⟨left, rfl, hlast⟩
  obtain ⟨error, after, herror, hserved, hgone⟩ :=
    @serve_describe_of_last config _ _ _ _ _ hthere hlook
  have helsewhere := elsewhere_describe config tables target.1 target.2
  rw [hserved] at helsewhere ⊢
  exact ⟨⟨error, herror, rfl⟩, hgone, helsewhere⟩

/-! ## Errors that are injected -/

variable (config : SimulatorConfig)

/-- The calls among some events with their answers, in order. -/
def answers : State → List Event → List ((call : Call) × call.Answer)
  | _, [] => []
  | state, .call call :: later =>
    ⟨call, (provider config call state).1⟩ :: answers (provider config call state).2 later
  | state, .failNext error :: later => answers (state.failNext error) later

/-- No error is left to come after a call. -/
theorem pending_provider (call : Call) (state : State) :
    (provider config call state).2.pending = none := by
  cases hpending : state.pending <;> simp [provider, hpending]

/-- An injected error is the answer of one call, and is used up by it. -/
theorem provider_of_pending (call : Call) {state : State} {error : Error}
    (h : state.pending = some error) :
    provider config call state = (.error error, { state with pending := none }) := by
  simp [provider, h]

/-- A simulator without an injected error answers from its tables and keeps the rest. -/
theorem provider_of_calm (call : Call) {state : State} (h : state.pending = none) :
    provider config call state = ((serve config state.tables call).1,
      { state with tables := (serve config state.tables call).2 }) := by
  simp [provider, h]

/-- Of the errors that are injected before a call the last one hits it, and the others are
forgotten. -/
theorem answers_failNext (state : State) (errors : List Error) (error : Error) (call : Call)
    (later : List Event) :
    answers config state ((errors ++ [error]).map .failNext ++ .call call :: later) =
      ⟨call, .error error⟩ :: answers config { state with pending := none } later := by
  induction errors generalizing state with
  | nil =>
    have hhit : provider config call (state.failNext error) =
        (.error error, { state with pending := none }) := provider_of_pending config call rfl
    simp only [List.nil_append, List.map_cons, List.map_nil, List.cons_append, answers, hhit]
  | cons first rest ih => exact ih (state.failNext first)

/-- Calls are atomic, and an injected error hits one call. A call that fails leaves the tables as
they are, unless it is the last look at a resource under deletion, which takes that resource out
and no other. If an error is to come, any call fails with it and with no other effect than that
the error is used up; however often errors were injected since the last call, the next call fails
with the last of them, and the calls after it are answered as if it had not been made and nothing
had been injected. -/
theorem failing_calls (config : SimulatorConfig) (state : State) (call : Call) :
    (∀ error, (provider config call state).1 = .error error →
      (provider config call state).2.tables = state.tables ∨
        state.pending = none ∧ LastLook state.tables call.target call) ∧
    (∀ target, state.pending = none → LastLook state.tables target call →
      (∃ error, error.isNotFound = true ∧ (provider config call state).1 = .error error) ∧
        (provider config call state).2.tables.find? target.1 target.2 = none ∧
        Tables.Elsewhere target state.tables (provider config call state).2.tables) ∧
    (∀ error, state.pending = some error →
      provider config call state = (.error error, { state with pending := none })) ∧
    (provider config call state).2.pending = none ∧
    ∀ errors error later,
      answers config state ((errors ++ [error]).map .failNext ++ .call call :: later) =
        ⟨call, .error error⟩ :: answers config { state with pending := none } later := by
  refine ⟨?_, ?_, ?_, pending_provider config call state, ?_⟩
  · intro error herror
    cases hpending : state.pending with
    | none =>
      rw [provider_of_calm config call hpending] at herror ⊢
      exact (serve_of_error herror).imp_right fun hlast => ⟨rfl, hlast⟩
    | some injected =>
      rw [provider_of_pending config call hpending]
      exact .inl rfl
  · intro target hcalm hlast
    rw [provider_of_calm config call hcalm]
    exact serve_of_lastLook hlast
  · intro error hpending
    exact provider_of_pending config call hpending
  · intro errors error later
    exact answers_failNext config state errors error call later

/-- The request for a cluster. -/
def clusterRequest : Call :=
  .create .cluster ⟨"db1", "aurora-mysql", none, "admin", "secret", [], none, none⟩

/-- The simulator with a cluster under deletion that is gone at the next look. -/
def fadingCluster : State :=
  stateAt ⟨1, 1, false⟩ (replay [.call clusterRequest, .call (.delete .cluster "db1")]) 2

/-- The cluster cannot be created again while it is there, the next look takes it out, and two
errors that are injected before the look save it from that. -/
theorem failing_calls_fadingCluster :
    (∃ error, (provider ⟨1, 1, false⟩ clusterRequest fadingCluster).1 = .error error) ∧
    (provider ⟨1, 1, false⟩ clusterRequest fadingCluster).2.tables = fadingCluster.tables ∧
    (provider ⟨1, 1, false⟩ (.describe .cluster "db1") fadingCluster).2.tables.find? .cluster
      "db1" = none ∧
    provider ⟨1, 1, false⟩ (.describe .cluster "db1") (fadingCluster.failNext .json) =
      (.error .json, fadingCluster) ∧
    ∀ later, answers ⟨1, 1, false⟩ fadingCluster
        (.failNext .json :: .failNext (.provider "cluster" "Throttling") ::
          .call (.describe .cluster "db1") :: later) =
      ⟨.describe .cluster "db1", .error (.provider "cluster" "Throttling")⟩ ::
        answers ⟨1, 1, false⟩ fadingCluster later := by
  have hrefused : ∃ error,
      (provider ⟨1, 1, false⟩ clusterRequest fadingCluster).1 = .error error := ⟨_, rfl⟩
  obtain ⟨hunchanged, -⟩ := failing_calls ⟨1, 1, false⟩ fadingCluster clusterRequest
  obtain ⟨-, hlast, -, -, honce⟩ :=
    failing_calls ⟨1, 1, false⟩ fadingCluster (.describe .cluster "db1")
  obtain ⟨-, -, hinjected, -⟩ :=
    failing_calls ⟨1, 1, false⟩ (fadingCluster.failNext .json) (.describe .cluster "db1")
  refine ⟨hrefused, ?_, ?_, hinjected .json rfl, fun later => ?_⟩
  · obtain ⟨error, herror⟩ := hrefused
    rcases hunchanged error herror with hsame | ⟨-, hlook, -⟩
    · exact hsame
    · cases hlook
  · exact (hlast (.cluster, "db1") rfl ⟨rfl, _, 1, rfl, Nat.le_refl 1⟩).2.1
  · exact honce [.json] (.provider "cluster" "Throttling") later

end Reconciler.Simulator
