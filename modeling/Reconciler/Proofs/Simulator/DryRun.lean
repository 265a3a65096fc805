import Reconciler.Proofs.Simulator.Failing

/-!
# Calls in dry-run mode

A write gets the same verdict under all settings of the simulator, so it is judged in dry-run mode
as it is when it is carried out (`dry_run_judges_live`); the mode decides only whether the tables
change.
-/

set_option autoImplicit false

namespace Reconciler.Simulator

/-- An answer is a reply exactly if it is no error. -/
theorem exists_ok_iff {α : Type} (answer : Except Error α) :
    (∃ reply, answer = .ok reply) ↔ ∀ error, answer ≠ .error error := by
  cases answer <;> simp

variable {call : Call}

/-- A write fails with the same error under all settings, be it injected or not. -/
theorem error_provider_iff (hwrite : call.isWrite = true) (config other : SimulatorConfig)
    (state : State) (error : Error) :
    (provider config call state).1 = .error error ↔
      (provider other call state).1 = .error error := by
  cases hpending : state.pending with
  | some injected =>
    rw [provider_of_pending config call hpending, provider_of_pending other call hpending]
  | none =>
    rw [provider_of_calm config call hpending, provider_of_calm other call hpending]
    exact (judged_serve state.tables hwrite).error_iff config other error

/-- In a dry run no write changes the tables. -/
theorem tables_provider_dryRun {config : SimulatorConfig} (hdry : config.dryRun = true)
    (hwrite : call.isWrite = true) (state : State) :
    (provider config call state).2.tables = state.tables := by
  cases hpending : state.pending with
  | some injected => rw [provider_of_pending config call hpending]
  | none =>
    rw [provider_of_calm config call hpending]
    exact (judged_serve state.tables hwrite).tables_of_dryRun hdry

/-- A write in dry-run mode succeeds exactly when it succeeds live and fails with the same error
otherwise, an error that was to come is used up by it all the same, and the tables stay as they
are. -/
theorem dry_run_judges_live (config : SimulatorConfig) (state : State) {call : Call}
    (hwrite : call.isWrite = true) :
    let live := provider { config with dryRun := false } call state
    let dry := provider { config with dryRun := true } call state
    ((∃ reply, dry.1 = .ok reply) ↔ ∃ reply, live.1 = .ok reply) ∧
      (∀ error, dry.1 = .error error ↔ live.1 = .error error) ∧
      (∀ error, state.pending = some error → dry.1 = .error error ∧ live.1 = .error error) ∧
      (dry.2.pending = none ∧ live.2.pending = none) ∧
      dry.2.tables = state.tables := by
  intro live dry
  have hverdict : ∀ error, dry.1 = .error error ↔ live.1 = .error error :=
    error_provider_iff hwrite _ _ state
  refine ⟨?_, hverdict, ?_, ?_, ?_⟩
  · rw [exists_ok_iff, exists_ok_iff]
    exact forall_congr' fun error => not_congr (hverdict error)
  · intro error hpending
    have hlive : live.1 = .error error := congrArg Prod.fst (provider_of_pending _ call hpending)
    exact ⟨(hverdict error).mpr hlive, hlive⟩
  · exact ⟨pending_provider _ call state, pending_provider _ call state⟩
  · exact tables_provider_dryRun rfl hwrite state

/-- The cluster under deletion is judged to be in the way of another one, and its deletion to go
on. -/
theorem dry_run_judges_live_fadingCluster :
    (∃ error, (provider ⟨1, 1, true⟩ clusterRequest fadingCluster).1 = .error error) ∧
    (∃ reply, (provider ⟨1, 1, true⟩ (.delete .cluster "db1") fadingCluster).1 = .ok reply) ∧
    (provider ⟨1, 1, true⟩ (.delete .cluster "db1") fadingCluster).2.tables =
      fadingCluster.tables := by
  obtain ⟨-, hrefused, -⟩ :=
    @dry_run_judges_live ⟨1, 1, false⟩ fadingCluster clusterRequest rfl
  obtain ⟨haccepted, -, -, -, hsame⟩ :=
    @dry_run_judges_live ⟨1, 1, false⟩ fadingCluster (.delete .cluster "db1") rfl
  exact ⟨⟨_, (hrefused _).mpr rfl⟩, haccepted.mpr ⟨(), rfl⟩, hsame⟩

end Reconciler.Simulator
