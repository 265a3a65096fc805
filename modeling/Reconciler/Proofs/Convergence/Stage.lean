import Reconciler.Proofs.Convergence.Settling

/-!
# Stages on the way to provisioned

Where a declared object stands that is reconciled against the simulator: its status, what the
simulator has of its resource, and how many passes it is away from being provisioned. A pass
brings it one closer, unless the simulator refuses to create the resource for want of what it
needs, and a provisioned object stays as it is.
-/

set_option autoImplicit false

namespace Reconciler.Lifecycle

open Simulator

/-- The stages of an object that is yet to be looked at some times, with the number of passes
that it is away from the last one. -/
inductive Stage (config : EngineConfig) (sim : SimulatorConfig) (times : List Int64)
    (kind : ResourceKind) (spec : kind.Spec) :
    LifecycleStatus → Option (kind.Snapshot × Phase) → Nat → Prop where
  | fresh : Stage config sim times kind spec .initial none (max 1 sim.readyAfter.toNat + 3)
  | waiting : Stage config sim times kind spec regressed none (max 1 sim.readyAfter.toNat + 2)
  | made (phase : Phase) (looks : Nat) (h : phase.settlesIn? = some looks) :
    Stage config sim times kind spec awaiting (some (built kind spec, phase)) (looks + 1)
  | stamped (since : Int64) (hpos : 0 < since.toInt) (hdue : Due config times since) :
    Stage config sim times kind spec ⟨.provisioning, since, .empty⟩
      (some (built kind spec, .settled)) 1
  | provisioned (since : Int64) :
    Stage config sim times kind spec
      ⟨.provisioned, since, Adapter.attributes kind (built kind spec)⟩
      (some (built kind spec, .settled)) 0

variable {config : EngineConfig} {sim : SimulatorConfig} {times later : List Int64}
  {kind : ResourceKind} {spec : kind.Spec} {tables : Tables} {now : Int64}

/-- A stage does not depend on looks that will not be made. -/
theorem Stage.mono {status : LifecycleStatus} {resource : Option (kind.Snapshot × Phase)}
    {rounds : Nat} (h : Stage config sim times kind spec status resource rounds)
    (hsub : later ⊆ times) : Stage config sim later kind spec status resource rounds := by
  cases h with
  | fresh => exact .fresh
  | waiting => exact .waiting
  | made phase looks h => exact .made phase looks h
  | stamped since hpos hdue => exact .stamped since hpos (hdue.mono hsub)
  | provisioned since => exact .provisioned since

/-- There is a resource at the simulator from the stage on in which it was made. -/
theorem Stage.resource_cases {status : LifecycleStatus}
    {resource : Option (kind.Snapshot × Phase)} {rounds : Nat}
    (h : Stage config sim times kind spec status resource rounds) :
    max 1 sim.readyAfter.toNat + 2 ≤ rounds ∨
      ∃ phase, resource = some (built kind spec, phase) := by
  cases h with
  | fresh | waiting => exact .inl (by omega)
  | made phase _ _ => exact .inr ⟨phase, rfl⟩
  | stamped _ _ _ | provisioned _ => exact .inr ⟨.settled, rfl⟩

/-! ## What a look finds -/

/-- A look for a resource that is not there finds nothing and changes nothing. -/
theorem found_of_none (sim : SimulatorConfig)
    (h : tables.find? kind (kind.identifier spec) = none) :
    found kind spec (provider sim) (.calm tables) = .ok none ∧
      looked kind spec (provider sim) (.calm tables) = .calm tables := by
  obtain ⟨error, hnotFound, hserve⟩ := serve_describe_of_none h
  refine ⟨?_, ?_⟩
  · rw [found, provider_calm, hserve]
    simp only [Calls.found?, hnotFound, if_true]
  · rw [looked, provider_calm, hserve]

/-- A pass leaves the other resources of the simulator alone. -/
theorem find?_of_run_pass {status : LifecycleStatus}
    {result : Except Failure (Outcome LifecycleStatus)} {after : Tables}
    (hrun : (pass kind spec config status now).run (provider sim) (.calm tables) =
      (result, .calm after))
    {other : ResourceKind} {identifier : String}
    (hne : (kind, kind.identifier spec) ≠ (other, identifier)) :
    after.find? other identifier = tables.find? other identifier :=
  find?_of_run ((asks_pass kind spec config status now).imp fun _ hcall => hcall.1) hrun hne

/-! ## One pass from each stage -/

section

variable (config sim now)

/-- A resource that is waited for is created, unless the simulator refuses to. -/
theorem run_waiting (hlive : sim.dryRun = false)
    (habsent : tables.find? kind (kind.identifier spec) = none) :
    (¬ Supplied tables kind spec ∧ ∃ failure,
      (pass kind spec config regressed now).run (provider sim) (.calm tables) =
        (.error failure, .calm tables)) ∨
    ∃ after, (pass kind spec config regressed now).run (provider sim) (.calm tables) =
        (.ok (.settle awaiting), .calm after) ∧
      after.find? kind (kind.identifier spec) = some (built kind spec, firstPhase sim kind) := by
  obtain ⟨hfound, hlooked⟩ := found_of_none sim habsent
  rw [run_pass_unprovisioned kind spec config now (provider sim) (.calm tables) rfl, hfound]
  dsimp only
  rw [hlooked]
  rcases runWith_create hlive kind habsent with ⟨hlacking, error, hrefused⟩ | hcreated
  · rw [hrefused]
    exact .inl ⟨hlacking, _, rfl⟩
  · obtain ⟨created, after, hcreated, hafter⟩ := hcreated
    rw [hcreated]
    exact .inr ⟨after, rfl, hafter⟩

end

/-- A resource that was made and settles is at one of the last stages. -/
theorem Settling.stage {status : LifecycleStatus} {phase : Phase} {rounds : Nat}
    (h : Settling config times kind (built kind spec) status phase rounds) :
    Stage config sim times kind spec status (some (built kind spec, phase)) rounds := by
  cases h with
  | awaited phase looks h => exact .made phase looks h
  | stamped since hpos hdue => exact .stamped since hpos hdue
  | provisioned since => exact .provisioned since

/-- A pass over an object that is settling takes one of its remaining passes, or waits for what its
resource builds on. -/
theorem Settling.step_stage (hsound : Sound kind spec) (hnow : now ∈ times)
    (hlater : Due config later (max now 1)) {status : LifecycleStatus} {phase : Phase}
    {rounds : Nat} (h : Settling config times kind (built kind spec) status phase rounds)
    (hthere : tables.find? kind (kind.identifier spec) = some (built kind spec, phase)) :
    ∃ result after left,
      (pass kind spec config status now).run (provider sim) (.calm tables) =
        (result, .calm after) ∧
      Stage config sim later kind spec (carried status result)
        (after.find? kind (kind.identifier spec)) left ∧
      (left ≤ rounds - 1 ∨
        ¬ Supplied tables kind spec ∧ left = rounds ∧
          rounds = max 1 sim.readyAfter.toNat + 2) := by
  have hdrift : Drift.of kind (built kind spec) spec = [] := drift_built hsound
  obtain ⟨outcome, after, next, left, hrun, hnext, hsettling, hleft⟩ :=
    h.step sim hdrift hnow hlater hthere
  refine ⟨.ok outcome, after, left, hrun, ?_, .inl hleft⟩
  rw [hnext]
  exact hsettling.stage

/-- A pass brings an object one closer to being provisioned, unless it waits for something that
is not there yet. -/
theorem Stage.step (hlive : sim.dryRun = false) (hsound : Sound kind spec)
    (hnow : now ∈ times) (hlater : Due config later (max now 1))
    {status : LifecycleStatus} {rounds : Nat}
    (h : Stage config sim times kind spec status
      (tables.find? kind (kind.identifier spec)) rounds) :
    ∃ result after left,
      (pass kind spec config status now).run (provider sim) (.calm tables) =
        (result, .calm after) ∧
      Stage config sim later kind spec (carried status result)
        (after.find? kind (kind.identifier spec)) left ∧
      (left ≤ rounds - 1 ∨
        ¬ Supplied tables kind spec ∧ left = rounds ∧
          rounds = max 1 sim.readyAfter.toNat + 2) := by
  generalize hresource : tables.find? kind (kind.identifier spec) = resource at h
  cases h with
  | fresh =>
    refine ⟨_, tables, max 1 sim.readyAfter.toNat + 2,
      run_pass_noState kind spec config now (provider sim) (.calm tables) rfl, ?_, ?_⟩
    · rw [hresource]
      exact .waiting
    · exact .inl (by omega)
  | waiting =>
    rcases run_waiting config sim now hlive hresource
      with ⟨hlacking, failure, hrun⟩ | ⟨after, hrun, hafter⟩
    -- something that the resource needs is missing: the pass fails and nothing has changed
    · refine ⟨_, tables, _, hrun, ?_, .inr ⟨hlacking, rfl, rfl⟩⟩
      rw [hresource]
      exact .waiting
    · obtain ⟨looks, hlooks, hbound⟩ := settlesIn_firstPhase sim kind
      refine ⟨_, after, looks + 1, hrun, ?_, .inl (by omega)⟩
      rw [hafter]
      exact .made _ looks hlooks
  | made phase looks hlooks =>
    exact (Settling.awaited phase looks hlooks).step_stage hsound hnow hlater hresource
  | stamped since hsince hdue =>
    exact (Settling.stamped since hsince hdue).step_stage hsound hnow hlater hresource
  | provisioned since =>
    exact (Settling.provisioned since).step_stage hsound hnow hlater hresource

end Reconciler.Lifecycle
