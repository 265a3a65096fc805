import Reconciler.Proofs.Deletion.Guard
import Reconciler.Proofs.Deletion.Pass
import Reconciler.Proofs.Simulator.Removal

/-!
# Stages of a deletion request

Where a deletion request stands that is reconciled against the simulator: its state, what the
simulator has of its target, and how many passes it is away from being completed. A pass brings
it one closer, unless the simulator refuses the deletion because the target is in use.
-/

set_option autoImplicit false

namespace Reconciler.Deletion

open Simulator

/-- The looks after which a deleted resource is seen to be gone. -/
def looks (sim : SimulatorConfig) (kind : ResourceKind) : Nat :=
  if kind.lingers then max 1 sim.deleteAfter.toNat else 1

/-- The stages of a deletion request, with the number of passes that it is away from the last
one. -/
inductive Stage (sim : SimulatorConfig) (kind : ResourceKind) :
    DeletionState → Option (kind.Snapshot × Phase) → Nat → Prop where
  | fresh (resource : kind.Snapshot) (phase : Phase) (h : phase.goneIn? = none) :
    Stage sim kind .noState (some (resource, phase)) (looks sim kind + 2)
  | waiting (resource : kind.Snapshot) (phase : Phase) (h : phase.goneIn? = none) :
    Stage sim kind .created (some (resource, phase)) (looks sim kind + 1)
  | leaving (resource : kind.Snapshot) (phase : Phase) (left : Nat)
      (h : phase.goneIn? = some left) : Stage sim kind .executing (some (resource, phase)) left
  | gone : Stage sim kind .executing none 1
  | completed : Stage sim kind .completed none 0

variable {config : EngineConfig} {sim : SimulatorConfig} {kind : ResourceKind}
  {identifier : String} {tables : Tables} {objects : List Declaration}

/-- A request at its last stage is completed and has no target any more. -/
theorem Stage.eq_of_zero {state : DeletionState} {resource : Option (kind.Snapshot × Phase)}
    (h : Stage sim kind state resource 0) : state = .completed ∧ resource = none := by
  generalize hrounds : 0 = rounds at h
  cases h with
  | fresh _ _ _ | waiting _ _ _ | gone => cases hrounds
  | leaving resource phase left hleft =>
    have hpos := Phase.goneIn?_pos hleft
    omega
  | completed => exact ⟨rfl, rfl⟩

/-! ## One pass from each stage -/

section

variable (config sim)

/-- A created request deletes its target, unless that is in use. -/
theorem run_waiting (hlive : sim.dryRun = false)
    (hunblocked : Guard.check (kind, identifier) objects = .ok ()) {resource : kind.Snapshot}
    {phase : Phase} (hthere : tables.find? kind identifier = some (resource, phase)) :
    (tables.inUse kind identifier = true ∧ ∃ failure,
      (pass allRemovers config ⟨kind, identifier⟩ .created objects).run (provider sim)
        (.calm tables) = (.error failure, .calm tables)) ∨
    ∃ after, (pass allRemovers config ⟨kind, identifier⟩ .created objects).run (provider sim)
        (.calm tables) = (.ok (.settle .executing), .calm after) ∧
      after.find? kind identifier = leftAfter sim kind resource phase := by
  rw [run_pass_created config ⟨kind, identifier⟩ (provider sim) (.calm tables) hunblocked,
    provider_calm]
  cases hinUse : tables.inUse kind identifier with
  | true =>
    obtain ⟨name, message, hserve⟩ := serve_delete_of_inUse hinUse
    rw [hserve]
    exact .inl ⟨rfl, config.fail (.provider name message), rfl⟩
  | false =>
    obtain ⟨after, hserve, hafter⟩ := serve_delete_of_free hlive hinUse hthere
    rw [hserve]
    exact .inr ⟨after, rfl, hafter⟩

/-- An executing request whose target is still there looks on. -/
theorem run_leaving {resource : kind.Snapshot} {phase next : Phase}
    (hthere : tables.find? kind identifier = some (resource, phase))
    (hlook : phase.look = some next) :
    ∃ after, (pass allRemovers config ⟨kind, identifier⟩ .executing objects).run (provider sim)
        (.calm tables) = (.ok (.after .executing config.poll), .calm after) ∧
      after.find? kind identifier = some (resource, next) := by
  obtain ⟨after, hserve, hafter⟩ := serve_describe_of_some hthere hlook
  refine ⟨after, ?_, hafter⟩
  rw [run_pass_executing, provider_calm, hserve]
  rfl

/-- An executing request is completed by the look that comes last. -/
theorem run_leaving_last {resource : kind.Snapshot} {phase : Phase}
    (hthere : tables.find? kind identifier = some (resource, phase))
    (hlook : phase.look = none) :
    ∃ after, (pass allRemovers config ⟨kind, identifier⟩ .executing objects).run (provider sim)
        (.calm tables) = (.ok (.settle .completed), .calm after) ∧
      after.find? kind identifier = none := by
  obtain ⟨error, after, hnotFound, hserve, hafter⟩ :=
    serve_describe_of_last hthere hlook
  refine ⟨after, ?_, hafter⟩
  rw [run_pass_executing, provider_calm, hserve]
  simp [Calls.found?, hnotFound]

/-- An executing request without a target is completed. -/
theorem run_gone (habsent : tables.find? kind identifier = none) :
    (pass allRemovers config ⟨kind, identifier⟩ .executing objects).run (provider sim)
      (.calm tables) = (.ok (.settle .completed), .calm tables) := by
  obtain ⟨error, hnotFound, hserve⟩ := serve_describe_of_none habsent
  rw [run_pass_executing, provider_calm, hserve]
  simp [Calls.found?, hnotFound]

end

/-- A deleted resource is gone at once, or after its looks. -/
theorem stage_of_leftAfter (resource : kind.Snapshot) {phase : Phase}
    (hphase : phase.goneIn? = none) :
    Stage sim kind .executing (leftAfter sim kind resource phase) (looks sim kind) := by
  unfold leftAfter looks
  split
  · exact .leaving _ _ _ (Phase.goneIn?_delete hphase _)
  · exact .gone

/-- A pass that nothing blocks brings a request one closer to being completed, unless its target
is in use. -/
theorem Stage.step (config : EngineConfig) (hlive : sim.dryRun = false)
    (hunblocked : Guard.check (kind, identifier) objects = .ok ())
    {state : DeletionState} {rounds : Nat}
    (h : Stage sim kind state (tables.find? kind identifier) rounds) :
    ∃ result after left,
      (pass allRemovers config ⟨kind, identifier⟩ state objects).run (provider sim)
        (.calm tables) = (result, .calm after) ∧
      Stage sim kind (carried state result) (after.find? kind identifier) left ∧
      (left ≤ rounds - 1 ∨
        tables.inUse kind identifier = true ∧ left = rounds ∧ rounds = looks sim kind + 1) := by
  generalize hresource : tables.find? kind identifier = resource at h
  cases h with
  | fresh resource phase hphase =>
    refine ⟨_, tables, looks sim kind + 1, run_pass_noState config _ objects _ _, ?_, ?_⟩
    · rw [hresource]
      exact .waiting resource phase hphase
    · exact .inl (by omega)
  | waiting resource phase hphase =>
    rcases run_waiting config sim hlive hunblocked hresource
      with ⟨hinUse, failure, hrun⟩ | ⟨after, hrun, hafter⟩
    -- the target is in use still: the pass fails and nothing has changed
    · refine ⟨_, tables, _, hrun, ?_, .inr ⟨hinUse, rfl, rfl⟩⟩
      rw [hresource]
      exact .waiting resource phase hphase
    · refine ⟨_, after, looks sim kind, hrun, ?_, .inl (by omega)⟩
      rw [hafter]
      exact stage_of_leftAfter resource hphase
  | leaving resource phase left hleft =>
    cases hlook : phase.look with
    | none =>
      obtain ⟨after, hrun, hafter⟩ := run_leaving_last config sim hresource hlook
      refine ⟨_, after, 0, hrun, ?_, .inl (by omega)⟩
      rw [hafter]
      exact .completed
    | some next =>
      obtain ⟨after, hrun, hafter⟩ := run_leaving config sim hresource hlook
      refine ⟨_, after, rounds - 1, hrun, ?_, .inl (Nat.le_refl _)⟩
      rw [hafter]
      have hnext := Phase.goneIn?_look hlook
      rw [hleft] at hnext
      exact .leaving resource next _ hnext
  | gone =>
    refine ⟨_, tables, 0, run_gone config sim hresource, ?_, .inl (by omega)⟩
    rw [hresource]
    exact .completed
  | completed =>
    refine ⟨_, tables, 0, run_pass_completed config _ objects _ _, ?_, .inl (by omega)⟩
    rw [hresource]
    exact .completed

end Reconciler.Deletion
