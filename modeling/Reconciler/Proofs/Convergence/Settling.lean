import Reconciler.Proofs.Lifecycle.Run
import Reconciler.Proofs.Simulator.Creation

/-!
# Settling

An object is settling when its resource has no drift and is only waited for: until the simulator
shows it ready, and from then on for the window. Each pass is one look, which brings the object
one closer to being provisioned (`Settling.step`). Once it is provisioned, it stays as it is
(`run_verified`).
-/

set_option autoImplicit false

namespace Reconciler.Lifecycle

open Simulator

/-- The window is over at all of some times for a resource that was first seen ready at
another. -/
def Due (config : EngineConfig) (times : List Int64) (since : Int64) : Prop :=
  ∀ now ∈ times, since.toInt + 1000 * (config.stabilizationSecs.toNat : Int) ≤ now.toInt

/-- Where a settling object stands that is yet to be looked at some times: its status, the phase
of its resource, and the number of passes that it is away from being provisioned. -/
inductive Settling (config : EngineConfig) (times : List Int64) (kind : ResourceKind)
    (resource : kind.Snapshot) : LifecycleStatus → Phase → Nat → Prop where
  | awaited (phase : Phase) (looks : Nat) (h : phase.settlesIn? = some looks) :
    Settling config times kind resource awaiting phase (looks + 1)
  | stamped (since : Int64) (hpos : 0 < since.toInt) (hdue : Due config times since) :
    Settling config times kind resource ⟨.provisioning, since, .empty⟩ .settled 1
  | provisioned (since : Int64) :
    Settling config times kind resource
      ⟨.provisioned, since, Adapter.attributes kind resource⟩ .settled 0

variable {config : EngineConfig} {times later : List Int64} {kind : ResourceKind}
  {spec : kind.Spec} {resource : kind.Snapshot} {tables : Tables} {now : Int64}

/-- An object that is settling is past its unprovisioned state. -/
theorem Settling.state_ne_unprovisioned {status : LifecycleStatus} {phase : Phase} {rounds : Nat}
    (h : Settling config times kind resource status phase rounds) :
    status.state ≠ .unprovisioned := by
  cases h <;> simp [awaiting]

/-- A window that is over at all the times is over at some of them. -/
theorem Due.mono {since : Int64} (h : Due config times since) (hsub : later ⊆ times) :
    Due config later since :=
  fun now hnow => h now (hsub hnow)

/-! ## What a look finds -/

/-- A look at a resource that still appears shows it one look further on. -/
theorem found_of_some (sim : SimulatorConfig) {phase next : Phase}
    (h : tables.find? kind (kind.identifier spec) = some (resource, phase))
    (hlook : phase.look = some next) :
    ∃ after, found kind spec (provider sim) (.calm tables) =
        .ok (some (shown kind resource next)) ∧
      looked kind spec (provider sim) (.calm tables) = .calm after ∧
      after.find? kind (kind.identifier spec) = some (resource, next) := by
  obtain ⟨after, hserve, hafter⟩ := serve_describe_of_some h hlook
  refine ⟨after, ?_, ?_, hafter⟩
  · rw [found, provider_calm, hserve]
    rfl
  · rw [looked, provider_calm, hserve]

/-! ## One pass -/

section

variable (config now) (sim : SimulatorConfig)

/-- A pass over a provisioning object looks once and goes on as the phase that it sees says. -/
theorem run_awaited {status : LifecycleStatus} (hstate : status.state = .provisioning)
    {phase next : Phase}
    (hthere : tables.find? kind (kind.identifier spec) = some (resource, phase))
    (hlook : phase.look = some next) :
    ∃ after, (pass kind spec config status now).run (provider sim) (.calm tables) =
        (.ok (.after (awaited kind config status now (shown kind resource next)) config.poll),
          .calm after) ∧
      after.find? kind (kind.identifier spec) = some (resource, next) := by
  obtain ⟨after, hfound, hlooked, hafter⟩ := found_of_some sim hthere hlook
  refine ⟨after, ?_, hafter⟩
  rw [run_pass_provisioning kind spec config now (provider sim) (.calm tables) hstate, hfound,
    hlooked]

/-- A provisioned object without drift stays as it is. -/
theorem run_verified (hdrift : Drift.of kind resource spec = []) (since : Int64)
    (hthere : tables.find? kind (kind.identifier spec) = some (resource, .settled)) :
    ∃ after,
      (pass kind spec config ⟨.provisioned, since, Adapter.attributes kind resource⟩ now).run
          (provider sim) (.calm tables) =
        (.ok (.settle ⟨.provisioned, since, Adapter.attributes kind resource⟩), .calm after) ∧
      after.find? kind (kind.identifier spec) = some (resource, .settled) := by
  obtain ⟨after, hfound, hlooked, hafter⟩ := found_of_some sim hthere rfl
  refine ⟨after, ?_, hafter⟩
  have hready := (isReady_shown_iff hthere rfl).mpr rfl
  rw [run_pass_provisioned kind spec config now (provider sim) (.calm tables) rfl, hfound,
    hlooked]
  simp only [verified, drift_shown, hdrift, hready, attributes_shown]
  rfl

/-- A look at an awaited resource either stamps the object or leaves fewer looks to make. -/
theorem settling_of_look {phase next : Phase} {looks : Nat}
    (hlooks : phase.settlesIn? = some looks) (hlook : phase.look = some next)
    (hthere : tables.find? kind (kind.identifier spec) = some (resource, phase))
    (hlater : Due config later (max now 1)) :
    ∃ left ≤ looks, Settling config later kind resource
      (awaited kind config awaiting now (shown kind resource next)) next left := by
  obtain ⟨hpos, next', hlook', hnext⟩ := Phase.look_of_settlesIn hlooks
  obtain rfl : next' = next := Option.some.inj (hlook'.symm.trans hlook)
  have hiff := isReady_shown_iff hthere hlook
  cases hready : Adapter.isReady kind (shown kind resource next') with
  | true =>
    obtain rfl : next' = .settled := hiff.mp hready
    refine ⟨1, hpos, ?_⟩
    rw [awaited_first hready rfl]
    exact .stamped _ (Readiness.stamp_pos now) hlater
  | false =>
    have hunsettled : next' ≠ .settled := fun h => by
      rw [hiff.mpr h] at hready
      cases hready
    obtain ⟨fewer, hfewer, hle⟩ := hnext.resolve_left hunsettled
    refine ⟨fewer + 1, hle, ?_⟩
    rw [awaited_unready hready]
    exact .awaited next' fewer hfewer

end

/-- A pass brings a settling object one closer to being provisioned. -/
theorem Settling.step (sim : SimulatorConfig) (hdrift : Drift.of kind resource spec = [])
    (hnow : now ∈ times) (hlater : Due config later (max now 1)) {status : LifecycleStatus}
    {phase : Phase} {rounds : Nat} (h : Settling config times kind resource status phase rounds)
    (hthere : tables.find? kind (kind.identifier spec) = some (resource, phase)) :
    ∃ outcome after next left,
      (pass kind spec config status now).run (provider sim) (.calm tables) =
        (.ok outcome, .calm after) ∧
      after.find? kind (kind.identifier spec) = some (resource, next) ∧
      Settling config later kind resource outcome.status next left ∧ left ≤ rounds - 1 := by
  cases h with
  | awaited phase looks hlooks =>
    obtain ⟨-, next, hlook, -⟩ := Phase.look_of_settlesIn hlooks
    have hstate : awaiting.state = .provisioning := rfl
    obtain ⟨after, hrun, hafter⟩ := run_awaited config now sim hstate hthere hlook
    obtain ⟨left, hleft, hsettling⟩ := settling_of_look config now hlooks hlook hthere hlater
    exact ⟨_, after, next, left, hrun, hafter, hsettling, by omega⟩
  | stamped since hsince hdue =>
    have hstate : (⟨.provisioning, since, .empty⟩ : LifecycleStatus).state = .provisioning := rfl
    obtain ⟨after, hrun, hafter⟩ := run_awaited config now sim hstate hthere rfl
    have hready := (isReady_shown_iff hthere rfl).mpr rfl
    have hover := hdue now hnow
    refine ⟨_, after, .settled, 0, hrun, hafter, ?_, by omega⟩
    dsimp only [Outcome.after]
    rw [awaited_later hready hsince, if_pos (by dsimp only; omega), attributes_shown]
    exact .provisioned since
  | provisioned since =>
    obtain ⟨after, hrun, hafter⟩ := run_verified config now sim hdrift since hthere
    exact ⟨_, after, .settled, 0, hrun, hafter, .provisioned since, by omega⟩

end Reconciler.Lifecycle
