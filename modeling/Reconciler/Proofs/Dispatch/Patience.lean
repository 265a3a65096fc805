import Reconciler.Proofs.Deletion.Guard
import Reconciler.Proofs.Deletion.Pass
import Reconciler.Proofs.Lifecycle.Run

/-!
# How often an engine can go on at once

A pass of an engine asks for no delay, for the delay between two looks, or for the delay of the
error that it failed with (`Pass.Paced`). When it asks for none it either stays where it was, or
takes its object to a state with less patience: from there fewer passes of this sort can follow.
-/

set_option autoImplicit false

namespace Reconciler

/-- No delay of the settings is zero. -/
structure EngineConfig.HasDelays (config : EngineConfig) : Prop where
  error : 0 < config.errorSecs
  blocked : 0 < config.blockedSecs
  poll : 0 < config.pollSecs
  resync : 0 < config.resyncSecs

/-- A positive number of seconds is a delay. -/
theorem Duration.ofSeconds_ne_zero {seconds : UInt64} (h : 0 < seconds) :
    ofSeconds seconds.toNat ≠ zero := by
  have hpos : 0 < seconds.toNat := UInt64.lt_iff_toNat_lt.mp h
  simp only [ofSeconds, of, zero, ne_eq, Duration.mk.injEq]
  omega

/-- Looking again waits. -/
theorem EngineConfig.HasDelays.poll_ne_zero {config : EngineConfig} (h : config.HasDelays) :
    config.poll ≠ .zero := Duration.ofSeconds_ne_zero h.poll

/-- Looking after a settled object waits. -/
theorem EngineConfig.HasDelays.resync_ne_zero {config : EngineConfig} (h : config.HasDelays) :
    config.resync ≠ .zero := Duration.ofSeconds_ne_zero h.resync

/-- Trying again after an error waits. -/
theorem EngineConfig.HasDelays.fail_ne_zero {config : EngineConfig} (h : config.HasDelays)
    (cause : Error) : (config.fail cause).delay ≠ .zero := by
  simp only [EngineConfig.fail]
  split
  · exact Duration.ofSeconds_ne_zero h.blocked
  · exact Duration.ofSeconds_ne_zero h.error

/-! ## The delays of a pass -/

/-- A result whose delay is one of the settings. -/
inductive Pass.Paced {S : Type} (config : EngineConfig) : Except Failure (Outcome S) → Prop where
  | failed (cause : Error) : Paced config (.error (config.fail cause))
  | settled (status : S) : Paced config (.ok (.settle status))
  | polls (status : S) : Paced config (.ok (.after status config.poll))

/-- Changing the status of a result leaves its delay as it is. -/
theorem Pass.Paced.map {S T : Type} {config : EngineConfig} {result : Except Failure (Outcome S)}
    (h : Paced config result) (f : S → T) : Paced config (result.map (Outcome.map f)) := by
  cases h with
  | failed cause => exact .failed cause
  | settled status => exact .settled (f status)
  | polls status => exact .polls (f status)

/-- A settled status that was changed comes from a settled status. -/
theorem Outcome.exists_of_map_settle {S T : Type} {result : Except Failure (Outcome S)} {f : S → T}
    {status : T} (h : result.map (Outcome.map f) = .ok (.settle status)) :
    ∃ before, result = .ok (.settle before) ∧ status = f before := by
  cases result with
  | error failure => cases h
  | ok outcome =>
    obtain ⟨before, delay⟩ := outcome
    cases h
    exact ⟨before, rfl, rfl⟩

/-- A failed pass waits for the delay of its cause. -/
theorem Pass.paced_of_error {S σ : Type} {config : EngineConfig} {calls : Calls (Outcome S)}
    {provider : Provider σ} {s : σ} {failure : Failure}
    (h : ((Pass.ofCalls config calls).run provider s).1 = .error failure) :
    Paced config (.error failure : Except Failure (Outcome S)) := by
  rw [Pass.run_ofCalls] at h
  cases hcalls : (calls.runWith provider s).1 with
  | ok outcome =>
    rw [hcalls] at h
    cases h
  | error cause =>
    rw [hcalls] at h
    cases h
    exact .failed cause

namespace Lifecycle

/-- How many hasty passes there can be from a state on, apart from those that only refresh. -/
def patience : LifecycleState → Nat
  | .noState => 2
  | .unprovisioned => 1
  | .provisioning => 0
  | .provisioned => 2

variable {kind : ResourceKind} {σ : Type} {config : EngineConfig} {visit : Visit kind σ}
  {status : LifecycleStatus}

/-- What a visit comes to asks for a delay of the settings. -/
theorem Visit.paced_result (config : EngineConfig) (visit : Visit kind σ)
    (status : LifecycleStatus) : Pass.Paced config (visit.result config status) := by
  cases hresult : visit.result config status with
  | error failure => exact Pass.paced_of_error hresult
  | ok outcome =>
    have hmove := visit.move_result config status
    rw [hresult] at hmove
    cases hmove with
    | begun | provided | lost | checked => exact .settled _
    | vanished | looked => exact .polls _

/-- A pass that asks for no delay refreshes a provisioned object or takes it to another state. -/
theorem Visit.settled_cases {after : LifecycleStatus}
    (h : visit.result config status = .ok (.settle after)) :
    (status.state = .provisioned ∧ ∃ resolved, after = { status with resolved }) ∨
      patience after.state < patience status.state := by
  have hmove := visit.move_result config status
  rw [h] at hmove
  generalize hresult : (.ok (.settle after) : Except Failure (Outcome LifecycleStatus)) = result
    at hmove
  cases hmove with
  | failed => cases hresult
  | begun hstate | provided hstate | lost hstate =>
    cases hresult
    exact .inr (by simp [patience, hstate, awaiting, regressed])
  | vanished | looked => cases hresult
  | checked existing hstate =>
    cases hresult
    unfold verified
    split
    · exact .inl ⟨hstate, _, rfl⟩
    · exact .inr (by simp [patience, hstate, regressed])

end Lifecycle

namespace Deletion

/-- How many hasty passes there can be from a state on. -/
def patience : DeletionState → Nat
  | .noState => 2
  | .created => 1
  | .executing => 0
  | .completed => 0

/-- All that a pass over a deletion request can come to. -/
inductive Move (config : EngineConfig) :
    DeletionState → Except Failure (Outcome DeletionState) → Prop where
  | failed (state : DeletionState) (cause : Error) : Move config state (.error (config.fail cause))
  | begun : Move config .noState (.ok (.settle .created))
  | asked : Move config .created (.ok (.settle .executing))
  | waited : Move config .executing (.ok (.after .executing config.poll))
  | completed (state : DeletionState) : Move config state (.ok (.settle .completed))

variable {σ : Type} (config : EngineConfig) (spec : DeletionSpec) (objects : List Declaration)
  (provider : Provider σ) (s : σ)

/-- A pass over a deletion request comes to one of its moves. -/
theorem move_pass (state : DeletionState) :
    Move config state ((pass allRemovers config spec state objects).run provider s).1 := by
  cases state with
  | noState => exact .begun
  | completed => exact .completed _
  | created =>
    cases hcheck : Guard.check (spec.kind, spec.identifier) objects with
    | error error =>
      rw [pass_of_check_error config spec hcheck]
      exact .failed _ error
    | ok _ =>
      rw [run_pass_created config spec provider s hcheck]
      cases Calls.gone? (provider (.delete spec.kind spec.identifier) s).1 with
      | ok _ => exact .asked
      | error error => exact .failed _ error
  | executing =>
    rw [run_pass_executing]
    rcases Calls.found? (provider (.describe spec.kind spec.identifier) s).1 with error | _ | _
    · exact .failed _ error
    · exact .completed _
    · exact .waited

variable {config}

/-- Every move over a deletion request asks for a delay of the settings. -/
theorem Move.paced {state : DeletionState} {result : Except Failure (Outcome DeletionState)}
    (h : Move config state result) : Pass.Paced config result := by
  cases h with
  | failed state cause => exact .failed cause
  | begun | asked | completed => exact .settled _
  | waited => exact .polls _

/-- A pass that asks for no delay completes the request or takes it to another state. -/
theorem Move.settled_cases {state after : DeletionState}
    (h : Move config state (.ok (.settle after))) :
    after = .completed ∨ patience after < patience state := by
  generalize hresult : (.ok (.settle after) : Except Failure (Outcome DeletionState)) = result at h
  cases h with
  | failed => cases hresult
  | begun | asked =>
    cases hresult
    exact .inr (by decide)
  | waited => cases hresult
  | completed =>
    cases hresult
    exact .inl rfl

end Deletion

def Status.patience : Status → Nat
  | .lifecycle status => Lifecycle.patience status.state
  | .deletion state => Deletion.patience state

/-- No status allows for more than two hasty passes. -/
theorem Status.patience_le (status : Status) : status.patience ≤ 2 := by
  cases status with
  | lifecycle status =>
    simp only [patience]
    cases status.state <;> decide
  | deletion state => cases state <;> decide

end Reconciler
