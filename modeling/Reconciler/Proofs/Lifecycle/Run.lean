import Reconciler.Proofs.Lifecycle.Pass

/-!
# Runs of the lifecycle engine

A run is a sequence of visits, each a pass with a spec, a time and a provider of its own, so
that the answers in a run are arbitrary. The status is carried over from a visit that succeeds
and kept by one that fails. `Visit.Move` lists all that a visit can do, and everything about
runs is derived from it.
-/

set_option autoImplicit false

namespace Reconciler.Lifecycle

variable {kind : ResourceKind} {σ : Type}

/-- The status after a pass: the one that it came to, or the one before it when it failed. -/
def carried (status : LifecycleStatus) :
    Except Failure (Outcome LifecycleStatus) → LifecycleStatus
  | .ok outcome => outcome.status
  | .error _ => status

/-- A pass with all that it depends on besides the status. -/
structure Visit (kind : ResourceKind) (σ : Type) where
  spec : kind.Spec
  now : Int64
  provider : Provider σ
  memory : σ

namespace Visit

variable (config : EngineConfig) (visit : Visit kind σ) (status : LifecycleStatus)

def result : Except Failure (Outcome LifecycleStatus) :=
  ((pass kind visit.spec config status visit.now).run visit.provider visit.memory).1

/-- What the visit finds of the resource when it looks for it. -/
def found : Except Error (Option kind.Snapshot) :=
  Lifecycle.found kind visit.spec visit.provider visit.memory

def after : LifecycleStatus :=
  carried status (visit.result config status)

def Failed : Prop := ∃ failure, visit.result config status = .error failure

def FindsReady : Prop :=
  ∃ existing, visit.found = .ok (some existing) ∧ Adapter.isReady kind existing = true

/-- All that a visit can do. -/
inductive Move : Except Failure (Outcome LifecycleStatus) → Prop where
  | failed (failure : Failure) (h : status.state ≠ .noState) : Move (.error failure)
  | begun (h : status.state = .noState) :
    Move (.ok (.settle { status with state := .unprovisioned }))
  | provided (h : status.state = .unprovisioned) : Move (.ok (.settle awaiting))
  | vanished (h : status.state = .provisioning) (hfound : visit.found = .ok none) :
    Move (.ok (.after regressed config.poll))
  | looked (existing : kind.Snapshot) (h : status.state = .provisioning)
    (hfound : visit.found = .ok (some existing)) :
    Move (.ok (.after (awaited kind config status visit.now existing) config.poll))
  | lost (h : status.state = .provisioned) (hfound : visit.found = .ok none) :
    Move (.ok (.settle regressed))
  | checked (existing : kind.Snapshot) (h : status.state = .provisioned)
    (hfound : visit.found = .ok (some existing)) :
    Move (.ok (.settle (verified kind visit.spec status existing)))

/-- The result of a visit is one of its moves. -/
theorem move_result : visit.Move config status (visit.result config status) := by
  unfold result
  cases hstate : status.state with
  | noState =>
    rw [run_pass_noState kind visit.spec config visit.now visit.provider visit.memory hstate]
    exact .begun hstate
  | unprovisioned =>
    -- by what is found: an error, no resource, or one that may have to be changed
    have hne : status.state ≠ .noState := by simp [hstate]
    rw [run_pass_unprovisioned kind visit.spec config visit.now visit.provider visit.memory
      hstate]
    split
    · exact .failed _ hne
    · dsimp only
      split
      · exact .provided hstate
      · exact .failed _ hne
    · dsimp only
      split
      · dsimp only
        split
        · exact .provided hstate
        · exact .failed _ hne
      · exact .provided hstate
  | provisioning =>
    rw [run_pass_provisioning kind visit.spec config visit.now visit.provider visit.memory
      hstate]
    dsimp only
    split
    · exact .failed _ (by simp [hstate])
    · next hfound => exact .vanished hstate hfound
    · next existing hfound => exact .looked existing hstate hfound
  | provisioned =>
    rw [run_pass_provisioned kind visit.spec config visit.now visit.provider visit.memory
      hstate]
    dsimp only
    split
    · exact .failed _ (by simp [hstate])
    · next hfound => exact .lost hstate hfound
    · next existing hfound => exact .checked existing hstate hfound

end Visit

/-- The status before each visit of a run. -/
def statusAt (config : EngineConfig) (visits : Nat → Visit kind σ) : Nat → LifecycleStatus
  | 0 => .initial
  | n + 1 => (visits n).after config (statusAt config visits n)

/-- A step of a run: the visit comes to something that it can do, and the status is carried
over from there. -/
theorem exists_move (config : EngineConfig) (visits : Nat → Visit kind σ) (n : Nat) :
    ∃ result, (visits n).result config (statusAt config visits n) = result ∧
      (visits n).Move config (statusAt config visits n) result ∧
      statusAt config visits (n + 1) = carried (statusAt config visits n) result :=
  ⟨_, rfl, (visits n).move_result config _, rfl⟩

end Reconciler.Lifecycle
