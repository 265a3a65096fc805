import Reconciler.Proofs.Lifecycle.Debounce

/-!
# Reachable statuses are well formed

The state of a status says what its other fields hold. The attributes are known exactly while an
object is provisioned, and are those that the last successful visit saw. The time stamp is set
while an object is provisioned, and while it is provisioning exactly when the last successful visit
saw the resource ready. A successful visit follows an edge of the state machine.
-/

set_option autoImplicit false

namespace Reconciler.Lifecycle

/-- The edges of the state machine. -/
inductive Edge : LifecycleState → LifecycleState → Prop where
  | begin : Edge .noState .unprovisioned
  | provide : Edge .unprovisioned .provisioning
  | wait : Edge .provisioning .provisioning
  | promote : Edge .provisioning .provisioned
  | vanish : Edge .provisioning .unprovisioned
  | keep : Edge .provisioned .provisioned
  | regress : Edge .provisioned .unprovisioned

variable {kind : ResourceKind} {σ : Type} (config : EngineConfig) (visits : Nat → Visit kind σ)

/-- The visit is the last one before a moment of the run that did not fail. -/
structure LastSuccess (n k : Nat) : Prop where
  before : k < n
  succeeded : ¬ (visits k).Failed config (statusAt config visits k)
  failed : ∀ m, k < m → m < n → (visits m).Failed config (statusAt config visits m)

/-- What the state of a status says of its other fields, after a number of visits. -/
def WellFormed (n : Nat) : LifecycleStatus → Prop
  | ⟨.noState, since, resolved⟩ => since = 0 ∧ resolved = .empty
  | ⟨.unprovisioned, since, resolved⟩ => since = 0 ∧ resolved = .empty
  | ⟨.provisioning, since, resolved⟩ =>
    resolved = .empty ∧ 0 ≤ since.toInt ∧
      ∃ k, LastSuccess config visits n k ∧ (since ≠ 0 ↔ SeesReady config visits k)
  | ⟨.provisioned, since, resolved⟩ =>
    1 ≤ since.toInt ∧ ∃ k existing, LastSuccess config visits n k ∧
      (visits k).found = .ok (some existing) ∧ resolved = Adapter.attributes kind existing

variable {config visits}

/-! ## Edges -/

/-- An awaited object stays provisioning or gets provisioned. -/
theorem edge_awaited {status : LifecycleStatus} {now : Int64} (existing : kind.Snapshot) :
    Edge .provisioning (awaited kind config status now existing).state := by
  unfold awaited
  dsimp only
  split
  · exact .promote
  · exact .wait

/-- A verified object stays provisioned or goes back to unprovisioned. -/
theorem edge_verified {spec : kind.Spec} {status : LifecycleStatus} (existing : kind.Snapshot)
    (h : status.state = .provisioned) :
    Edge .provisioned (verified kind spec status existing).state := by
  unfold verified
  split
  · rw [h]
    exact .keep
  · exact .regress

/-- A visit that succeeds follows an edge, whatever the status is that it begins with. -/
theorem Visit.Move.edge {visit : Visit kind σ} {status : LifecycleStatus}
    {outcome : Outcome LifecycleStatus} (h : visit.Move config status (.ok outcome)) :
    Edge status.state outcome.status.state := by
  cases h with
  | begun h =>
    rw [h]
    exact .begin
  | provided h =>
    rw [h]
    exact .provide
  | vanished h _ =>
    rw [h]
    exact .vanish
  | looked existing h _ =>
    rw [h]
    exact edge_awaited existing
  | lost h _ =>
    rw [h]
    exact .regress
  | checked existing h _ =>
    rw [h]
    exact edge_verified existing h

/-- A visit that succeeds follows an edge of the state machine. -/
theorem edge_of_succeeded {n : Nat}
    (h : ¬ (visits n).Failed config (statusAt config visits n)) :
    Edge (statusAt config visits n).state (statusAt config visits (n + 1)).state := by
  obtain ⟨result, hresult, hmove, hnext⟩ := exists_move config visits n
  rw [hnext]
  cases result with
  | error failure => exact absurd ⟨failure, hresult⟩ h
  | ok outcome => exact hmove.edge

/-! ## The last success -/

/-- A visit that succeeds is the last that did. -/
theorem LastSuccess.now {n : Nat} (h : ¬ (visits n).Failed config (statusAt config visits n)) :
    LastSuccess config visits (n + 1) n where
  before := Nat.lt_succ_self n
  succeeded := h
  failed m hnm hmn := by omega

/-- After a visit that failed, the last one that succeeded is the same as before. -/
theorem LastSuccess.next {n k : Nat} (h : LastSuccess config visits n k)
    (hfailed : (visits n).Failed config (statusAt config visits n)) :
    LastSuccess config visits (n + 1) k where
  before := Nat.lt_succ_of_lt h.before
  succeeded := h.succeeded
  failed m hkm hmn := by
    rcases Nat.lt_succ_iff_lt_or_eq.mp hmn with hlt | rfl
    · exact h.failed m hkm hlt
    · exact hfailed

/-! ## Well-formedness -/

/-- A visit that fails leaves the last success where it is. -/
theorem WellFormed.of_failed {n : Nat} {status : LifecycleStatus}
    (h : WellFormed config visits n status)
    (hfailed : (visits n).Failed config (statusAt config visits n)) :
    WellFormed config visits (n + 1) status := by
  obtain ⟨state, since, resolved⟩ := status
  cases state with
  | noState | unprovisioned => exact h
  | provisioning =>
    obtain ⟨hresolved, hsince, k, hlast, hiff⟩ := h
    exact ⟨hresolved, hsince, k, hlast.next hfailed, hiff⟩
  | provisioned =>
    obtain ⟨hsince, k, existing, hlast, hfound, hresolved⟩ := h
    exact ⟨hsince, k, existing, hlast.next hfailed, hfound, hresolved⟩

/-- A look at an awaited resource stamps the status, keeps its stamp or clears it. -/
theorem wellFormed_awaited {n : Nat} {existing : kind.Snapshot}
    (h : WellFormed config visits n (statusAt config visits n))
    (hstate : (statusAt config visits n).state = .provisioning)
    (hfound : (visits n).found = .ok (some existing))
    (hlast : LastSuccess config visits (n + 1) n) :
    WellFormed config visits (n + 1)
      (awaited kind config (statusAt config visits n) (visits n).now existing) := by
  obtain ⟨hresolved, hsince⟩ : (statusAt config visits n).resolved = .empty ∧
      0 ≤ (statusAt config visits n).readySince.toInt := by
    generalize statusAt config visits n = status at h hstate
    obtain ⟨state, since, resolved⟩ := status
    subst hstate
    exact ⟨h.1, h.2.1⟩
  by_cases hready : Adapter.isReady kind existing = true
  · have hsees : SeesReady config visits n := ⟨hstate, existing, hfound, hready⟩
    by_cases hzero : (statusAt config visits n).readySince = 0
    · have hstamp := Readiness.stamp_pos (visits n).now
      have hset := (Readiness.pos_iff_ne_zero (Int.le_of_lt hstamp)).mp hstamp
      rw [awaited_first hready hzero]
      exact ⟨hresolved, Int.le_of_lt hstamp, n, hlast, iff_of_true hset hsees⟩
    · have hpos := (Readiness.pos_iff_ne_zero hsince).mpr hzero
      rw [awaited_later hready hpos]
      split
      · exact ⟨hpos, n, existing, hlast, hfound, rfl⟩
      · exact ⟨hresolved, hsince, n, hlast, iff_of_true hzero hsees⟩
  · rw [awaited_unready (Bool.eq_false_iff.mpr hready)]
    refine ⟨hresolved, Int.le_refl 0, n, hlast, iff_of_false (fun h => h rfl) ?_⟩
    rintro ⟨-, other, hother, hsees⟩
    rw [hfound] at hother
    cases hother
    exact hready hsees

/-- A check of a provisioned resource refreshes the attributes, or the object starts over. -/
theorem wellFormed_verified {n : Nat} {existing : kind.Snapshot}
    (h : WellFormed config visits n (statusAt config visits n))
    (hstate : (statusAt config visits n).state = .provisioned)
    (hfound : (visits n).found = .ok (some existing))
    (hlast : LastSuccess config visits (n + 1) n) :
    WellFormed config visits (n + 1)
      (verified kind (visits n).spec (statusAt config visits n) existing) := by
  generalize statusAt config visits n = status at h hstate
  obtain ⟨state, since, resolved⟩ := status
  subst hstate
  unfold verified
  split
  · exact ⟨h.1, n, existing, hlast, hfound, rfl⟩
  · exact ⟨rfl, rfl⟩

/-- Every status of a run is well formed. -/
theorem wellFormed_statusAt (n : Nat) :
    WellFormed config visits n (statusAt config visits n) := by
  -- By induction on the run: a visit that fails keeps the status, and each of the others leaves a
  -- status of which it is the last success.
  induction n with
  | zero => exact ⟨rfl, rfl⟩
  | succ n ih =>
    obtain ⟨result, hresult, hmove, hnext⟩ := exists_move config visits n
    cases result with
    | error failure =>
      have hfailed : (visits n).Failed config (statusAt config visits n) := ⟨failure, hresult⟩
      rw [statusAt_succ_of_failed hfailed]
      exact ih.of_failed hfailed
    | ok outcome =>
      have hlast : LastSuccess config visits (n + 1) n := by
        refine .now ?_
        rintro ⟨failure, hfailed⟩
        rw [hresult] at hfailed
        cases hfailed
      rw [hnext]
      cases hmove with
      | begun hstate =>
        generalize statusAt config visits n = status at ih hstate
        obtain ⟨state, since, resolved⟩ := status
        subst hstate
        exact ih
      | provided hstate =>
        refine ⟨rfl, Int.le_refl 0, n, hlast, iff_of_false (fun h => h rfl) ?_⟩
        rintro ⟨hprovisioning, -⟩
        rw [hstate] at hprovisioning
        cases hprovisioning
      | vanished _ _ | lost _ _ => exact ⟨rfl, rfl⟩
      | looked existing hstate hfound => exact wellFormed_awaited ih hstate hfound hlast
      | checked existing hstate hfound => exact wellFormed_verified ih hstate hfound hlast

/-- Reachable statuses are well formed, in every run, whatever the specs, the answers and the
times are, and every visit that succeeds follows an edge of the state machine. -/
theorem reachable_statuses_wellFormed (config : EngineConfig) (visits : Nat → Visit kind σ)
    (n : Nat) :
    WellFormed config visits n (statusAt config visits n) ∧
      (¬ (visits n).Failed config (statusAt config visits n) →
        Edge (statusAt config visits n).state (statusAt config visits (n + 1)).state) :=
  ⟨wellFormed_statusAt n, edge_of_succeeded⟩

/-- In the run with an outage, the visit that promotes the group is the last success before the
check that keeps it, and the attributes are those that it saw. -/
theorem reachable_statuses_wellFormed_outageRun :
    Edge .provisioned (statusAt .default outageRun 6).state ∧
      ∃ k existing, LastSuccess .default outageRun 5 k ∧
        (outageRun k).found = .ok (some existing) ∧
        (statusAt .default outageRun 5).resolved = Adapter.attributes .subnetGroup existing := by
  obtain ⟨hformed, hedge⟩ := reachable_statuses_wellFormed .default outageRun 5
  have hsucceeded : ¬ (outageRun 5).Failed .default (statusAt .default outageRun 5) := by
    rintro ⟨failure, hfailed⟩
    cases hfailed
  exact ⟨hedge hsucceeded, hformed.2⟩

end Reconciler.Lifecycle
