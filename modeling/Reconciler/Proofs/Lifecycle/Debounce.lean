import Reconciler.Proofs.Lifecycle.Run

/-!
# Readiness is debounced

A run promotes an object from provisioning to provisioned exactly at the end of an unbroken
stretch of ready looks that spans the window. The integer `readySince` carries the whole
history that matters: it is zero, or the stamp of an earlier visit since which every visit
failed or found the resource ready (`stamp_of_provisioning`). Conversely a stamp survives such
a stretch (`stamp_survives`).
-/

set_option autoImplicit false

namespace Reconciler.Lifecycle

variable {kind : ResourceKind} {σ : Type} (config : EngineConfig) (visits : Nat → Visit kind σ)

/-- The visit runs from provisioning and finds the resource ready. -/
def SeesReady (n : Nat) : Prop :=
  (statusAt config visits n).state = .provisioning ∧ (visits n).FindsReady

/-- The visit runs from provisioning, finds the resource ready, and stamps the status with its
time, or with one when its time is not after zero. -/
def Stamps (n : Nat) : Prop :=
  SeesReady config visits n ∧
    ¬ (visits n).Failed config (statusAt config visits n) ∧
    (statusAt config visits (n + 1)).readySince = max (visits n).now 1

/-- Every visit strictly between two failed, or ran from provisioning and found the resource
ready. -/
def Unbroken (i j : Nat) : Prop :=
  ∀ k, i < k → k < j →
    (visits k).Failed config (statusAt config visits k) ∨ SeesReady config visits k

/-- The visit moves the status from provisioning to provisioned. -/
def Promotes (n : Nat) : Prop :=
  (statusAt config visits n).state = .provisioning ∧
    (statusAt config visits (n + 1)).state = .provisioned

/-- The time between two visits has reached the window, in exact integers. -/
def Spans (i j : Nat) : Prop :=
  1000 * (config.stabilizationSecs.toNat : Int) ≤
    max 0 ((visits j).now.toInt - max (visits i).now.toInt 1)

variable {config visits}

/-! ## The stamp of a stretch -/

/-- A visit that failed keeps the status. -/
theorem statusAt_succ_of_failed {n : Nat}
    (h : (visits n).Failed config (statusAt config visits n)) :
    statusAt config visits (n + 1) = statusAt config visits n := by
  obtain ⟨failure, hresult⟩ := h
  simp only [statusAt, Visit.after, hresult, carried]

/-- An unbroken stretch goes on over a visit that failed or that saw the resource ready. -/
theorem Unbroken.extend {i n : Nat} (h : Unbroken config visits i n)
    (hn : (visits n).Failed config (statusAt config visits n) ∨ SeesReady config visits n) :
    Unbroken config visits i (n + 1) := by
  intro k hik hkn
  rcases Nat.lt_succ_iff_lt_or_eq.mp hkn with hlt | rfl
  · exact h k hik hlt
  · exact hn

/-- Between a visit and the next one nothing breaks a stretch. -/
theorem Unbroken.refl (i : Nat) : Unbroken config visits i (i + 1) := by
  intro k hik hki
  omega

/-- A visit from provisioning that finds the resource comes to what is awaited of it, and polls. -/
theorem result_of_found {n : Nat} {existing : kind.Snapshot}
    (hstate : (statusAt config visits n).state = .provisioning)
    (hfound : (visits n).found = .ok (some existing)) :
    (visits n).result config (statusAt config visits n) = .ok (.after
      (awaited kind config (statusAt config visits n) (visits n).now existing) config.poll) := by
  unfold Visit.found at hfound
  rw [Visit.result, run_pass_provisioning _ _ _ _ _ _ hstate, hfound]

/-- After such a visit the status is the one that it came to. -/
theorem statusAt_succ_of_found {n : Nat} {existing : kind.Snapshot}
    (hstate : (statusAt config visits n).state = .provisioning)
    (hfound : (visits n).found = .ok (some existing)) :
    statusAt config visits (n + 1) =
      awaited kind config (statusAt config visits n) (visits n).now existing := by
  rw [statusAt, Visit.after, result_of_found hstate hfound]
  rfl

/-- The first ready look stamps the status. -/
theorem stamps_of_first {n : Nat} (hsees : SeesReady config visits n)
    (hsince : (statusAt config visits n).readySince = 0) : Stamps config visits n := by
  obtain ⟨hstate, existing, hfound, hready⟩ := hsees
  refine ⟨⟨hstate, existing, hfound, hready⟩, ?_, ?_⟩
  · rintro ⟨failure, hfailed⟩
    rw [result_of_found hstate hfound] at hfailed
    cases hfailed
  · rw [statusAt_succ_of_found hstate hfound, awaited_first hready hsince]

/-- While an object is provisioning, `readySince` is zero or tells the visit that stamped it,
since which the resource was never seen otherwise than ready. -/
theorem stamp_of_provisioning (n : Nat)
    (hstate : (statusAt config visits n).state = .provisioning) :
    (statusAt config visits n).readySince = 0 ∨
      ∃ i < n, (statusAt config visits i).readySince = 0 ∧ Stamps config visits i ∧
        Unbroken config visits i n ∧
        (statusAt config visits n).readySince = max (visits i).now 1 := by
  -- By induction on the run: only a failure and a ready look leave a stamp behind, and both
  -- extend the stretch since the visit that made it.
  induction n with
  | zero => exact .inl rfl
  | succ n ih =>
    obtain ⟨result, hresult, hmove, hnext⟩ := exists_move config visits n
    cases hmove with
    | failed failure _ =>
      have hfailed : (visits n).Failed config (statusAt config visits n) := ⟨failure, hresult⟩
      rw [statusAt_succ_of_failed hfailed] at hstate ⊢
      obtain hzero | ⟨i, hin, hsince, hstamps, hunbroken, hstamp⟩ := ih hstate
      · exact .inl hzero
      · exact .inr ⟨i, by omega, hsince, hstamps, hunbroken.extend (.inl hfailed), hstamp⟩
    | begun _ | vanished _ _ | lost _ _ =>
      rw [hnext] at hstate
      cases hstate
    | provided _ =>
      rw [hnext]
      exact .inl rfl
    | checked existing h _ =>
      rw [hnext] at hstate
      simp only [carried, Outcome.settle, verified] at hstate
      split at hstate
      · rw [h] at hstate
        cases hstate
      · cases hstate
    | looked existing h hfound =>
      rw [hnext]
      dsimp only [carried, Outcome.after]
      by_cases hready : Adapter.isReady kind existing = true
      · have hsees : SeesReady config visits n := ⟨h, existing, hfound, hready⟩
        obtain hzero | ⟨i, hin, hsince, hstamps, hunbroken, hstamp⟩ := ih h
        · -- the first ready look is the one that stamps
          refine .inr ⟨n, by omega, hzero, stamps_of_first hsees hzero, .refl n, ?_⟩
          rw [awaited_first hready hzero]
        · refine .inr ⟨i, by omega, hsince, hstamps, hunbroken.extend (.inr hsees), ?_⟩
          rw [awaited_stamped hready hstamp]
          split <;> rfl
      · rw [awaited_unready (by simpa using hready)]
        exact .inl rfl

/-- A stamp is kept as long as no look breaks the stretch. -/
theorem stamp_survives {i : Nat} (hstamps : Stamps config visits i) (n : Nat) (hin : i < n)
    (hunbroken : Unbroken config visits i n) :
    (statusAt config visits n).readySince = max (visits i).now 1 := by
  induction n with
  | zero => omega
  | succ n ih =>
    rcases Nat.lt_succ_iff_lt_or_eq.mp hin with hlt | rfl
    · have hstamp := ih hlt fun k hik hkn => hunbroken k hik (by omega)
      rcases hunbroken n hlt (by omega) with hfailed | ⟨hstate, existing, hfound, hready⟩
      · rw [statusAt_succ_of_failed hfailed, hstamp]
      · rw [statusAt_succ_of_found hstate hfound, awaited_stamped hready hstamp]
        split <;> rfl
    · exact hstamps.2.2

/-! ## Promotion -/

/-- A promotion ends an unbroken stretch of ready looks that spans the window. -/
theorem stretch_of_promotes {j : Nat} (h : Promotes config visits j) :
    (visits j).FindsReady ∧ ∃ i < j, (statusAt config visits i).readySince = 0 ∧
      Stamps config visits i ∧ Unbroken config visits i j ∧ Spans config visits i j := by
  obtain ⟨hstate, hpromoted⟩ := h
  obtain ⟨result, -, hmove, hnext⟩ := exists_move config visits j
  rw [hnext] at hpromoted
  cases hmove with
  | failed _ _ =>
    rw [carried, hstate] at hpromoted
    cases hpromoted
  | begun h | provided h | lost h _ | checked _ h _ =>
    rw [hstate] at h
    cases h
  | vanished _ _ => cases hpromoted
  | looked existing _ hfound =>
    simp only [carried, Outcome.after] at hpromoted
    have hready : Adapter.isReady kind existing = true := by
      refine Bool.not_eq_false _ |>.mp fun hunready => ?_
      rw [awaited_unready hunready] at hpromoted
      cases hpromoted
    obtain hzero | ⟨i, hij, hsince, hstamps, hunbroken, hstamp⟩ :=
      stamp_of_provisioning j hstate
    · rw [awaited_first hready hzero] at hpromoted
      cases hpromoted
    · rw [awaited_stamped hready hstamp] at hpromoted
      refine ⟨⟨existing, hfound, hready⟩, i, hij, hsince, hstamps, hunbroken, ?_⟩
      split at hpromoted
      · next hspans => exact hspans
      · cases hpromoted

/-- An unbroken stretch of ready looks that spans the window ends in a promotion. -/
theorem promotes_of_stretch {i j : Nat} (hij : i < j) (hstamps : Stamps config visits i)
    (hunbroken : Unbroken config visits i j)
    (hstate : (statusAt config visits j).state = .provisioning)
    (hready : (visits j).FindsReady) (hspans : Spans config visits i j) :
    Promotes config visits j ∧
      (statusAt config visits (j + 1)).readySince = max (visits i).now 1 := by
  obtain ⟨existing, hfound, hready⟩ := hready
  have hstamp := stamp_survives hstamps j hij hunbroken
  unfold Spans at hspans
  have hnext := statusAt_succ_of_found hstate hfound
  rw [awaited_stamped hready hstamp, if_pos hspans] at hnext
  rw [Promotes, hnext]
  exact ⟨⟨hstate, rfl⟩, rfl⟩

/-- Readiness is debounced in every run, whatever the specs, the answers and the times: an
object is promoted only at the end of an unbroken stretch of ready looks that spans the window,
and at the end of every such stretch. -/
theorem promotes_at_end_of_stretch (config : EngineConfig) (visits : Nat → Visit kind σ) :
    (∀ j, Promotes config visits j →
      (visits j).FindsReady ∧ ∃ i < j, (statusAt config visits i).readySince = 0 ∧
        Stamps config visits i ∧ Unbroken config visits i j ∧ Spans config visits i j) ∧
    ∀ i j, i < j → Stamps config visits i → Unbroken config visits i j →
      (statusAt config visits j).state = .provisioning → (visits j).FindsReady →
      Spans config visits i j →
      Promotes config visits j ∧
        (statusAt config visits (j + 1)).readySince = max (visits i).now 1 :=
  ⟨fun _ => stretch_of_promotes, fun _ _ => promotes_of_stretch⟩

/-! ## A run with an outage in the window -/

def groupVisit (now : Int64) (answer : Except Error SubnetGroupSnapshot) :
    Visit .subnetGroup Unit :=
  { spec := ⟨"private", "", ["subnet-a", "subnet-b"]⟩
    now := now
    provider := fun call memory =>
      (match call with
        | .describe .subnetGroup _ => answer
        | _ => .error (.provider "refused" "no other call is answered"), memory)
    memory := () }

def groupSeen : Except Error SubnetGroupSnapshot :=
  .ok ⟨"private", "", ["subnet-a", "subnet-b"], "Complete"⟩

/-- The group is there from the start. The third visit is the first that looks, the fourth
fails with the clock behind, and the fifth is exactly at the end of the window. -/
def outageRun : Nat → Visit .subnetGroup Unit
  | 2 => groupVisit (-4) groupSeen
  | 3 => groupVisit (-9) (.error (.provider "unavailable" "try again"))
  | 4 => groupVisit 120001 groupSeen
  | _ => groupVisit 0 groupSeen

/-- The third visit of the run with an outage stamps the status. -/
theorem stamps_outageRun : Stamps .default outageRun 2 := by
  refine ⟨⟨rfl, _, rfl, rfl⟩, ?_, rfl⟩
  rintro ⟨failure, h⟩
  cases h

/-- The outage does not break the stretch. -/
theorem unbroken_outageRun : Unbroken .default outageRun 2 4 := by
  intro k hlow hhigh
  obtain rfl : k = 3 := by omega
  exact .inl ⟨_, rfl⟩

/-- The run with an outage promotes the object at its fifth visit, with the stamp of its third. -/
theorem promotes_at_end_of_stretch_outageRun :
    (statusAt .default outageRun 5).state = .provisioned ∧
      (statusAt .default outageRun 5).readySince = 1 ∧ (outageRun 4).FindsReady := by
  have hpromotes := (promotes_at_end_of_stretch .default outageRun).2 2 4 (by decide)
    stamps_outageRun unbroken_outageRun rfl ⟨_, rfl, rfl⟩ (by unfold Spans; decide)
  have hstretch := (promotes_at_end_of_stretch .default outageRun).1 4 hpromotes.1
  exact ⟨hpromotes.1.2, hpromotes.2, hstretch.1⟩

end Reconciler.Lifecycle
