import Reconciler.Engine.Lifecycle
import Reconciler.Proofs.Calls
import Reconciler.Proofs.Readiness

/-!
# One pass of the lifecycle engine

What a pass comes to from each state, as a function of what the provider answers, and which
calls it may make: every one of them is about the resource of its own spec, and none deletes.
A failed pass leaves the status to the dispatcher, which keeps it.
-/

set_option autoImplicit false

namespace Reconciler

def Call.isDeletion : Call → Bool
  | .delete .. => true
  | _ => false

/-- A call about a resource that does not delete it. -/
def Call.Provides (target : Target) (call : Call) : Prop :=
  call.target = target ∧ call.isDeletion = false

/-! ## The calls of an adapter -/

namespace ResourceKind

/-- A resource is created under the identifier of its spec. -/
@[simp]
theorem createdIdentifier_creation (kind : ResourceKind) (spec : kind.Spec) :
    kind.createdIdentifier (kind.creation spec) = kind.identifier spec := by
  cases kind <;> rfl

end ResourceKind

/-- What a pass over an object with a spec may ask of the provider: to look for the resource of
the spec, to create it from the spec, or to change it. -/
inductive Call.Serves (kind : ResourceKind) (spec : kind.Spec) : Call → Prop where
  | looks : Serves kind spec (.describe kind (kind.identifier spec))
  | creates : Serves kind spec (.create kind (kind.creation spec))
  | changes (request : kind.Change)
      (hname : kind.changedIdentifier request = kind.identifier spec) :
      Serves kind spec (.modify kind request)

/-- A call that serves a spec is about the resource of that spec, and deletes nothing. -/
theorem Call.Serves.provides {kind : ResourceKind} {spec : kind.Spec} {call : Call}
    (h : call.Serves kind spec) : call.Provides (kind, kind.identifier spec) := by
  cases h with
  | looks => exact ⟨rfl, rfl⟩
  | creates => exact ⟨congrArg (Prod.mk kind) (kind.createdIdentifier_creation spec), rfl⟩
  | changes request hname => exact ⟨congrArg (Prod.mk kind) hname, rfl⟩

namespace Adapter

variable (kind : ResourceKind) (spec : kind.Spec)

/-- A parameter group is changed under its own name. -/
theorem name_of_groupChange? {existing : ParameterGroupSnapshot} {spec : ParameterGroupSpec}
    {change : ParameterGroupChange} (h : groupChange? existing spec = some change) :
    change.name = spec.name := by
  rw [groupChange?] at h
  split at h
  · simp at h
  · simp only [Option.some.injEq] at h
    rw [← h]

/-- A resource is changed under the identifier of its spec. -/
theorem changedIdentifier_of_change? {existing : kind.Snapshot} {change : kind.Change}
    (h : change? kind existing spec = some change) :
    kind.changedIdentifier change = kind.identifier spec := by
  cases kind with
  | cluster | dbInstance =>
    simp only [change?, Option.ite_none_left_eq_some, Option.some.injEq] at h
    rw [← h.2]
    rfl
  | parameterGroup | clusterParameterGroup => exact name_of_groupChange? h
  | subnetGroup =>
    simp only [change?, Option.ite_none_left_eq_some, Option.some.injEq] at h
    rw [← h.2]
    rfl

/-- Finding the resource of a spec serves the spec. -/
theorem makes_find : (find kind (kind.identifier spec)).Makes (Call.Serves kind spec) :=
  (Calls.makes_perform .looks).orAbsent

/-- Updating the resource of a spec serves the spec. -/
theorem makes_update (existing : kind.Snapshot) :
    (update kind existing spec).Makes (Call.Serves kind spec) := by
  unfold update
  split
  · exact Calls.makes_pure _
  · next change hchange =>
    have hname := changedIdentifier_of_change? kind spec hchange
    exact (Calls.makes_perform (.changes change hname)).discard

/-- Creating the resource of a spec serves the spec. -/
theorem makes_create : (create kind spec).Makes (Call.Serves kind spec) := by
  refine Calls.Makes.bind (Calls.makes_perform .creates) fun created => ?_
  dsimp only
  split
  · exact (makes_update kind spec created).bind fun _ => Calls.makes_pure _
  · exact Calls.makes_pure _

end Adapter

/-! ## The calls of a pass -/

namespace Lifecycle

variable (kind : ResourceKind) (spec : kind.Spec) (config : EngineConfig)
  (status : LifecycleStatus) (now : Int64)

/-- All that a pass asks for serves the spec of its object. -/
theorem asks_pass_serves :
    (pass kind spec config status now).Asks (Call.Serves kind spec) := by
  refine Pass.asks_ofCalls config ?_
  unfold calls
  split
  · exact Calls.makes_pure _
  · refine Calls.Makes.bind (Adapter.makes_find kind spec) fun found => ?_
    dsimp only
    split
    · exact (Adapter.makes_create kind spec).discard.bind fun _ => Calls.makes_pure _
    · split
      · exact (Adapter.makes_update kind spec _).bind fun _ => Calls.makes_pure _
      · exact Calls.makes_pure _
  · refine Calls.Makes.bind (Adapter.makes_find kind spec) fun found => ?_
    split <;> exact Calls.makes_pure _
  · refine Calls.Makes.bind (Adapter.makes_find kind spec) fun found => ?_
    split
    · exact Calls.makes_pure _
    · split <;> exact Calls.makes_pure _

/-- A pass makes calls about the resource of its spec only, and deletes nothing. -/
theorem asks_pass : (pass kind spec config status now).Asks
    (Call.Provides (kind, kind.identifier spec)) :=
  (asks_pass_serves kind spec config status now).imp fun _ => Call.Serves.provides

/-! ## What a pass comes to -/

variable {σ : Type} (provider : Provider σ) (s : σ)

/-- What is found of the resource of a spec. -/
def found : Except Error (Option kind.Snapshot) :=
  Calls.found? (provider (.describe kind (kind.identifier spec)) s).1

/-- The memory of the provider after the resource of a spec was looked for. -/
def looked : σ := (provider (.describe kind (kind.identifier spec)) s).2

def awaited (existing : kind.Snapshot) : LifecycleStatus :=
  let readiness := Readiness.observe status.readySince (Adapter.isReady kind existing) now
    config.stabilization
  if readiness.settled then ⟨.provisioned, readiness.since, Adapter.attributes kind existing⟩
  else ⟨.provisioning, readiness.since, status.resolved⟩

def verified (existing : kind.Snapshot) : LifecycleStatus :=
  if (Drift.of kind existing spec).isEmpty && Adapter.isReady kind existing then
    { status with resolved := Adapter.attributes kind existing }
  else regressed

variable {kind config status now}

/-- A resource that is not ready takes the stamp away. -/
theorem awaited_unready {existing : kind.Snapshot}
    (h : Adapter.isReady kind existing = false) :
    awaited kind config status now existing = ⟨.provisioning, 0, status.resolved⟩ := by
  simp only [awaited, h, Readiness.observe_unready]
  rfl

/-- The first ready look stamps the status with its time, or with one when its time is not after
zero. -/
theorem awaited_first {existing : kind.Snapshot}
    (h : Adapter.isReady kind existing = true) (hsince : status.readySince = 0) :
    awaited kind config status now existing =
      ⟨.provisioning, max now 1, status.resolved⟩ := by
  simp only [awaited, h, hsince, Readiness.observe_first]
  rfl

/-- A later ready look promotes the object when the window has passed since the stamp, and else
changes nothing. -/
theorem awaited_later {existing : kind.Snapshot}
    (h : Adapter.isReady kind existing = true) (hsince : 0 < status.readySince.toInt) :
    awaited kind config status now existing =
      if 1000 * (config.stabilizationSecs.toNat : Int) ≤
          max 0 (now.toInt - status.readySince.toInt) then
        ⟨.provisioned, status.readySince, Adapter.attributes kind existing⟩
      else ⟨.provisioning, status.readySince, status.resolved⟩ := by
  have hwindow : (config.stabilization.milliseconds : Int) =
      1000 * (config.stabilizationSecs.toNat : Int) := by
    rw [EngineConfig.stabilization, Duration.milliseconds_ofSeconds]
    omega
  simp only [awaited, h, Readiness.observe_later hsince, hwindow, decide_eq_true_eq]

/-- After a first ready look, `readySince` is the stamp of that look. -/
theorem awaited_stamped {existing : kind.Snapshot} {first : Int64}
    (h : Adapter.isReady kind existing = true) (hsince : status.readySince = max first 1) :
    awaited kind config status now existing =
      if 1000 * (config.stabilizationSecs.toNat : Int) ≤
          max 0 (now.toInt - max first.toInt 1) then
        ⟨.provisioned, max first 1, Adapter.attributes kind existing⟩
      else ⟨.provisioning, max first 1, status.resolved⟩ := by
  have hpos : 0 < status.readySince.toInt := by
    rw [hsince]
    exact Readiness.stamp_pos first
  rw [awaited_later h hpos, hsince, Readiness.toInt_stamp]

variable (kind config now)

/-- An object that was never reconciled becomes unprovisioned without a call. -/
theorem run_pass_noState (h : status.state = .noState) :
    (pass kind spec config status now).run provider s =
      (.ok (.settle { status with state := .unprovisioned }), s) := by
  rw [pass, Pass.run_ofCalls]
  simp only [calls, h, Calls.runWith_pure]
  rfl

/-- An awaited resource is looked at once. -/
theorem run_pass_provisioning (h : status.state = .provisioning) :
    (pass kind spec config status now).run provider s =
      (match found kind spec provider s with
        | .error error => .error (config.fail error)
        | .ok none => .ok (.after regressed config.poll)
        | .ok (some existing) =>
          .ok (.after (awaited kind config status now existing) config.poll),
        looked kind spec provider s) := by
  rw [pass, Pass.run_ofCalls]
  simp only [calls, h, await, Calls.runWith_bind, Adapter.runWith_find, found, looked]
  cases Calls.found? (provider (.describe kind (kind.identifier spec)) s).1 with
  | error error => rfl
  | ok found => cases found <;> rfl

/-- A provisioned resource is looked at once. -/
theorem run_pass_provisioned (h : status.state = .provisioned) :
    (pass kind spec config status now).run provider s =
      (match found kind spec provider s with
        | .error error => .error (config.fail error)
        | .ok none => .ok (.settle regressed)
        | .ok (some existing) => .ok (.settle (verified kind spec status existing)),
        looked kind spec provider s) := by
  rw [pass, Pass.run_ofCalls]
  simp only [calls, h, verify, Calls.runWith_bind, Adapter.runWith_find, found, looked]
  cases Calls.found? (provider (.describe kind (kind.identifier spec)) s).1 with
  | error error => rfl
  | ok found =>
    cases found with
    | none => rfl
    | some existing =>
      simp only [verified]
      split
      · simp only [Calls.runWith_pure, ← h]
        rfl
      · rfl

/-- A resource that is to be provided is looked for, then created when it is absent, updated
when it is ready, and left alone when it is in transition. -/
theorem run_pass_unprovisioned (h : status.state = .unprovisioned) :
    (pass kind spec config status now).run provider s =
      match found kind spec provider s with
      | .error error => (.error (config.fail error), looked kind spec provider s)
      | .ok none =>
        let created := (Adapter.create kind spec).runWith provider (looked kind spec provider s)
        (match created.1 with
          | .ok _ => .ok (.settle awaiting)
          | .error error => .error (config.fail error), created.2)
      | .ok (some existing) =>
        if Adapter.isReady kind existing then
          let updated :=
            (Adapter.update kind existing spec).runWith provider (looked kind spec provider s)
          (match updated.1 with
            | .ok _ => .ok (.settle awaiting)
            | .error error => .error (config.fail error), updated.2)
        else (.ok (.settle awaiting), looked kind spec provider s) := by
  rw [pass, Pass.run_ofCalls]
  simp only [calls, h, provide, Calls.runWith_bind, Adapter.runWith_find, found, looked]
  cases Calls.found? (provider (.describe kind (kind.identifier spec)) s).1 with
  | error error => rfl
  | ok found =>
    cases found with
    | none =>
      simp only [Calls.runWith_bind, Calls.runWith_discard]
      cases ((Adapter.create kind spec).runWith provider _).1 <;> rfl
    | some existing =>
      by_cases hready : Adapter.isReady kind existing = true
      · simp only [hready, if_true, Calls.runWith_bind]
        cases ((Adapter.update kind existing spec).runWith provider _).1 <;> rfl
      · simp only [hready]
        rfl

/-- What a pass asks for when its resource is to be provided and is there, ready: a look, and the
change for what differs from the spec. -/
theorem asked_pass_unprovisioned (h : status.state = .unprovisioned) {existing : kind.Snapshot}
    (hfound : found kind spec provider s = .ok (some existing))
    (hready : Adapter.isReady kind existing = true) :
    (pass kind spec config status now).asked provider s =
      .describe kind (kind.identifier spec) ::
        (Adapter.change? kind existing spec).toList.map (Call.modify kind) := by
  have hlook : ((Adapter.find kind (kind.identifier spec)).runWith provider s).1 =
      .ok (some existing) := by
    rw [Adapter.runWith_find]
    exact hfound
  rw [pass, Pass.asked_ofCalls]
  simp only [calls, h, provide, Calls.madeWith_bind, Adapter.madeWith_find, hlook, hready, if_true,
    Adapter.madeWith_update, Calls.madeWith_pure, List.singleton_append]
  split <;> simp only [List.append_nil]

end Lifecycle

end Reconciler
