import Reconciler.Proofs.Deletion.Guard
import Reconciler.Proofs.Site

/-!
# The requests of a pass

What a provider call of a pass tells about the object under the key of the pass: which object
it is decides which calls are permitted, and the store does not change before the last of them.
The engines permit what `Lifecycle.asks_pass` and `Deletion.asks_pass` say of them.
-/

set_option autoImplicit false

namespace Reconciler

/-- Provider calls are all that the work of making them asks for. -/
theorem Work.asks_ofCalls {α : Type} {p : Call → Prop} {calls : Script Call Call.Answer α}
    (h : calls.Asks p) :
    (Work.ofCalls calls).Asks fun request => ∃ call, request = .call call ∧ p call :=
  Script.asks_mapQueries _ _ (h.imp fun call hcall => ⟨call, rfl, hcall⟩)

namespace Dispatch

/-- The engine of a resource makes the calls of its lifecycle pass. -/
theorem engine_resource (config : EngineConfig) (now : Int64) {object : Declaration}
    {kind : ResourceKind} {spec : kind.Spec} {status : LifecycleStatus}
    (hmanifest : object.manifest = .resource kind spec)
    (hstatus : object.status = .lifecycle status) :
    engine config now object =
      (Work.ofCalls (Lifecycle.pass kind spec config status now)).bind fun outcome =>
        .done (.ok (outcome.map (Outcome.map .lifecycle))) := by
  obtain ⟨key, version, manifest, _⟩ := object
  subst hmanifest hstatus
  rfl

/-- The engine of a deletion request lists the objects and then makes the calls of its deletion
pass. -/
theorem engine_deletion (config : EngineConfig) (now : Int64) {object : Declaration}
    {spec : DeletionSpec} {state : DeletionState} (hmanifest : object.manifest = .deletion spec)
    (hstatus : object.status = .deletion state) :
    engine config now object = .ask .list fun answer => match answer with
      | .error error => .done (.error error)
      | .ok objects =>
        (Work.ofCalls (Deletion.pass Deletion.allRemovers config spec state objects)).bind
          fun outcome => .done (.ok (outcome.map (Outcome.map .deletion))) := by
  obtain ⟨key, version, manifest, _⟩ := object
  subst hmanifest hstatus
  rfl

/-- What a pass does once the engine of its object is done. -/
def conclude (config : EngineConfig) (key : Key) (object : Declaration) :
    Except Error (Except Failure (Outcome Status)) → Work Report
  | .error error => .done ⟨.error error, none⟩
  | .ok (.error failure) =>
    .done ⟨.ok (some failure.delay), some (.failed key failure.cause.message failure.delay)⟩
  | .ok (.ok outcome) => commit config key object outcome

/-- All that concludes a pass is one commit against the version that was read, at most. -/
theorem mem_trace_conclude {σ : Type} {handler : Handler Request Request.Answer σ}
    {config : EngineConfig} {key : Key} {object : Declaration}
    {result : Except Error (Except Failure (Outcome Status))} {s : σ} {entry : Request × σ}
    (h : entry ∈ (conclude config key object result).trace handler s) :
    ∃ status, entry = (.commit key object.version status, s) := by
  rcases result with error | failure | outcome
  · simp [conclude] at h
  · simp [conclude] at h
  · unfold conclude commit at h
    dsimp only at h
    split at h
    · simp at h
    · rw [Script.trace_ask, List.mem_cons] at h
      rcases h with rfl | h
      · exact ⟨outcome.status, rfl⟩
      · split at h
        · simp at h
        · split at h <;> simp at h

end Dispatch

namespace Site

variable {φ μ : Type} (system : FileSystem φ) (provider : Provider μ) (config : EngineConfig)

/-- The calls that a pass over an object may make, given the objects declared. -/
def Permits (object : Declaration) (objects : List Declaration) (call : Call) : Prop :=
  match object.manifest, object.status with
  | .resource kind spec, .lifecycle _ => call.Provides (kind, kind.identifier spec)
  | .deletion spec, .deletion state => Deletion.Permits spec objects state call
  | _, _ => False

/-- The trace of calls that are made at a site consists of calls, and the store does not change
while they are made. -/
theorem of_mem_trace_ofCalls {α : Type} {p : Call → Prop} {calls : Script Call Call.Answer α}
    (hcalls : calls.Asks p) (site : Site φ μ) {call : Call} {moment : Site φ μ}
    (h : (.call call, moment) ∈ (Work.ofCalls calls).trace (serve system provider) site) :
    p call ∧ moment.store = site.store := by
  refine ⟨?_, store_of_mem_trace_ofCalls system provider site h⟩
  obtain ⟨other, heq, hother⟩ := (Work.asks_ofCalls hcalls).of_mem_trace h
  cases heq
  exact hother

/-- The engine for an object makes permitted calls only, while the store stays as it is. -/
theorem call_of_mem_trace_engine (now : Int64) {object : Declaration} (site : Site φ μ)
    {call : Call} {moment : Site φ μ}
    (h : (.call call, moment) ∈
      (Dispatch.engine config now object).trace (serve system provider) site) :
    Permits object site.table.toList call ∧ moment.store = site.store := by
  unfold Permits
  split
  · next kind spec status hmanifest hstatus =>
    rw [Dispatch.engine_resource config now hmanifest hstatus, Script.trace_bind,
      List.mem_append] at h
    rcases h with h | h
    · exact of_mem_trace_ofCalls system provider
        (Lifecycle.asks_pass kind spec config status now) site h
    · simp at h
  · next spec state hmanifest hstatus =>
    rw [Dispatch.engine_deletion config now hmanifest hstatus, Script.trace_ask, serve_list,
      List.mem_cons] at h
    rcases h with h | h
    · simp at h
    · rw [Script.trace_bind, List.mem_append] at h
      rcases h with h | h
      · exact of_mem_trace_ofCalls system provider
          (Deletion.asks_pass config spec site.table.toList state) site h
      · simp at h
  · next hresource hdeletion =>
    unfold Dispatch.engine at h
    split at h
    · next hmanifest hstatus => exact (hresource _ _ _ hmanifest hstatus).elim
    · next hmanifest hstatus => exact (hdeletion _ _ hmanifest hstatus).elim
    · simp at h

/-- A pass over an object runs its engine and then concludes. -/
theorem pass_of_get? (now : Int64) {key : Key} {site : Site φ μ} {object : Declaration}
    (hobject : site.table.get? key = some object) :
    site.pass system provider config now key =
      (Dispatch.conclude config key object
        ((Dispatch.engine config now object).run (serve system provider) site).1).run
          (serve system provider)
          ((Dispatch.engine config now object).run (serve system provider) site).2 := by
  rw [pass, Dispatch.pass, Script.run_ask, serve_get, hobject]
  exact Script.run_bind _ _ _ _

/-- A pass over an object asks for the object, what its engine asks, and what concludes it. -/
theorem requests_of_get? (now : Int64) {key : Key} {site : Site φ μ} {object : Declaration}
    (hobject : site.table.get? key = some object) :
    site.requests system provider config now key =
      (.get key, site) ::
        ((Dispatch.engine config now object).trace (serve system provider) site ++
          (Dispatch.conclude config key object
            ((Dispatch.engine config now object).run (serve system provider) site).1).trace
              (serve system provider)
              ((Dispatch.engine config now object).run (serve system provider) site).2) := by
  rw [requests, Dispatch.pass, Script.trace_ask, serve_get, hobject]
  exact congrArg _ (Script.trace_bind _ _ _ _)

/-- A pass over a key without an object looks for the object and asks nothing else. -/
theorem requests_of_get?_none (now : Int64) {key : Key} {site : Site φ μ}
    (hobject : site.table.get? key = none) :
    site.requests system provider config now key = [(.get key, site)] := by
  rw [requests, Dispatch.pass, Script.trace_ask, serve_get, hobject]
  rfl

/-- What a provider call of a pass tells: there is an object under the key of the pass, the call
is one that the object permits, and the store is as it was when the pass began. -/
theorem call_cases (now : Int64) (key : Key) (site : Site φ μ) {call : Call} {moment : Site φ μ}
    (h : (.call call, moment) ∈ site.requests system provider config now key) :
    ∃ object, site.table.get? key = some object ∧
      Permits object site.table.toList call ∧ moment.store = site.store := by
  cases hobject : site.table.get? key with
  | none => simp [requests_of_get?_none system provider config now hobject] at h
  | some object =>
    rw [requests_of_get? system provider config now hobject, List.mem_cons,
      List.mem_append] at h
    rcases h with h | h | h
    · simp at h
    · obtain ⟨hpermits, hstore⟩ := call_of_mem_trace_engine system provider config now site h
      exact ⟨object, rfl, hpermits, hstore⟩
    · obtain ⟨status, hcommit⟩ := Dispatch.mem_trace_conclude h
      simp at hcommit

end Site

end Reconciler
