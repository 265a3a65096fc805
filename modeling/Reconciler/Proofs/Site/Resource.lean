import Reconciler.Proofs.Lifecycle.Run
import Reconciler.Proofs.Site.Conclude

/-!
# Passes over the objects that stand for resources

At a store in memory a pass over such an object commits the status that its engine came to, and
touches no other object. A pass over a provisioned object only looks.
-/

set_option autoImplicit false

namespace Reconciler

namespace Lifecycle

/-- A pass writes at the provider only when the resource is to be provided. -/
theorem asks_pass_looks (kind : ResourceKind) (spec : kind.Spec) (config : EngineConfig)
    {status : LifecycleStatus} (now : Int64) (h : status.state ≠ .unprovisioned) :
    (pass kind spec config status now).Asks fun call => call.isWrite = false := by
  have hfind : (Adapter.find kind (kind.identifier spec)).Makes
      fun call => call.isWrite = false := by
    refine Calls.Makes.orAbsent (Calls.makes_perform ?_)
    rfl
  refine Pass.asks_ofCalls config ?_
  unfold calls
  split
  · exact Calls.makes_pure _
  · next hstate => exact absurd hstate h
  · refine hfind.bind fun found => ?_
    split <;> exact Calls.makes_pure _
  · refine hfind.bind fun found => ?_
    split
    · exact Calls.makes_pure _
    · split <;> exact Calls.makes_pure _

end Lifecycle

namespace Site

variable {φ μ : Type} (system : FileSystem φ) (provider : Provider μ) (config : EngineConfig)

/-- The engine of an object that stands for a resource runs at the provider alone. -/
theorem run_engine_resource (now : Int64) (site : Site φ μ) {object : Declaration}
    {kind : ResourceKind} {spec : kind.Spec} {status : LifecycleStatus}
    (hmanifest : object.manifest = .resource kind spec)
    (hstatus : object.status = .lifecycle status)
    {result : Except Failure (Outcome LifecycleStatus)} {memory : μ}
    (hrun : (Lifecycle.pass kind spec config status now).run provider site.memory =
      (result, memory)) :
    (Dispatch.engine config now object).run (serve system provider) site =
      (.ok (result.map (Outcome.map .lifecycle)), { site with memory }) := by
  rw [Dispatch.engine_resource config now hmanifest hstatus, Script.run_bind, run_ofCalls, hrun]
  rfl

/-- A pass over an object in memory leaves all other objects alone and gives its object the
status that the engine came to; when that is the status it had, the store stays as it is. -/
theorem pass_resource (now : Int64) {key : Key} {site : Site φ μ} {store : MemoryStore}
    (hstore : site.store = .memory store) {object : Declaration} {kind : ResourceKind}
    {spec : kind.Spec} {status : LifecycleStatus}
    (hobject : store.table.get? key = some object) (hkey : key.kind.isLifecycle = true)
    (hmanifest : object.manifest = .resource kind spec)
    (hstatus : object.status = .lifecycle status)
    {result : Except Failure (Outcome LifecycleStatus)} {memory : μ}
    (hrun : (Lifecycle.pass kind spec config status now).run provider site.memory =
      (result, memory)) :
    ∃ after current,
      (site.pass system provider config now key).2 =
        { site with store := .memory after, memory } ∧
      (∀ other, key ≠ other → after.table.get? other = store.table.get? other) ∧
      after.table.get? key = some current ∧ current.manifest = object.manifest ∧
      current.status = .lifecycle (Lifecycle.carried status result) ∧
      (Lifecycle.carried status result = status → after = store) := by
  have hengine := run_engine_resource system provider config now site hmanifest hstatus hrun
  have hcarried : Dispatch.carried object.status (result.map (Outcome.map .lifecycle)) =
      .lifecycle (Lifecycle.carried status result) := by
    rw [hstatus]
    cases result <;> rfl
  have hfits : (Dispatch.carried object.status (result.map (Outcome.map .lifecycle))).fits
      key.kind = true := by
    rw [hcarried]
    exact hkey
  obtain ⟨after, current, hpass, hothers, hcurrent, hmanifest', hstatus', hsame⟩ :=
    pass_of_run_engine system provider config now hstore hobject hengine hfits
  rw [hcarried] at hstatus' hsame
  refine ⟨after, current, hpass, hothers, hcurrent, hmanifest', hstatus', fun h => hsame ?_⟩
  rw [h, hstatus]

/-- A pass over a provisioned object makes no call that is meant to change something. -/
theorem isWrite_of_provisioned (now : Int64) {key : Key} {site : Site φ μ} {object : Declaration}
    {kind : ResourceKind} {spec : kind.Spec} {status : LifecycleStatus}
    (hobject : site.table.get? key = some object)
    (hmanifest : object.manifest = .resource kind spec)
    (hstatus : object.status = .lifecycle status) (hstate : status.state = .provisioned)
    {call : Call} {moment : Site φ μ}
    (h : (.call call, moment) ∈ site.requests system provider config now key) :
    call.isWrite = false := by
  rw [requests_of_get? system provider config now hobject, List.mem_cons, List.mem_append] at h
  rcases h with h | h | h
  · cases h
  · rw [Dispatch.engine_resource config now hmanifest hstatus, Script.trace_bind,
      List.mem_append] at h
    have hlooks : status.state ≠ .unprovisioned := by simp [hstate]
    rcases h with h | h
    · exact (of_mem_trace_ofCalls system provider
        (Lifecycle.asks_pass_looks kind spec config now hlooks) site h).1
    · cases h
  · obtain ⟨status, hcommit⟩ := Dispatch.mem_trace_conclude h
    cases hcommit

end Site

end Reconciler
