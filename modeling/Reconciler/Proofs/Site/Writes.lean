import Reconciler.Proofs.Site.Resource
import Reconciler.Proofs.Site.Run

/-!
# The writes of passes

What the passes over one key ask the provider to change in a run of events. A pass over an object
that stands for a resource writes what its engine writes (`writesOf_resource`), so an engine that
only looks writes nothing.
-/

set_option autoImplicit false

namespace Reconciler

/-- The call of a request that is meant to change something at the provider. -/
def Request.write? : Request → Option Call
  | .call made => if made.isWrite then some made else none
  | _ => none

namespace Site

variable {φ μ : Type} (system : FileSystem φ) (provider : Provider μ) (config : EngineConfig)

/-- The site after a run of events. -/
def turns (events : List (Event μ)) (site : Site φ μ) : Site φ μ :=
  events.foldl (fun site event => site.turn system provider config event.turn) site

/-- The times of the passes over a key, in order. -/
def passTimes (key : Key) (events : List (Event μ)) : List Int64 :=
  events.filterMap (Event.passOver? key)

/-- The writes that a pass asks of the provider, in order. -/
def writesOf (now : Int64) (key : Key) (site : Site φ μ) : List Call :=
  (site.requests system provider config now key).filterMap fun entry => entry.1.write?

/-- The writes that the passes over a key ask of the provider in a run of events, in order. -/
def writes (key : Key) (events : List (Event μ)) (site : Site φ μ) : List Call :=
  ((site.history system provider config (events.map Event.turn)).filter (·.1 = key)).filterMap
    fun entry => entry.2.1.write?

/-! ## Runs of events -/

/-- Events take place one after the other. -/
theorem turns_cons (event : Event μ) (rest : List (Event μ)) (site : Site φ μ) :
    site.turns system provider config (event :: rest) =
      (site.turn system provider config event.turn).turns system provider config rest := rfl

/-- The time of a pass over the key comes before those of the later ones. -/
theorem passTimes_cons_of_some {key : Key} {event : Event μ} {now : Int64}
    (h : event.passOver? key = some now) (rest : List (Event μ)) :
    passTimes key (event :: rest) = now :: passTimes key rest :=
  List.filterMap_cons_some h

/-- An event that is no pass over the key adds no time. -/
theorem passTimes_cons_of_none {key : Key} {event : Event μ} (h : event.passOver? key = none)
    (rest : List (Event μ)) : passTimes key (event :: rest) = passTimes key rest :=
  List.filterMap_cons_none h

/-- The writes of a pass come before those of the later ones. -/
theorem writes_cons_pass (now : Int64) (key : Key) (rest : List (Event μ)) (site : Site φ μ) :
    site.writes system provider config key (.pass now key :: rest) =
      site.writesOf system provider config now key ++
        (site.turn system provider config (Event.pass now key).turn).writes system provider config
          key rest := by
  have hown : ((site.requests system provider config now key).map (key, ·)).filter (·.1 = key) =
      (site.requests system provider config now key).map (key, ·) := by
    rw [List.filter_map]
    exact congrArg _ (List.filter_eq_self.mpr fun _ _ => decide_eq_true rfl)
  simp only [writes, writesOf, List.map_cons, Event.turn, history, List.filter_append,
    List.filterMap_append, hown, List.filterMap_map]
  rfl

/-- An event that is no pass over a key writes nothing for it. -/
theorem writes_cons_of_none {key : Key} {event : Event μ} (h : event.passOver? key = none)
    (rest : List (Event μ)) (site : Site φ μ) :
    site.writes system provider config key (event :: rest) =
      (site.turn system provider config event.turn).writes system provider config key rest := by
  cases event with
  | pass now other =>
    have hother : other ≠ key := by simpa [Event.passOver?] using h
    have hnone : ((site.requests system provider config now other).map (other, ·)).filter
        (·.1 = key) = [] := by
      rw [List.filter_map, List.map_eq_nil_iff]
      exact List.filter_eq_nil_iff.mpr fun _ _ => mt of_decide_eq_true hother
    simp only [writes, List.map_cons, Event.turn, history, List.filter_append, hnone,
      List.nil_append]
  | client edit => rfl
  | elsewhere change => rfl

/-! ## One pass -/

/-- Provider calls at a site ask for those calls. -/
theorem asked_ofCalls {α : Type} (calls : Script Call Call.Answer α) (site : Site φ μ) :
    (Work.ofCalls calls).asked (serve system provider) site =
      (calls.asked provider site.memory).map Request.call := by
  induction calls generalizing site with
  | done value => rfl
  | ask call next ih => exact congrArg (Request.call call :: ·) (ih _ _)

/-- The writes among the requests of provider calls are the writes among the calls. -/
theorem filterMap_trace_ofCalls {α : Type} (calls : Script Call Call.Answer α)
    (site : Site φ μ) :
    ((Work.ofCalls calls).trace (serve system provider) site).filterMap (·.1.write?) =
      (calls.asked provider site.memory).filter (·.isWrite) := by
  have hwrite : Request.write? ∘ Request.call = Option.guard (·.isWrite) := by
    funext call
    simp [Request.write?, Option.guard]
  calc ((Work.ofCalls calls).trace (serve system provider) site).filterMap (·.1.write?)
      = ((Work.ofCalls calls).asked (serve system provider) site).filterMap Request.write? := by
        rw [← Script.map_fst_trace, List.filterMap_map]
        rfl
    _ = (calls.asked provider site.memory).filterMap (Request.write? ∘ Request.call) := by
        rw [asked_ofCalls, List.filterMap_map]
    _ = (calls.asked provider site.memory).filter (·.isWrite) := by
        rw [hwrite, List.filterMap_eq_filter]

/-- A pass over an object that stands for a resource writes what its engine writes. -/
theorem writesOf_resource (now : Int64) {key : Key} {site : Site φ μ} {object : Declaration}
    {kind : ResourceKind} {spec : kind.Spec} {status : LifecycleStatus}
    (hobject : site.table.get? key = some object)
    (hmanifest : object.manifest = .resource kind spec)
    (hstatus : object.status = .lifecycle status) :
    site.writesOf system provider config now key =
      ((Lifecycle.pass kind spec config status now).asked provider site.memory).filter
        (·.isWrite) := by
  have hconclude : ∀ result (after : Site φ μ),
      ((Dispatch.conclude config key object result).trace (serve system provider)
        after).filterMap (·.1.write?) = [] := by
    intro result after
    rw [List.filterMap_eq_nil_iff]
    intro entry hentry
    obtain ⟨status, rfl⟩ := Dispatch.mem_trace_conclude hentry
    rfl
  rw [writesOf, requests_of_get? system provider config now hobject,
    List.filterMap_cons_none (by rfl), List.filterMap_append, hconclude, List.append_nil,
    Dispatch.engine_resource config now hmanifest hstatus, Script.trace_bind,
    List.filterMap_append, filterMap_trace_ofCalls]
  exact List.append_nil _

end Site

end Reconciler
