import Reconciler.Dispatch.Request
import Reconciler.Dispatch.Notice
import Reconciler.Engine.Lifecycle
import Reconciler.Engine.Deletion

/-!
# A pass of the dispatcher

One pass over the object under a key: read the object, run the engine of its kind, commit the
new status against the version that was read, and say when the next pass is due. A status that
did not change is not committed. A failed engine is no failure of the pass; it comes back as a
delay.
-/

set_option autoImplicit false

namespace Reconciler.Dispatch

/-- What comes of a pass. -/
structure Report where
  /-- The delay before the next pass, none when no pass is left to do; an error when the store
  failed. -/
  next : Except Error (Option Duration)
  /-- What is told about the pass. -/
  notice : Option Notice
  deriving Repr

variable (config : EngineConfig) (now : Int64) (key : Key)

/-- Runs the engine for an object. The outer error is a failure of the store. -/
def engine (object : Declaration) : Work (Except Error (Except Failure (Outcome Status))) :=
  match object.manifest, object.status with
  | .resource kind spec, .lifecycle status =>
    (Work.ofCalls (Lifecycle.pass kind spec config status now)).bind fun outcome =>
      .done (.ok (outcome.map (Outcome.map .lifecycle)))
  | .deletion spec, .deletion state =>
    .ask .list fun answer => match answer with
      | .error error => .done (.error error)
      | .ok objects =>
        (Work.ofCalls (Deletion.pass Deletion.allRemovers config spec state objects)).bind
          fun outcome => .done (.ok (outcome.map (Outcome.map .deletion)))
  | _, _ =>
    .done (.error (.invalidInput s!"status of {object.key.text} does not match its kind"))

def succeeded (outcome : Outcome Status) (changed : Bool) : Report :=
  let delay := outcome.delay.getD (if changed then .zero else config.resync)
  { next := .ok (if outcome.status = .deletion .completed then none else some delay)
    notice := some (.succeeded key outcome.status.stateText delay) }

/-- Stores the status that a pass came to. -/
def commit (object : Declaration) (outcome : Outcome Status) : Work Report :=
  if outcome.status = object.status then .done (succeeded config key outcome false)
  else .ask (.commit key object.version outcome.status) fun answer => match answer with
    | .ok _ => .done (succeeded config key outcome true)
    | .error error =>
      if error.isConflict then .done ⟨.ok (some .zero), some (.conflict key)⟩
      else .done ⟨.error error, none⟩

/-- One pass over the object under a key. -/
def pass : Work Report :=
  .ask (.get key) fun answer => match answer with
    | .error error => .done ⟨.error error, none⟩
    | .ok none => .done ⟨.ok none, none⟩
    | .ok (some object) => (engine config now object).bind fun result => match result with
      | .error error => .done ⟨.error error, none⟩
      | .ok (.error failure) => .done
        ⟨.ok (some failure.delay), some (.failed key failure.cause.message failure.delay)⟩
      | .ok (.ok outcome) => commit config key object outcome

/-- The delay and the notices that the run loop makes of a report: a failure of the store is
told as a failed pass and tried again. -/
def Report.settled (report : Report) : Option Duration × List Notice :=
  match report.next with
  | .ok delay => (delay, report.notice.toList)
  | .error error =>
    (some config.onError,
      report.notice.toList ++ [.failed key error.message config.onError])

end Reconciler.Dispatch
