import Reconciler.Dispatch.Pass
import Reconciler.Dispatch.Agenda

/-!
# The run loop

The dispatcher at one instant of its timer. It handles the changes of the store in order and
then runs a pass for every object that is due, until neither is left. An applied object is due
at once, a removed one is forgotten, and when changes were dropped every object is due.
-/

set_option autoImplicit false

namespace Reconciler.Dispatch

/-- What the run loop comes to: its agenda and what it has told, the newest notice last. -/
structure Progress where
  agenda : Agenda
  notices : List Notice

variable (config : EngineConfig) (now : Int64) (time : Nat)

def Progress.tell (progress : Progress) (notices : List Notice) : Progress :=
  { progress with notices := progress.notices ++ notices }

def Progress.scheduleObjects (progress : Progress) (objects : List Declaration) : Progress :=
  { progress with agenda := progress.agenda.scheduleAll (objects.map (·.key)) time }

/-- Handles a change of the store. A list that fails leaves the agenda as it is. -/
def handle (progress : Progress) : Change → Work Progress
  | .applied key => .done { progress with agenda := progress.agenda.schedule key time }
  | .deleted key =>
    .done (Progress.tell { progress with agenda := progress.agenda.forget key } [.deleted key])
  | .resync => .ask .list fun answer => match answer with
    | .ok objects => .done (progress.scheduleObjects time objects)
    | .error _ => .done progress

/-- Runs a pass for each of a list of objects and schedules the next ones. -/
def runAll (progress : Progress) : List Key → Work Progress
  | [] => .done progress
  | key :: rest => (pass config now key).bind fun report =>
    let (delay, notices) := report.settled config key
    let agenda := match delay with
      | none => progress.agenda
      | some delay => progress.agenda.schedule key (time + delay.milliseconds)
    runAll (Progress.tell { progress with agenda } notices) rest

/-- Runs a pass for every object that is due. -/
def runDue (progress : Progress) : Work Progress :=
  let (keys, agenda) := progress.agenda.takeDue time
  runAll config now time { progress with agenda } keys

/-- Handles all that can be handled at an instant, in at most a number of steps. -/
def settle : Nat → Progress → Work Progress
  | 0, progress => .done progress
  | steps + 1, progress => .ask .nextChange fun answer => match answer with
    | some change => (handle time progress change).bind fun progress => settle steps progress
    | none =>
      if progress.agenda.next?.any (· ≤ time) then
        (runDue config now time progress).bind fun progress => settle steps progress
      else .done progress

/-- Starts the run loop: every declared object is due at once. -/
def start : Work (Except Error Progress) :=
  .ask .list fun answer => match answer with
    | .error error => .done (.error error)
    | .ok objects =>
      .done (.ok (Progress.scheduleObjects time ⟨.empty, [.started objects.length]⟩ objects))

/-- Stops the run loop: tells so, and writes what has not been written. -/
def stop : Work (Except Error Unit × List Notice) :=
  .ask .flush fun answer => .done (answer, [.stopped "Shutdown signal"])

end Reconciler.Dispatch
