import Reconciler.Dispatch.Loop
import Reconciler.Provider.Simulator
import Reconciler.Store.Basic
import Reconciler.Store.Disk
import Reconciler.Clock

/-!
# Rehearsals

The dispatcher over a store, a simulated provider and a clock, in virtual time: nothing waits,
and time passes only when it is told to. Between the dispatcher and the store there can be
faults, which make its next request of a sort fail, and races, which change the store right
after it has read an object.
-/

set_option autoImplicit false

namespace Reconciler

/-- A write that comes between a read of the dispatcher and its commit. -/
inductive Race where
  | apply (name : String) (manifest : Manifest)
  | delete (key : Key)

/-- The sorts of requests that can be made to fail. -/
inductive FaultKind where
  | get
  | list
  | commit
  | flush
  deriving DecidableEq, Repr

/-- What stands between the dispatcher and the store. -/
structure Meddling where
  /-- The errors to come, in order, each with the sort of request that it hits. -/
  faults : List (FaultKind × Error)
  /-- The writes to come, one after each read. -/
  races : List Race

namespace Meddling

def quiet : Meddling := ⟨[], []⟩

def addFault (meddling : Meddling) (kind : FaultKind) (error : Error) : Meddling :=
  { meddling with faults := meddling.faults ++ [(kind, error)] }

def addRace (meddling : Meddling) (race : Race) : Meddling :=
  { meddling with races := meddling.races ++ [race] }

/-- The next error of a sort of request, and what is left of the meddling. -/
def fault? (meddling : Meddling) (kind : FaultKind) : Option (Error × Meddling) :=
  (meddling.faults.find? (·.1 = kind)).map fun fault =>
    (fault.2, { meddling with faults := meddling.faults.eraseP (·.1 = kind) })

end Meddling

/-- The run loop of a rehearsal. -/
inductive LoopState where
  /-- It was not started, or it was stopped. -/
  | idle
  /-- It runs with an agenda and reads the changes from a watch of the store. -/
  | running (agenda : Agenda) (watch : Nat)
  /-- It ended by itself with an error. -/
  | ended (error : Error)

/-- All that takes part in a rehearsal. -/
structure Rehearsal where
  config : EngineConfig
  simulatorConfig : SimulatorConfig
  store : Store
  disk : Disk
  simulator : Simulator.State
  clock : Clock
  /-- The timer of the run loop in milliseconds. -/
  time : Nat
  meddling : Meddling
  loop : LoopState
  /-- The notices that no one has collected. -/
  notices : List Notice

namespace Rehearsal

/-- A rehearsal with a store on a disk at a given time, before anything has happened. -/
def fresh (config : EngineConfig) (simulatorConfig : SimulatorConfig) (store : Store)
    (disk : Disk) (now : Int64) : Rehearsal :=
  { config, simulatorConfig, store, disk
    simulator := .fresh
    clock := ⟨now⟩
    time := 0
    meddling := .quiet
    loop := .idle
    notices := [] }

variable (rehearsal : Rehearsal)

def operate {α : Type} (operation : Store → Store.Effect α) : Except Error α × Rehearsal :=
  let ((answer, store), disk) := (operation rehearsal.store).run Disk.system rehearsal.disk
  (answer, { rehearsal with store, disk })

/-- Carries out an operation on the store unless a fault hits it. -/
def operateUnless {α : Type} (kind : FaultKind) (operation : Store → Store.Effect α) :
    Except Error α × Rehearsal :=
  match rehearsal.meddling.fault? kind with
  | some (error, meddling) => (.error error, { rehearsal with meddling })
  | none => rehearsal.operate operation

def race : Rehearsal :=
  match rehearsal.meddling.races with
  | [] => rehearsal
  | race :: races =>
    let rehearsal := { rehearsal with meddling := { rehearsal.meddling with races } }
    match race with
    | .apply name manifest => (rehearsal.operate (·.apply name manifest)).2
    | .delete key => (rehearsal.operate (·.delete key)).2

/-- Reads an object, after which the next race happens. -/
def read (key : Key) : Except Error (Option Declaration) × Rehearsal :=
  match rehearsal.meddling.fault? .get with
  | some (error, meddling) => (.error error, { rehearsal with meddling })
  | none => (.ok (rehearsal.store.table.get? key), rehearsal.race)

def nextChange : Option Change × Rehearsal :=
  match rehearsal.loop with
  | .running _ watch =>
    let (change, store) := rehearsal.store.nextChange watch
    (change, { rehearsal with store })
  | _ => (none, rehearsal)

def serve : Handler Request Request.Answer Rehearsal
  | .get key, rehearsal => rehearsal.read key
  | .list, rehearsal =>
    rehearsal.operateUnless .list fun store => .done (.ok store.table.toList, store)
  | .commit key expected status, rehearsal =>
    rehearsal.operateUnless .commit (·.updateStatus key expected status)
  | .flush, rehearsal => rehearsal.operateUnless .flush Store.flush
  | .nextChange, rehearsal => rehearsal.nextChange
  | .call call, rehearsal =>
    let (answer, simulator) :=
      Simulator.provider rehearsal.simulatorConfig call rehearsal.simulator
    (answer, { rehearsal with simulator })

/-- Adds notices to those that no one has collected. -/
def tell (notices : List Notice) : Rehearsal :=
  { rehearsal with notices := rehearsal.notices ++ notices }

/-- The notices that a reader finds in the channel, and the rehearsal without them. -/
def collect : List Notice × Rehearsal :=
  (Notice.kept rehearsal.config.noticeCapacity.toNat rehearsal.notices,
    { rehearsal with notices := [] })

def pass (key : Key) : Except Error (Option Duration) × Rehearsal :=
  let (report, rehearsal) :=
    (Dispatch.pass rehearsal.config rehearsal.clock.now key).run serve rehearsal
  (report.next, rehearsal.tell report.notice.toList)

/-- Runs one pass over each object that is declared now, whatever comes of it. -/
def round : Rehearsal :=
  rehearsal.store.table.toList.foldl (fun rehearsal object => (rehearsal.pass object.key).2)
    rehearsal

/-- More steps than the run loop takes at one instant. -/
def instantSteps : Nat := 100000

/-- Lets the run loop do all that it can do at this instant. -/
def settle : Rehearsal :=
  match rehearsal.loop with
  | .running agenda watch =>
    let (progress, rehearsal) :=
      (Dispatch.settle rehearsal.config rehearsal.clock.now rehearsal.time instantSteps
        ⟨agenda, []⟩).run serve rehearsal
    { rehearsal.tell progress.notices with loop := .running progress.agenda watch }
  | _ => rehearsal

/-- Moves the clock and the timer on by a number of milliseconds. -/
def elapse (milliseconds : Nat) : Rehearsal :=
  { rehearsal with
    clock := rehearsal.clock.move milliseconds
    time := rehearsal.time + milliseconds }

/-- The time until something is due, if the run loop waits for something. -/
def wait? : Option Nat :=
  match rehearsal.loop with
  | .running agenda _ => agenda.next?.map (· - rehearsal.time)
  | _ => none

/-- Lets time pass. The run loop does all that it can do at every instant at which something
is due, up to and including the last one. -/
def sleep (rehearsal : Rehearsal) (milliseconds : Nat) : Rehearsal :=
  let rehearsal := rehearsal.settle
  match rehearsal.wait? with
  | some wait =>
    if 0 < wait ∧ wait ≤ milliseconds then
      sleep (rehearsal.elapse wait) (milliseconds - wait)
    else rehearsal.elapse milliseconds
  | none => rehearsal.elapse milliseconds
termination_by milliseconds

/-- Lets a run loop end: it says so and writes what has not been written. -/
def endLoop : Except Error Unit × Rehearsal :=
  let ((answer, notices), rehearsal) := Dispatch.stop.run serve rehearsal
  (answer, rehearsal.tell notices)

/-- Stops the run loop and answers how it ended; nothing when it does not run. -/
def stop : Option (Except Error Unit) × Rehearsal :=
  match rehearsal.loop with
  | .idle => (none, rehearsal)
  | .ended error => (some (.error error), { rehearsal with loop := .idle })
  | .running _ _ =>
    let (answer, rehearsal) := rehearsal.endLoop
    (some answer, { rehearsal with loop := .idle })

/-- Begins a new run loop in place of the one there is. It watches the store before it lists it,
so nothing that is applied in between is missed, and does all that it can do at this instant. -/
def launch : Rehearsal :=
  let (watch, store) := rehearsal.store.watch
  let (begun, rehearsal) :=
    (Dispatch.start rehearsal.time).run serve { rehearsal with store }
  match begun with
  | .ok progress =>
    { rehearsal.tell progress.notices with loop := .running progress.agenda watch }.settle
  | .error error => { rehearsal with loop := .ended error }

/-- Starts the run loop. A loop that runs already ends once the new one has nothing left to do
at this instant. -/
def start : Rehearsal :=
  match rehearsal.loop with
  | .running _ _ => rehearsal.launch.endLoop.2
  | _ => rehearsal.launch

/-- Puts another store in place of the one there is; a running loop watches it from now on. -/
def reopen (store : Store) : Rehearsal :=
  match rehearsal.loop with
  | .running agenda _ =>
    let (watch, store) := store.watch
    { rehearsal with store, loop := .running agenda watch }
  | _ => { rehearsal with store }

def summary : List (Key × String × UInt64) :=
  rehearsal.store.table.toList.map fun object =>
    (object.key, object.status.stateText, object.version)

end Rehearsal

end Reconciler
