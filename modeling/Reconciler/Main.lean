import Reconciler.Daemon.Startup
import Reconciler.Dispatch.Loop
import Reconciler.Provider.Simulator
import Std.Async.Signal
import Std.Time.DateTime.Timestamp

/-!
# The daemon

The program: it reads its settings from the environment, prepares its provider and its store,
and runs the dispatcher in real time until it is told to stop. It exits with 0 after a stop,
with 1 when its settings or its start fail and with 2 when it fails while it runs.
-/

set_option autoImplicit false

namespace Reconciler.Daemon

/-- The failure of an action on files, from what the system says. -/
def failureOf : IO.Error → FileError
  | .noFileOrDirectory _ _ _ => .missing
  | .alreadyExists _ _ _ => .exists
  | .inappropriateType _ 20 _ => .notDirectory
  | .inappropriateType _ 21 _ => .isDirectory
  | .invalidArgument _ 22 _ => .invalidArgument
  | .invalidArgument _ 36 _ => .nameTooLong
  | .resourceBusy 16 _ => .busy
  | error => .other (toString error)

def attempt {α : Type} (action : IO α) : IO (Except FileError α) := do
  match ← action.toBaseIO with
  | .ok value => return .ok value
  | .error error => return .error (failureOf error)

/-- Whether an action of the system succeeds. -/
def succeeds {α : Type} (action : IO α) : IO Bool :=
  return (← attempt action).isOk

def serveFiles : (call : FileCall) → IO call.Answer
  | .exists path => succeeds (IO.FS.Handle.mk path .read)
  | .isFile path => succeeds (IO.FS.readBinFile path)
  | .makeDirectories path => attempt (IO.FS.createDirAll path)
  | .readText path => do
    match ← attempt (IO.FS.readBinFile path) with
    | .error error => return .error error
    | .ok bytes => return match String.fromUTF8? bytes with
      | some text => .ok text
      | none => .error .invalidText
  | .create path => attempt (IO.FS.writeFile path "")
  | .append path text => attempt do
    let file ← IO.FS.Handle.mk path .append
    file.putStr text
  | .flush path => attempt do
    let file ← IO.FS.Handle.mk path .append
    file.flush
  | .copy source target => attempt do
    IO.FS.writeBinFile target (← IO.FS.readBinFile source)
  | .rename source target => attempt (IO.FS.rename source target)

/-- What the daemon holds while it runs. -/
structure Held where
  prepared : Prepared
  store : IO.Ref Store
  simulator : IO.Ref Simulator.State

def Held.operate {α : Type} (held : Held) (operation : Store → Store.Effect α) :
    IO (Except Error α) := do
  let (answer, store) ← (operation (← held.store.get)).perform serveFiles
  held.store.set store
  return answer

/-- Answers the requests of the dispatcher, which reads the first watch of the store. -/
def Held.serve (held : Held) : (request : Request) → IO request.Answer
  | .get key => return .ok ((← held.store.get).table.get? key)
  | .list => return .ok (← held.store.get).table.toList
  | .commit key expected status => held.operate (·.updateStatus key expected status)
  | .flush => held.operate Store.flush
  | .nextChange => held.store.modifyGet (·.nextChange 0)
  | .call call =>
    held.simulator.modifyGet (Simulator.provider held.prepared.simulator call)

def currentTime : IO Int64 :=
  return Int64.ofInt (← Std.Time.Timestamp.now).toMillisecondsSinceUnixEpoch.val

/-- The longest time in milliseconds that the daemon sleeps before it looks for a signal. -/
def nap : Nat := 100

/-- The number of steps that the dispatcher takes before the daemon looks for a signal. -/
def stepsPerTurn : Nat := 1000

/-- Runs the dispatcher until a signal comes. -/
partial def Held.run (held : Held) (stopped : IO Bool) (progress : Dispatch.Progress) :
    IO (Except Error Unit) := do
  if ← stopped then
    return (← Dispatch.stop.perform held.serve).1
  let time ← IO.monoMsNow
  let settled ← (Dispatch.settle held.prepared.engine (← currentTime) time stepsPerTurn
    { progress with notices := [] }).perform held.serve
  match settled.agenda.next? with
  | some due => IO.sleep (min nap (due - time)).toUInt32
  | none => IO.sleep nap.toUInt32
  held.run stopped settled

/-- Starts the dispatcher and runs it until a signal comes. -/
def runPrepared (prepared : Prepared) : IO (Except Error Unit) := do
  let terminated ← (← Std.Async.Signal.Waiter.mk .sigterm false).wait
  let interrupted ← (← Std.Async.Signal.Waiter.mk .sigint false).wait
  let stopped : IO Bool := return (← IO.hasFinished terminated) || (← IO.hasFinished interrupted)
  let held : Held :=
    ⟨prepared, ← IO.mkRef prepared.store.watch.2, ← IO.mkRef Simulator.State.fresh⟩
  match ← (Dispatch.start (← IO.monoMsNow)).perform held.serve with
  | .error error => return .error error
  | .ok progress => held.run stopped progress

def readEnvironment : IO Environment := do
  let found ← variableNames.mapM fun name => return (name, ← IO.getEnv name)
  return fun name => (found.lookup name).join

/-- Tells why the daemon ends, and ends it with a code. -/
def exitWith (code : UInt32) (message : String) : IO UInt32 := do
  IO.eprintln message
  return code

end Reconciler.Daemon

open Reconciler Reconciler.Daemon in
/-- Runs the daemon. -/
def main : IO UInt32 := do
  match Settings.ofEnvironment (← readEnvironment) with
  | .error error =>
    exitWith 1 ("Configuration error: " ++ ": ".intercalate error.messages)
  | .ok settings => match ← settings.validate.run.perform serveFiles with
    | .error refusal => exitWith 1 ("Configuration validation error: " ++ refusal.message)
    | .ok () => match ← (prepare settings).run.perform serveFiles with
      | .error error => exitWith 1 ("Startup error: " ++ error.message)
      | .ok prepared => match ← runPrepared prepared with
        | .error error => exitWith 2 ("Daemon error: Controller failed: " ++ error.message)
        | .ok () => return 0
