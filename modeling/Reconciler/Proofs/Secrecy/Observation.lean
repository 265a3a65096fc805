import Reconciler.Proofs.Secrecy.Blind

/-!
# What can be observed of a rehearsal

A rehearsal goes through steps: writes of a client, passes, the run loop, moves of the clock and
failures. After every step there is a reply and a view, which is all that anybody can see. Steps
with the same masks have the same replies and views (`history_eq_of_masked`), so the master
password is nowhere to be seen and has no effect.
-/

set_option autoImplicit false

namespace Reconciler

namespace Rehearsal

/-! ## Actions of a rehearsal -/

variable {rehearsal : Rehearsal}

/-- A pass is a blind step. -/
theorem blind_pass (key : Key) : Blind id (·.pass key) (·.pass key) := by
  let work := fun rehearsal : Rehearsal =>
    (Dispatch.pass rehearsal.config rehearsal.clock.now key).run serve rehearsal
  let tell := fun (report : Dispatch.Report) (rehearsal : Rehearsal) =>
    (report.next, rehearsal.tell report.notice.toList)
  have hwork : Blind id work work := fun rehearsal hin =>
    blindWork_pass rehearsal.config rehearsal.clock.now key rehearsal hin
  exact hwork.bind tell tell fun _ _ hin => ⟨hin, rfl⟩

/-- The end of the run loop is a blind step. -/
theorem blind_endLoop : Blind id endLoop endLoop :=
  Blind.bind (fun ended rehearsal => (ended.1, rehearsal.tell ended.2))
    (fun ended rehearsal => (ended.1, rehearsal.tell ended.2)) blindWork_stop
    fun _ _ hin => ⟨hin, rfl⟩

/-- Settling the run loop is the same over masked objects. -/
theorem blindChange_settle : BlindChange settle := by
  intro rehearsal hin
  have hloop : rehearsal.masked.loop = rehearsal.loop := rfl
  simp only [settle, hloop]
  cases rehearsal.loop with
  | idle | ended error => exact ⟨hin, rfl⟩
  | running agenda watch =>
    have hwork := blindWork_settle rehearsal.config rehearsal.clock.now rehearsal.time instantSteps
      ⟨agenda, []⟩ rehearsal hin
    have hsame : (Dispatch.settle rehearsal.masked.config rehearsal.masked.clock.now
      rehearsal.masked.time instantSteps ⟨agenda, []⟩).run serve rehearsal.masked = _ := hwork.same
    simp only [hsame]
    exact ⟨hwork.inMemory, rfl⟩

/-- A stop is a blind step. -/
theorem blind_stop : Blind id stop stop := by
  intro rehearsal hin
  have hloop : rehearsal.masked.loop = rehearsal.loop := rfl
  simp only [stop, hloop]
  cases rehearsal.loop with
  | idle | ended error => exact ⟨hin, rfl⟩
  | running agenda watch =>
    have hended := blind_endLoop rehearsal hin
    simp only [hended.same]
    exact ⟨hended.inMemory, rfl⟩

/-- Launching the run loop is the same over masked objects. -/
theorem blindChange_launch : BlindChange launch := by
  rintro rehearsal ⟨store, hstore⟩
  let watching : Rehearsal :=
    { rehearsal with store := .memory { store with watches := store.watches.opened } }
  have hwatch : rehearsal.store.watch = (store.watches.length, watching.store) := by
    rw [hstore]
    rfl
  have hmasked : rehearsal.masked.store.watch =
      (store.watches.length, watching.masked.store) := by
    rw [masked, hstore]
    rfl
  have hwork := blindWork_start rehearsal.time watching ⟨_, rfl⟩
  have hsame : (Dispatch.start rehearsal.masked.time).run serve
      { rehearsal.masked with store := watching.masked.store } = _ := hwork.same
  have hplain : { rehearsal with store := watching.store } = watching := rfl
  simp only [launch, hwatch, hmasked, hsame, hplain, id_eq]
  cases ((Dispatch.start rehearsal.time).run serve watching).1 with
  | ok progress => exact blindChange_settle _ hwork.inMemory
  | error error => exact ⟨hwork.inMemory, rfl⟩

/-- A start is the same over masked objects. -/
theorem blindChange_start : BlindChange start := by
  intro rehearsal hin
  have hloop : rehearsal.masked.loop = rehearsal.loop := rfl
  obtain ⟨hlaunched, hsame⟩ := blindChange_launch rehearsal hin
  simp only [start, hloop]
  cases rehearsal.loop with
  | idle | ended error => exact ⟨hlaunched, hsame⟩
  | running agenda watch =>
    have hended := blind_endLoop rehearsal.launch hlaunched
    simp only [hsame, hended.same]
    exact ⟨hended.inMemory, trivial⟩

/-- A move of the clock is the same over masked objects. -/
theorem blindChange_sleep (milliseconds : Nat) : BlindChange (·.sleep milliseconds) := by
  intro rehearsal hin
  -- By induction on the time that is left: the loop wakes up at the same instants.
  induction milliseconds using Nat.strongRecOn generalizing rehearsal with
  | ind milliseconds ih =>
    obtain ⟨hsettled, hsame⟩ := blindChange_settle rehearsal hin
    have hwait : rehearsal.settle.masked.wait? = rehearsal.settle.wait? := rfl
    dsimp only
    rw [sleep, sleep, hsame, hwait]
    cases rehearsal.settle.wait? with
    | none => exact ⟨hsettled, rfl⟩
    | some wait =>
      dsimp only
      split
      · next hdue =>
        exact ih (milliseconds - wait) (by omega) (rehearsal.settle.elapse wait) hsettled
      · exact ⟨hsettled, rfl⟩

/-! ## Steps -/

/-- What happens to a rehearsal. -/
inductive Step where
  | apply (name : String) (manifest : Manifest)
  | delete (key : Key)
  | pass (key : Key)
  | moveClock (change : Clock → Clock)
  /-- The next call fails at the simulator. -/
  | failCall (error : Error)
  /-- The next request of a sort fails at the store. -/
  | failRequest (kind : FaultKind) (error : Error)
  /-- Another write comes right after the next read of a pass. -/
  | addRace (race : Race)
  | describe (kind : ResourceKind) (identifier : String)
  /-- The run loop starts. -/
  | start
  | stop
  | sleep (milliseconds : Nat)

/-- What is told of an object: all but its spec. -/
structure Outline where
  key : Key
  version : UInt64
  status : Status
  deriving DecidableEq

def Outline.of (object : Declaration) : Outline :=
  ⟨object.key, object.version, object.status⟩

/-- The reply to a step. -/
inductive Reply where
  | none
  | applied (answer : Except Error Outline)
  | deleted (answer : Except Error Bool)
  /-- The delay that a pass asks for. -/
  | passed (next : Except Error (Option Duration))
  | described (kind : ResourceKind) (answer : Except Error kind.Snapshot)
  | stopped (answer : Option (Except Error Unit))

namespace Step

def act : Step → Rehearsal → Reply × Rehearsal
  | .apply name manifest, rehearsal =>
    let (answer, rehearsal) := rehearsal.operate (·.apply name manifest)
    (.applied (answer.map .of), rehearsal)
  | .delete key, rehearsal =>
    let (answer, rehearsal) := rehearsal.operate (·.delete key)
    (.deleted answer, rehearsal)
  | .pass key, rehearsal =>
    let (next, rehearsal) := rehearsal.pass key
    (.passed next, rehearsal)
  | .moveClock change, rehearsal =>
    (.none, { rehearsal with clock := change rehearsal.clock })
  | .failCall error, rehearsal =>
    (.none, { rehearsal with simulator := rehearsal.simulator.failNext error })
  | .failRequest kind error, rehearsal =>
    (.none, { rehearsal with meddling := rehearsal.meddling.addFault kind error })
  | .addRace race, rehearsal =>
    (.none, { rehearsal with meddling := rehearsal.meddling.addRace race })
  | .describe kind identifier, rehearsal =>
    let (answer, simulator) := Simulator.provider rehearsal.simulatorConfig
      (.describe kind identifier) rehearsal.simulator
    (.described kind answer, { rehearsal with simulator })
  | .start, rehearsal => (.none, rehearsal.start)
  | .stop, rehearsal =>
    let (answer, rehearsal) := rehearsal.stop
    (.stopped answer, rehearsal)
  | .sleep milliseconds, rehearsal => (.none, rehearsal.sleep milliseconds)

def masked : Step → Step
  | .apply name manifest => .apply name manifest.masked
  | .addRace race => .addRace race.masked
  | step => step

/-- A step comes to the same over masked objects. -/
theorem blind_act (step : Step) : Blind id step.act step.masked.act := by
  cases step with
  | apply name manifest =>
    refine (blind_operate_apply name manifest).map (fun answer => Reply.applied (answer.map .of))
      fun answer => ?_
    cases answer <;> rfl
  | delete key => exact (blind_operate_delete key).map Reply.deleted fun _ => rfl
  | pass key => exact (blind_pass key).map Reply.passed fun _ => rfl
  | stop => exact blind_stop.map Reply.stopped fun _ => rfl
  | moveClock | failCall | failRequest | describe => exact fun _ hin => ⟨hin, rfl⟩
  | addRace race =>
    intro rehearsal hin
    have hraces : (rehearsal.meddling.addRace race).masked =
        rehearsal.meddling.masked.addRace race.masked := by
      simp [Meddling.masked, Meddling.addRace]
    refine ⟨hin, ?_⟩
    simp only [act, masked, Rehearsal.masked, hraces]
    rfl
  | start =>
    intro rehearsal hin
    obtain ⟨hafter, hsame⟩ := blindChange_start rehearsal hin
    exact ⟨hafter, congrArg (Prod.mk Reply.none) hsame⟩
  | sleep milliseconds =>
    intro rehearsal hin
    obtain ⟨hafter, hsame⟩ := blindChange_sleep milliseconds rehearsal hin
    exact ⟨hafter, congrArg (Prod.mk Reply.none) hsame⟩

end Step

/-! ## Views -/

/-- The lines on how a resource, whatever its description, differs from what a manifest
declares. -/
def driftLines : Manifest → Option ((kind : ResourceKind) × (kind.Snapshot → List String))
  | .resource kind spec =>
    some ⟨kind, fun existing => (Drift.of kind existing spec).map Mismatch.text⟩
  | .deletion _ => none

/-- The lines of a drift report do not depend on passwords. -/
@[simp]
theorem driftLines_masked (manifest : Manifest) :
    driftLines manifest.masked = driftLines manifest := by
  cases manifest with
  | resource kind spec => simp only [Manifest.masked, driftLines, Drift.of_masked]
  | deletion spec => rfl

/-- What can be seen of a rehearsal. -/
structure View where
  objects : List Outline
  /-- What the guard finds against the deletion of each resource. -/
  blockers : Target → List String
  guard : Target → Except Error Unit
  /-- The drift lines of each object. -/
  drift : List (Option ((kind : ResourceKind) × (kind.Snapshot → List String)))
  simulator : Simulator.State
  clock : Clock
  time : Nat
  loop : LoopState
  notices : List Notice

def view (rehearsal : Rehearsal) : View :=
  let objects := rehearsal.store.table.toList
  { objects := objects.map .of
    blockers := fun target => (Guard.blockers target objects).map Blocker.text
    guard := fun target => Guard.check target objects
    drift := objects.map fun object => driftLines object.manifest
    simulator := rehearsal.simulator
    clock := rehearsal.clock
    time := rehearsal.time
    loop := rehearsal.loop
    notices := rehearsal.notices }

/-- Masked objects look the same. -/
theorem view_masked (hin : rehearsal.InMemory) : rehearsal.masked.view = rehearsal.view := by
  obtain ⟨store, hstore⟩ := hin
  have hobjects : rehearsal.masked.store.table.toList =
      rehearsal.store.table.toList.map .masked := by
    rw [masked, hstore]
    exact store.table.toList_masked
  have houtlines : Outline.of ∘ Declaration.masked = Outline.of := rfl
  have hdrift : (fun object : Declaration => driftLines object.manifest) ∘ Declaration.masked =
      fun object => driftLines object.manifest :=
    funext fun object => driftLines_masked object.manifest
  simp only [view, hobjects, List.map_map, houtlines, hdrift, Guard.blockers_masked,
    Guard.check_masked]
  rfl

/-! ## Histories -/

/-- The replies to a list of steps, each with the view after the step. -/
def history : List Step → Rehearsal → List (Reply × View)
  | [], _ => []
  | step :: rest, rehearsal =>
    ((step.act rehearsal).1, (step.act rehearsal).2.view) :: history rest (step.act rehearsal).2

/-- Masked steps from a masked rehearsal have the same replies and views. -/
theorem history_masked (steps : List Step) (hin : rehearsal.InMemory) :
    history (steps.map .masked) rehearsal.masked = history steps rehearsal := by
  induction steps generalizing rehearsal with
  | nil => rfl
  | cons step rest ih =>
    obtain ⟨hafter, hsame⟩ := step.blind_act rehearsal hin
    simp only [List.map_cons, history, hsame, id_eq, view_masked hafter, ih hafter]

/-- The master password does not influence anything that can be observed. Two rehearsals in memory
that differ in master passwords at most, and that go through steps that do so too, have the same
replies and the same views throughout; and cluster specs that differ in the password at most are
shown by the same texts, as are the requests made from them. -/
theorem history_eq_of_masked {rehearsal other : Rehearsal} {steps others : List Step}
    (hin : rehearsal.InMemory) (hstart : rehearsal.masked = other.masked)
    (hsteps : steps.map Step.masked = others.map Step.masked) :
    history steps rehearsal = history others other ∧
      ∀ spec declared : ClusterSpec, spec.masked = declared.masked →
        Inspect.clusterSpec spec = Inspect.clusterSpec declared ∧
          Inspect.clusterCreation spec.creation = Inspect.clusterCreation declared.creation := by
  have hother : other.InMemory := by
    obtain ⟨store, hstore⟩ := hin
    have hmasked : other.store.masked = .memory store.masked := by
      have hsame : rehearsal.store.masked = other.store.masked := congrArg Rehearsal.store hstart
      rw [← hsame, hstore]
      rfl
    cases hkind : other.store with
    | memory memory => exact ⟨memory, hkind⟩
    | file file =>
      rw [hkind] at hmasked
      cases hmasked
  refine ⟨?_, fun spec declared hsame => ⟨?_, ?_⟩⟩
  · calc history steps rehearsal
        = history (steps.map .masked) rehearsal.masked := (history_masked steps hin).symm
      _ = history (others.map .masked) other.masked := by rw [hsteps, hstart]
      _ = history others other := history_masked others hother
  · rw [← Inspect.clusterSpec_masked spec, hsame, Inspect.clusterSpec_masked]
  · rw [← Inspect.clusterCreation_masked spec, hsame, Inspect.clusterCreation_masked]

/-! ## A cluster with one password or another -/

def ordersSpec (password : String) : ClusterSpec :=
  ⟨"orders", "aurora-mysql", none, "admin", password, ["sg-1"], none, none⟩

def ordersKey : Key := ⟨.resource .cluster, "orders"⟩

def ordersSteps (password : String) : List Step :=
  [.apply "orders" (.resource .cluster (ordersSpec password)),
    .pass ordersKey,
    .failCall (.provider "cluster" "Throttling"),
    .pass ordersKey,
    .pass ordersKey,
    .describe .cluster "orders"]

def emptyRehearsal : Rehearsal :=
  .fresh .default .default (.memory .empty) .empty 0

/-- The third pass creates the cluster, with the one password or the other, and asks for the next
pass at once. -/
theorem history_eq_of_masked_ordersSteps :
    history (ordersSteps "hunter2") emptyRehearsal =
        history (ordersSteps "swordfish") emptyRehearsal ∧
      ((history (ordersSteps "hunter2") emptyRehearsal).map Prod.fst)[4]? =
        some (.passed (.ok (some .zero))) ∧
      Inspect.clusterSpec (ordersSpec "hunter2") =
        Inspect.clusterSpec (ordersSpec "swordfish") := by
  have hstart : emptyRehearsal.masked = emptyRehearsal.masked := rfl
  obtain ⟨hsame, htexts⟩ := history_eq_of_masked ⟨.empty, rfl⟩ hstart
    (rfl : (ordersSteps "hunter2").map .masked = (ordersSteps "swordfish").map Step.masked)
  exact ⟨hsame, rfl, (htexts (ordersSpec "hunter2") (ordersSpec "swordfish") rfl).1⟩

end Rehearsal

end Reconciler
