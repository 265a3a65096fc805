import Reconciler.Dispatch.Rehearsal
import Reconciler.Proofs.Lifecycle.Pass
import Reconciler.Proofs.Secrecy.Masked
import Reconciler.Proofs.Site.Requests

/-!
# What the dispatcher does with masked objects

An action at a rehearsal in memory is blind when over masked objects it comes to the masked answer
and leaves everything masked, so that the passwords decide nothing. Blind actions in a row are
blind (`Blind.bind`), the requests of the dispatcher are, and so is all of its work.
-/

set_option autoImplicit false

namespace Reconciler

/-! ## Passes of the engines -/

section

variable (simulator : SimulatorConfig) (state : Simulator.State)

/-- The simulator does not look at the password of a cluster that it creates. -/
theorem Simulator.runWith_create_masked (kind : ResourceKind) (spec : kind.Spec) :
    (Calls.create kind (kind.creation (kind.masked spec))).runWith (provider simulator) state =
      (Calls.create kind (kind.creation spec)).runWith (provider simulator) state := by
  cases kind <;> rfl

/-- The simulator creates the same resource from a masked spec. -/
theorem Adapter.runWith_create_masked (kind : ResourceKind) (spec : kind.Spec) :
    (create kind (kind.masked spec)).runWith (Simulator.provider simulator) state =
      (create kind spec).runWith (Simulator.provider simulator) state := by
  simp only [create, Calls.runWith_bind, Simulator.runWith_create_masked, update_masked]

/-- A pass over a masked spec comes to the same at the simulator. -/
theorem Lifecycle.run_pass_masked (kind : ResourceKind) (spec : kind.Spec) (config : EngineConfig)
    (status : LifecycleStatus) (now : Int64) :
    (pass kind (kind.masked spec) config status now).run (Simulator.provider simulator) state =
      (pass kind spec config status now).run (Simulator.provider simulator) state := by
  have hfound : found kind (kind.masked spec) (Simulator.provider simulator) state =
      found kind spec (Simulator.provider simulator) state := by cases kind <;> rfl
  have hlooked : looked kind (kind.masked spec) (Simulator.provider simulator) state =
      looked kind spec (Simulator.provider simulator) state := by cases kind <;> rfl
  cases hstate : status.state with
  | noState => rw [run_pass_noState _ _ _ _ _ _ hstate, run_pass_noState _ _ _ _ _ _ hstate]
  | unprovisioned =>
    rw [run_pass_unprovisioned _ _ _ _ _ _ hstate, run_pass_unprovisioned _ _ _ _ _ _ hstate,
      hfound, hlooked]
    simp only [Adapter.runWith_create_masked, Adapter.update_masked]
  | provisioning =>
    rw [run_pass_provisioning _ _ _ _ _ _ hstate, run_pass_provisioning _ _ _ _ _ _ hstate,
      hfound, hlooked]
  | provisioned =>
    rw [run_pass_provisioned _ _ _ _ _ _ hstate, run_pass_provisioned _ _ _ _ _ _ hstate,
      hfound, hlooked]
    simp only [verified, Drift.of_masked]

/-- The guard and the calls of a deletion request do not depend on passwords. -/
theorem Deletion.pass_masked (removers : Removers) (config : EngineConfig) (spec : DeletionSpec)
    (state : DeletionState) (objects : List Declaration) :
    pass removers config spec state (objects.map .masked) =
      pass removers config spec state objects := by
  simp only [pass, calls, Guard.check_masked]

end

/-- The agenda is made of keys. -/
theorem Dispatch.Progress.scheduleObjects_masked (progress : Progress) (time : Nat)
    (objects : List Declaration) :
    progress.scheduleObjects time (objects.map .masked) =
      progress.scheduleObjects time objects := by
  simp only [scheduleObjects, List.map_map]
  rfl

/-! ## Masked rehearsals -/

def Store.masked : Store → Store
  | .memory store => .memory store.masked
  | .file store => .file store

/-- Reading a change does not touch the objects. -/
theorem Store.nextChange_memory (store : MemoryStore) (index : Nat) :
    ∃ change watches, ∀ table, (Store.memory ⟨table, store.watches⟩).nextChange index =
      (change, .memory ⟨table, watches⟩) := by
  cases hnext : store.watches[index]?.bind Watch.next? with
  | none =>
    refine ⟨none, store.watches, fun table => ?_⟩
    simp only [nextChange, Store.watches, hnext]
  | some next =>
    refine ⟨some next.1, store.watches.set index next.2, fun table => ?_⟩
    simp only [nextChange, Store.watches, hnext]
    rfl

def Race.masked : Race → Race
  | .apply name manifest => .apply name manifest.masked
  | .delete key => .delete key

def Meddling.masked (meddling : Meddling) : Meddling :=
  { meddling with races := meddling.races.map .masked }

/-- A failure to come is the same of masked objects, and what is left of them is masked. -/
theorem Meddling.fault?_masked (meddling : Meddling) (kind : FaultKind) :
    meddling.masked.fault? kind =
      (meddling.fault? kind).map fun fault => (fault.1, fault.2.masked) := by
  simp only [fault?, masked]
  cases meddling.faults.find? (·.1 = kind) <;> rfl

namespace Rehearsal

def masked (rehearsal : Rehearsal) : Rehearsal :=
  { rehearsal with store := rehearsal.store.masked, meddling := rehearsal.meddling.masked }

def InMemory (rehearsal : Rehearsal) : Prop :=
  ∃ store, rehearsal.store = .memory store

variable {α β : Type}

/-- What an action comes to in memory, and the masked answer with everything masked. -/
structure Masks (mask : α → α) (result other : α × Rehearsal) : Prop where
  inMemory : result.2.InMemory
  same : other = (mask result.1, result.2.masked)

/-- An action, and its counterpart over masked objects: that one comes to the masked answer and
leaves everything masked. -/
def Blind (mask : α → α) (action other : Rehearsal → α × Rehearsal) : Prop :=
  ∀ rehearsal, rehearsal.InMemory → Masks mask (action rehearsal) (other rehearsal.masked)

/-- A change of a rehearsal that is the same over masked objects. -/
def BlindChange (change : Rehearsal → Rehearsal) : Prop :=
  ∀ rehearsal, rehearsal.InMemory →
    (change rehearsal).InMemory ∧ change rehearsal.masked = (change rehearsal).masked

namespace Blind

variable {mask : α → α} {action other : Rehearsal → α × Rehearsal}

/-- An answer without an action is blind. -/
theorem pure (answer : α) : Blind mask (answer, ·) (mask answer, ·) :=
  fun _ hin => ⟨hin, rfl⟩

/-- Blind actions in a row are blind. -/
theorem bind {mask' : β → β} (next next' : α → Rehearsal → β × Rehearsal)
    (h : Blind mask action other)
    (hnext : ∀ answer, Blind mask' (next answer) (next' (mask answer))) :
    Blind mask' (fun rehearsal => next (action rehearsal).1 (action rehearsal).2)
      fun rehearsal => next' (other rehearsal).1 (other rehearsal).2 := by
  intro rehearsal hin
  dsimp only
  rw [(h rehearsal hin).same]
  exact hnext _ _ (h rehearsal hin).inMemory

/-- An action stays blind when its answer is worked on in a way that the mask follows. -/
theorem map {mask' : β → β} (f : α → β) (h : Blind mask action other)
    (hf : ∀ answer, f (mask answer) = mask' (f answer)) :
    Blind mask' (fun rehearsal => (f (action rehearsal).1, (action rehearsal).2))
      fun rehearsal => (f (other rehearsal).1, (other rehearsal).2) := by
  intro rehearsal hin
  refine ⟨(h rehearsal hin).inMemory, ?_⟩
  dsimp only
  rw [(h rehearsal hin).same, hf]

end Blind

/-! ## Operations of the store -/

/-- An operation is blind when it is so on stores in memory. -/
theorem blind_operate {mask : Except Error α → Except Error α}
    {operation other : Store → Store.Effect α}
    (effect effect' : MemoryStore → Except Error α × MemoryStore)
    (hoperation : ∀ store, operation (.memory store) = Store.ofMemory (effect store))
    (hother : ∀ store, other (.memory store) = Store.ofMemory (effect' store))
    (hmasked : ∀ store, effect' store.masked = (mask (effect store).1, (effect store).2.masked)) :
    Blind mask (·.operate operation) (·.operate other) := by
  rintro rehearsal ⟨store, hstore⟩
  have hoperate : rehearsal.operate operation =
      ((effect store).1, { rehearsal with store := .memory (effect store).2 }) := by
    rw [operate, hstore, hoperation]
    rfl
  dsimp only
  rw [hoperate]
  refine ⟨⟨_, rfl⟩, ?_⟩
  rw [operate, masked, hstore, Store.masked, hother]
  simp only [Store.ofMemory, hmasked]
  rfl

/-- Applying an object is blind. -/
theorem blind_operate_apply (name : String) (manifest : Manifest) :
    Blind (Except.map Declaration.masked) (·.operate (·.apply name manifest))
      (·.operate (·.apply name manifest.masked)) :=
  blind_operate _ _ (fun _ => rfl) (fun _ => rfl) fun store => store.apply_masked name manifest

/-- Deleting an object is blind. -/
theorem blind_operate_delete (key : Key) :
    Blind id (·.operate (·.delete key)) (·.operate (·.delete key)) :=
  blind_operate (fun store => (store.delete key).map .ok id)
    (fun store => (store.delete key).map .ok id) (fun _ => rfl) (fun _ => rfl) fun store => by
      rw [store.delete_masked key]
      rfl

/-- Committing a status is blind. -/
theorem blind_operate_updateStatus (key : Key) (expected : UInt64) (status : Status) :
    Blind id (·.operate (·.updateStatus key expected status))
      (·.operate (·.updateStatus key expected status)) :=
  blind_operate _ _ (fun _ => rfl) (fun _ => rfl) fun store =>
    store.updateStatus_masked key expected status

/-- Flushing the store is blind. -/
theorem blind_operate_flush : Blind id (·.operate Store.flush) (·.operate Store.flush) :=
  blind_operate (.ok (), ·) (.ok (), ·) (fun _ => rfl) (fun _ => rfl) fun _ => rfl

/-! ## Requests of the dispatcher -/

/-- What may be hit by a fault is blind when it is so without the fault. -/
theorem blind_unless {mask : Except Error α → Except Error α} (kind : FaultKind)
    (action other : Rehearsal → Except Error α × Rehearsal)
    (hmask : ∀ error, mask (.error error) = .error error) (h : Blind mask action other) :
    Blind mask
      (fun rehearsal => match rehearsal.meddling.fault? kind with
        | some (error, meddling) => (.error error, { rehearsal with meddling })
        | none => action rehearsal)
      fun rehearsal => match rehearsal.meddling.fault? kind with
        | some (error, meddling) => (.error error, { rehearsal with meddling })
        | none => other rehearsal := by
  intro rehearsal hin
  simp only [masked, Meddling.fault?_masked]
  cases rehearsal.meddling.fault? kind with
  | none => exact h rehearsal hin
  | some fault => exact ⟨hin, congrArg (·, _) (hmask fault.1).symm⟩

/-- The race of another writer is the same over masked objects. -/
theorem blindChange_race : BlindChange race := by
  intro rehearsal hin
  simp only [race, masked, Meddling.masked]
  cases hraces : rehearsal.meddling.races with
  | nil =>
    simp only [List.map_nil, hraces]
    exact ⟨hin, trivial⟩
  | cons race races =>
    have hrest : ({ rehearsal with
        meddling := { rehearsal.meddling with races } } : Rehearsal).InMemory := hin
    cases race with
    | apply name manifest =>
      obtain ⟨hafter, hmasked⟩ := blind_operate_apply name manifest _ hrest
      exact ⟨hafter, congrArg Prod.snd hmasked⟩
    | delete key =>
      obtain ⟨hafter, hmasked⟩ := blind_operate_delete key _ hrest
      exact ⟨hafter, congrArg Prod.snd hmasked⟩

/-- Reading an object is blind. -/
theorem blind_get (key : Key) :
    Blind (Except.map (Option.map .masked)) (serve (.get key)) (serve (.get key)) := by
  refine blind_unless .get (fun rehearsal => (.ok (rehearsal.store.table.get? key), rehearsal.race))
    (fun rehearsal => (.ok (rehearsal.store.table.get? key), rehearsal.race)) (fun _ => rfl)
    fun rehearsal hin => ?_
  obtain ⟨hafter, hmasked⟩ := blindChange_race rehearsal hin
  obtain ⟨store, hstore⟩ := hin
  have hget : rehearsal.masked.store.table.get? key =
      (rehearsal.store.table.get? key).map .masked := by
    rw [masked, hstore]
    exact store.table.get?_masked key
  refine ⟨hafter, ?_⟩
  dsimp only
  rw [hget, hmasked]
  rfl

/-- Listing the objects is blind. -/
theorem blind_list : Blind (Except.map (List.map .masked)) (serve .list) (serve .list) :=
  blind_unless .list _ _ (fun _ => rfl) <|
    blind_operate (fun store => (.ok store.table.toList, store))
      (fun store => (.ok store.table.toList, store)) (fun _ => rfl) (fun _ => rfl) fun store => by
        rw [MemoryStore.masked, Table.toList_masked]
        rfl

/-- The commit of the dispatcher is blind. -/
theorem blind_commit (key : Key) (expected : UInt64) (status : Status) :
    Blind id (serve (.commit key expected status)) (serve (.commit key expected status)) :=
  blind_unless .commit _ _ (fun _ => rfl) (blind_operate_updateStatus key expected status)

/-- The flush of the dispatcher is blind. -/
theorem blind_flush : Blind id (serve .flush) (serve .flush) :=
  blind_unless .flush _ _ (fun _ => rfl) blind_operate_flush

/-- Waiting for the next change is blind. -/
theorem blind_nextChange : Blind id (serve .nextChange) (serve .nextChange) := by
  rintro rehearsal ⟨store, hstore⟩
  have hmasked : rehearsal.masked.store = .memory store.masked := by
    rw [masked, hstore]
    rfl
  have hsame : rehearsal.masked.loop = rehearsal.loop := rfl
  simp only [serve, nextChange, hsame]
  cases rehearsal.loop with
  | idle | ended error => exact ⟨⟨store, hstore⟩, rfl⟩
  | running agenda watch =>
    obtain ⟨change, watches, hnext⟩ := Store.nextChange_memory store watch
    have hplain : (Store.memory store).nextChange watch =
        (change, .memory ⟨store.table, watches⟩) := hnext store.table
    simp only [hstore, hmasked, MemoryStore.masked, hplain, hnext store.table.masked]
    exact ⟨⟨_, rfl⟩, rfl⟩

/-- Calls to the provider touch the simulator only. -/
theorem run_ofCalls (calls : Script Call Call.Answer α) (rehearsal : Rehearsal) :
    (Work.ofCalls calls).run serve rehearsal =
      let result := calls.run (Simulator.provider rehearsal.simulatorConfig) rehearsal.simulator
      (result.1, { rehearsal with simulator := result.2 }) := by
  induction calls generalizing rehearsal with
  | done value => rfl
  | ask call next ih => exact ih _ _

/-- Provider calls are blind when the simulator does not tell them from the ones made for masked
objects. -/
theorem blind_calls {calls other : Script Call Call.Answer α}
    (h : ∀ config state, other.run (Simulator.provider config) state =
      calls.run (Simulator.provider config) state) :
    Blind id ((Work.ofCalls calls).run serve) ((Work.ofCalls other).run serve) := by
  intro rehearsal hin
  rw [run_ofCalls, run_ofCalls, h]
  exact ⟨hin, rfl⟩

/-! ## Work of the dispatcher -/

/-- Work, and the same work over masked objects. -/
abbrev BlindWork (work other : Work α) : Prop :=
  Blind id (work.run serve) (other.run serve)

namespace BlindWork

/-- Work that is done is blind. -/
theorem done (value : α) : BlindWork (.done value) (.done value) := Blind.pure value

/-- Work that asks a blind request, and goes on blindly, is blind. -/
theorem ask {request : Request} {mask : request.Answer → request.Answer}
    {next next' : request.Answer → Work α} (h : Blind mask (serve request) (serve request))
    (hnext : ∀ answer, BlindWork (next answer) (next' (mask answer))) :
    BlindWork (.ask request next) (.ask request next') :=
  h.bind (fun answer => (next answer).run serve) (fun answer => (next' answer).run serve) hnext

/-- Pieces of blind work in a row are blind. -/
theorem bind {work other : Work α} {next next' : α → Work β} (h : BlindWork work other)
    (hnext : ∀ value, BlindWork (next value) (next' value)) :
    BlindWork (Script.bind work next) (Script.bind other next') := by
  have hsplit : ∀ (work : Work α) (next : α → Work β), (Script.bind work next).run serve =
      fun rehearsal => (next (work.run serve rehearsal).1).run serve (work.run serve rehearsal).2 :=
    fun work next => funext fun rehearsal => Script.run_bind serve work next rehearsal
  rw [BlindWork, hsplit, hsplit]
  exact Blind.bind (fun value => (next value).run serve) (fun value => (next' value).run serve) h
    hnext

end BlindWork

variable (config : EngineConfig) (now : Int64) (key : Key) (object : Declaration)

/-- The engines do blind work. -/
theorem blindWork_engine :
    BlindWork (Dispatch.engine config now object) (Dispatch.engine config now object.masked) := by
  obtain ⟨own, version, manifest, status⟩ := object
  cases manifest with
  | resource kind spec => cases status with
    | lifecycle status =>
      exact .bind (blind_calls fun simulator state =>
        Lifecycle.run_pass_masked simulator state kind spec config status now) fun _ => .done _
    | deletion state => exact .done _
  | deletion spec => cases status with
    | lifecycle status => exact .done _
    | deletion state =>
      refine .ask blind_list fun answer => ?_
      cases answer with
      | error error => exact .done _
      | ok objects =>
        refine .bind (blind_calls fun simulator memory => ?_) fun _ => .done _
        rw [Deletion.pass_masked]

/-- Concluding a pass is blind work. -/
theorem blindWork_conclude (result : Except Error (Except Failure (Outcome Status))) :
    BlindWork (Dispatch.conclude config key object result)
      (Dispatch.conclude config key object.masked result) := by
  rcases result with error | failure | outcome
  · exact .done _
  · exact .done _
  · have hstatus : object.masked.status = object.status := rfl
    simp only [Dispatch.conclude, Dispatch.commit]
    rw [hstatus]
    split
    · exact .done _
    · refine .ask (blind_commit key object.version outcome.status) fun answer => ?_
      cases answer with
      | ok version => exact .done _
      | error error =>
        simp only [id_eq]
        split <;> exact .done _

/-- A pass is blind. -/
theorem blindWork_pass :
    BlindWork (Dispatch.pass config now key) (Dispatch.pass config now key) := by
  refine .ask (blind_get key) fun answer => ?_
  rcases answer with error | _ | object
  · exact .done _
  · exact .done _
  · exact (blindWork_engine config now object).bind (blindWork_conclude config key object)

/-! ## The run loop -/

/-- Handling a change is blind work. -/
theorem blindWork_handle (time : Nat) (progress : Dispatch.Progress) (change : Change) :
    BlindWork (Dispatch.handle time progress change) (Dispatch.handle time progress change) := by
  cases change with
  | applied key => exact .done _
  | deleted key => exact .done _
  | resync =>
    refine .ask blind_list fun answer => ?_
    cases answer with
    | error error => exact .done _
    | ok objects =>
      simp only [Except.map, Dispatch.Progress.scheduleObjects_masked]
      exact .done _

/-- Running all due passes is blind work. -/
theorem blindWork_runAll (time : Nat) (progress : Dispatch.Progress) (keys : List Key) :
    BlindWork (Dispatch.runAll config now time progress keys)
      (Dispatch.runAll config now time progress keys) := by
  induction keys generalizing progress with
  | nil => exact .done _
  | cons key rest ih => exact (blindWork_pass config now key).bind fun report => ih _

/-- Settling the agenda is blind work. -/
theorem blindWork_settle (time steps : Nat) (progress : Dispatch.Progress) :
    BlindWork (Dispatch.settle config now time steps progress)
      (Dispatch.settle config now time steps progress) := by
  induction steps generalizing progress with
  | zero => exact .done _
  | succ steps ih =>
    refine .ask blind_nextChange fun answer => ?_
    cases answer with
    | some change => exact (blindWork_handle time progress change).bind ih
    | none =>
      simp only [id_eq]
      split
      · exact (blindWork_runAll config now time _ _).bind ih
      · exact .done _

/-- Starting the dispatcher is blind work. -/
theorem blindWork_start (time : Nat) :
    BlindWork (Dispatch.start time) (Dispatch.start time) := by
  refine .ask blind_list fun answer => ?_
  cases answer with
  | error error => exact .done _
  | ok objects =>
    simp only [Except.map, List.length_map, Dispatch.Progress.scheduleObjects_masked]
    exact .done _

/-- Stopping the dispatcher is blind work. -/
theorem blindWork_stop : BlindWork Dispatch.stop Dispatch.stop :=
  .ask blind_flush fun _ => .done _

end Rehearsal

end Reconciler
