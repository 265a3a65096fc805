import Reconciler.Proofs.Convergence.Stage
import Reconciler.Proofs.Site
import Reconciler.Proofs.Site.Writes
import Reconciler.Proofs.Update.Parameters

/-!
# Repair

What becomes of a provisioned object whose resource has come to drift from its spec in fields that
can be changed. The first pass sees the drift, the second sends the one change that clears it, and
from then on the object settles (`Mending`). Once it is provisioned again it stays as it is, and
no further pass writes (`drift_is_repaired`). Other keys may have passes in between, clients may
write, and the simulator may be called by others, as long as the object and its resource are left
alone.
-/

set_option autoImplicit false

namespace Reconciler

open Simulator

variable {config : EngineConfig} {sim : SimulatorConfig} {times later : List Int64}
  {kind : ResourceKind} {spec : kind.Spec} {resource : kind.Snapshot} {change : kind.Change}
  {tables : Tables} {now : Int64}

/-! ## The stages of a repair -/

namespace Lifecycle

/-- The stages of a repair by a change: the status of the object, what the simulator has of its
resource, the number of passes that are left, and the writes that are still to come. -/
inductive Mending (config : EngineConfig) (sim : SimulatorConfig) (times : List Int64)
    (kind : ResourceKind) (resource : kind.Snapshot) (change : kind.Change) :
    LifecycleStatus → Option (kind.Snapshot × Phase) → Nat → List Call → Prop where
  | drifted (status : LifecycleStatus) (hstate : status.state = .provisioned) :
    Mending config sim times kind resource change status (some (resource, .settled))
      (max 1 sim.readyAfter.toNat + 3) [.modify kind change]
  | pending :
    Mending config sim times kind resource change regressed (some (resource, .settled))
      (max 1 sim.readyAfter.toNat + 2) [.modify kind change]
  | settling (status : LifecycleStatus) (phase : Phase) (rounds : Nat)
      (h : Settling config times kind (changed kind resource change) status phase rounds) :
    Mending config sim times kind resource change status
      (some (changed kind resource change, phase)) rounds []

/-- Drift sends a provisioned object back, without a write. -/
theorem run_drifted (config : EngineConfig) (sim : SimulatorConfig) (now : Int64)
    (hdrift : Drift.of kind resource spec ≠ []) {status : LifecycleStatus}
    (hstate : status.state = .provisioned)
    (hthere : tables.find? kind (kind.identifier spec) = some (resource, .settled)) :
    ∃ after, (pass kind spec config status now).run (provider sim) (.calm tables) =
        (.ok (.settle regressed), .calm after) ∧
      after.find? kind (kind.identifier spec) = some (resource, .settled) := by
  obtain ⟨after, hfound, hlooked, hafter⟩ := found_of_some sim hthere rfl
  refine ⟨after, ?_, hafter⟩
  have hdrifts : (Drift.of kind (shown kind resource .settled) spec).isEmpty = false := by
    rw [drift_shown]
    exact List.isEmpty_eq_false_iff.mpr hdrift
  rw [run_pass_provisioned kind spec config now (provider sim) (.calm tables) hstate, hfound,
    hlooked]
  simp only [verified, hdrifts, Bool.false_and]
  rfl

/-- A resource that is to be provided and is there is changed to what its spec wants. -/
theorem run_regressed (config : EngineConfig) (now : Int64) (hlive : sim.dryRun = false)
    (hchange : Adapter.change? kind resource spec = some change)
    (hthere : tables.find? kind (kind.identifier spec) = some (resource, .settled)) :
    ∃ after, (pass kind spec config regressed now).run (provider sim) (.calm tables) =
        (.ok (.settle awaiting), .calm after) ∧
      after.find? kind (kind.identifier spec) =
        some (changed kind resource change, changedPhase sim kind) := by
  obtain ⟨middle, hfound, hlooked, hmiddle⟩ := found_of_some sim hthere rfl
  have hready := (isReady_shown_iff hthere rfl).mpr rfl
  have hshown : Adapter.change? kind (shown kind resource .settled) spec = some change := by
    rw [change?_shown, hchange]
  obtain ⟨after, hupdated, hafter⟩ := runWith_update_of_settled hlive hshown hmiddle
  refine ⟨after, ?_, hafter⟩
  rw [run_pass_unprovisioned kind spec config now (provider sim) (.calm tables) rfl, hfound,
    hlooked]
  simp only [hready, if_true, hupdated]

/-- A pass over a regressed object with drift looks once and asks for one modification. -/
theorem asked_regressed (config : EngineConfig) (sim : SimulatorConfig) (now : Int64)
    (hchange : Adapter.change? kind resource spec = some change)
    (hthere : tables.find? kind (kind.identifier spec) = some (resource, .settled)) :
    (pass kind spec config regressed now).asked (provider sim) (.calm tables) =
      [.describe kind (kind.identifier spec), .modify kind change] := by
  obtain ⟨after, hfound, -, -⟩ := found_of_some sim hthere rfl
  have hready := (isReady_shown_iff hthere rfl).mpr rfl
  rw [asked_pass_unprovisioned kind spec config now (provider sim) (.calm tables) rfl hfound
    hready, change?_shown, hchange]
  rfl

/-- A pass over an object that is not to be provided writes nothing. -/
theorem filter_asked_pass (config : EngineConfig) (sim : SimulatorConfig) (tables : Tables)
    (now : Int64) (spec : kind.Spec) {status : LifecycleStatus}
    (hstate : status.state ≠ .unprovisioned) :
    ((pass kind spec config status now).asked (provider sim) (.calm tables)).filter
      (·.isWrite) = [] := by
  rw [List.filter_eq_nil_iff]
  intro call hcall
  have hlooks := (asks_pass_looks kind spec config now hstate).of_mem_asked hcall
  simp [hlooks]

/-- A pass takes a repair one step further: what it writes are the next of the writes that were
still to come. -/
theorem Mending.step (hlive : sim.dryRun = false)
    (hchange : Adapter.change? kind resource spec = some change)
    (hdrift : Drift.of kind resource spec ≠ [])
    (hcleared : Drift.of kind (changed kind resource change) spec = [])
    (hnow : now ∈ times) (hlater : Due config later (max now 1)) {status : LifecycleStatus}
    {rounds : Nat} {owed : List Call}
    (h : Mending config sim times kind resource change status
      (tables.find? kind (kind.identifier spec)) rounds owed) :
    ∃ outcome after left due,
      (pass kind spec config status now).run (provider sim) (.calm tables) =
        (.ok outcome, .calm after) ∧
      Mending config sim later kind resource change outcome.status
        (after.find? kind (kind.identifier spec)) left due ∧
      left ≤ rounds - 1 ∧
      ((pass kind spec config status now).asked (provider sim) (.calm tables)).filter
        (·.isWrite) ++ due = owed := by
  generalize hthere : tables.find? kind (kind.identifier spec) = entry at h
  cases h with
  | drifted _ hstate =>
    -- the drift is seen, and the change is owed to the next pass
    obtain ⟨after, hrun, hafter⟩ := run_drifted config sim now hdrift hstate hthere
    have hlooks : status.state ≠ .unprovisioned := by simp [hstate]
    refine ⟨_, after, max 1 sim.readyAfter.toNat + 2, [.modify kind change], hrun, ?_,
      by omega, ?_⟩
    · rw [hafter]
      exact .pending
    · rw [filter_asked_pass config sim tables now spec hlooks]
      rfl
  | pending =>
    -- the change is made, and from here on the resource settles without a write
    obtain ⟨after, hrun, hafter⟩ := run_regressed config now hlive hchange hthere
    obtain ⟨looks, hlooks, hbound⟩ := settlesIn_changedPhase sim kind
    refine ⟨_, after, looks + 1, [], hrun, ?_, by omega, ?_⟩
    · rw [hafter]
      exact .settling _ _ _ (.awaited _ looks hlooks)
    · rw [asked_regressed config sim now hchange hthere]
      rfl
  | settling _ phase _ hsettling =>
    obtain ⟨outcome, after, next, left, hrun, hafter, hnext, hleft⟩ :=
      hsettling.step sim hcleared hnow hlater hthere
    refine ⟨outcome, after, left, [], hrun, ?_, hleft, ?_⟩
    · rw [hafter]
      exact .settling _ _ _ hnext
    · rw [filter_asked_pass config sim tables now spec hsettling.state_ne_unprovisioned]
      rfl

/-- At the last stage of a repair the object is provisioned, and nothing is left to write. -/
theorem Mending.provisioned {status : LifecycleStatus} {entry : Option (kind.Snapshot × Phase)}
    {owed : List Call}
    (h : Mending config sim times kind resource change status entry 0 owed) :
    ∃ since,
      status = ⟨.provisioned, since, Adapter.attributes kind (changed kind resource change)⟩ ∧
      entry = some (changed kind resource change, .settled) ∧ owed = [] := by
  cases h with
  | settling _ _ _ hsettling =>
    cases hsettling with
    | provisioned since => exact ⟨since, rfl, rfl, rfl⟩

end Lifecycle

/-! ## Runs in which the object and its resource are left alone -/

namespace Site

open Lifecycle

variable {φ : Type} (system : FileSystem φ) {key : Key}

/-- At a store in memory and next to a simulator without an error to come, the object under a key
stands for the resource of a spec; its status and what the simulator has of the resource are of
some sort. -/
def Holds (key : Key) (kind : ResourceKind) (spec : kind.Spec)
    (sort : LifecycleStatus → Option (kind.Snapshot × Phase) → Prop) (site : Site φ State) :
    Prop :=
  ∃ store tables object status, site.store = .memory store ∧ site.memory = .calm tables ∧
    store.table.get? key = some object ∧ object.manifest = .resource kind spec ∧
    object.status = .lifecycle status ∧
    sort status (tables.find? kind (kind.identifier spec))

/-- An event that leaves the object under a key and a resource at the simulator as they are, and
does not inject an error. -/
def Leaves (config : EngineConfig) (sim : SimulatorConfig) (key : Key) (target : Target)
    (event : Event State) (site : Site φ State) : Prop :=
  let after := site.turn system (provider sim) config event.turn
  after.table.get? key = site.table.get? key ∧
    after.memory.tables.find? target.1 target.2 = site.memory.tables.find? target.1 target.2 ∧
    after.memory.pending = site.memory.pending

/-- A run in which the object under a key and a resource at the simulator are left as they are by
all but the passes over the key. -/
def Undisturbed (config : EngineConfig) (sim : SimulatorConfig) (key : Key) (target : Target) :
    List (Event State) → Site φ State → Prop
  | [], _ => True
  | event :: rest, site =>
    (event.passOver? key = none → site.Leaves system config sim key target event) ∧
      Undisturbed config sim key target rest
        (site.turn system (provider sim) config event.turn)

variable {system}

/-- An event that leaves the object alone keeps the sort of its status and of its resource. -/
theorem Holds.of_leaves {sort : LifecycleStatus → Option (kind.Snapshot × Phase) → Prop}
    {site : Site φ State} (h : site.Holds key kind spec sort) {event : Event State}
    (hleaves : site.Leaves system config sim key (kind, kind.identifier spec) event) :
    (site.turn system (provider sim) config event.turn).Holds key kind spec sort := by
  obtain ⟨store, tables, object, status, hstore, hmemory, hobject, hmanifest, hstatus, hsort⟩ :=
    h
  obtain ⟨hsame, hresource, hpending⟩ := hleaves
  obtain ⟨after, hafter⟩ := turn_memory system (provider sim) config hstore event
  rw [hmemory] at hresource hpending
  refine ⟨after, (site.turn system (provider sim) config event.turn).memory.tables, object, status,
    hafter, ?_, ?_, hmanifest, hstatus, ?_⟩
  · exact congrArg (State.mk _) hpending
  · rw [table, table, hafter, hstore] at hsame
    exact hsame.trans hobject
  · rw [hresource]
    exact hsort

/-- A pass leaves a site with the status that its engine came to. -/
theorem holds_pass (system : FileSystem φ) {site : Site φ State} {store : MemoryStore}
    (hstore : site.store = .memory store) (hmemory : site.memory = .calm tables)
    {object : Declaration}
    (hobject : store.table.get? key = some object) (hkey : key.kind.isLifecycle = true)
    (hmanifest : object.manifest = .resource kind spec) {status : LifecycleStatus}
    (hstatus : object.status = .lifecycle status) {outcome : Outcome LifecycleStatus}
    {current : Tables}
    (hrun : (Lifecycle.pass kind spec config status now).run (provider sim) (.calm tables) =
      (.ok outcome, .calm current))
    {sort : LifecycleStatus → Option (kind.Snapshot × Phase) → Prop}
    (hsort : sort outcome.status (current.find? kind (kind.identifier spec))) :
    (site.pass system (provider sim) config now key).2.Holds key kind spec sort := by
  rw [← hmemory] at hrun
  obtain ⟨after, object', hpass, -, hobject', hmanifest', hstatus', -⟩ :=
    site.pass_resource system (provider sim) config now hstore hobject hkey hmanifest hstatus hrun
  rw [hpass]
  refine ⟨after, current, object', outcome.status, rfl, rfl, hobject', ?_, hstatus', hsort⟩
  rw [hmanifest', hmanifest]

/-- What a pass writes at a calm provider are the writes that the engine of its object asks for. -/
theorem writesOf_calm (system : FileSystem φ) (now : Int64) {site : Site φ State}
    {store : MemoryStore} (hstore : site.store = .memory store)
    (hmemory : site.memory = .calm tables) {object : Declaration}
    (hobject : store.table.get? key = some object)
    (hmanifest : object.manifest = .resource kind spec) {status : LifecycleStatus}
    (hstatus : object.status = .lifecycle status) :
    site.writesOf system (provider sim) config now key =
      ((Lifecycle.pass kind spec config status now).asked (provider sim) (.calm tables)).filter
        (·.isWrite) := by
  have htable : site.table.get? key = some object := by rw [table, hstore]; exact hobject
  rw [writesOf_resource system (provider sim) config now htable hmanifest hstatus, hmemory]

/-- A run takes a repair as many steps further as it has passes over the object, and the passes
write what was still to come. -/
theorem mending_turns (hlive : sim.dryRun = false)
    (hchange : Adapter.change? kind resource spec = some change)
    (hdrift : Drift.of kind resource spec ≠ [])
    (hcleared : Drift.of kind (changed kind resource change) spec = [])
    (hkey : key.kind.isLifecycle = true) (events : List (Event State)) {site : Site φ State}
    (hundisturbed : site.Undisturbed system config sim key (kind, kind.identifier spec) events)
    (hclock : ∀ now ∈ passTimes key events, 1 ≤ now.toInt)
    (hspaced : (passTimes key events).Pairwise fun earlier later =>
      earlier.toInt + 1000 * (config.stabilizationSecs.toNat : Int) ≤ later.toInt)
    {rounds : Nat} {owed : List Call}
    (h : site.Holds key kind spec fun status entry =>
      Mending config sim (passTimes key events) kind resource change status entry rounds owed) :
    ∃ left due,
      ((site.turns system (provider sim) config events).Holds key kind spec fun status entry =>
        Mending config sim [] kind resource change status entry left due) ∧
      left ≤ rounds - (passTimes key events).length ∧
      site.writes system (provider sim) config key events ++ due = owed := by
  induction events generalizing site rounds owed with
  | nil => exact ⟨rounds, owed, h, Nat.le_refl _, rfl⟩
  | cons event rest ih =>
    obtain ⟨hleaves, hrest⟩ := hundisturbed
    cases hpass : event.passOver? key with
    | none =>
      rw [passTimes_cons_of_none hpass] at hclock hspaced h ⊢
      rw [turns_cons, writes_cons_of_none system (provider sim) config hpass]
      exact ih hrest hclock hspaced (h.of_leaves (hleaves hpass))
    | some now =>
      rw [passTimes_cons_of_some hpass] at hclock hspaced h ⊢
      obtain rfl := Event.eq_pass_of_passOver? hpass
      obtain ⟨hgaps, hspacedRest⟩ := List.pairwise_cons.mp hspaced
      have hdue : Due config (passTimes key rest) (max now 1) := by
        intro next hnext
        have hgap := hgaps next hnext
        have hpos := hclock now List.mem_cons_self
        -- a stamp is at least one, and so is the clock, so the gap counts from the stamp as well
        rw [Readiness.toInt_stamp]
        omega
      obtain ⟨store, tables, object, status, hstore, hmemory, hobject, hmanifest, hstatus,
        hmending⟩ := h
      obtain ⟨outcome, current, left, due, hrun, hnext, hleft, howed⟩ :=
        hmending.step hlive hchange hdrift hcleared List.mem_cons_self hdue
      have hholds : (site.pass system (provider sim) config now key).2.Holds key kind spec
          fun status entry =>
            Mending config sim (passTimes key rest) kind resource change status entry left due :=
        holds_pass system hstore hmemory hobject hkey hmanifest hstatus hrun hnext
      obtain ⟨last, lastDue, hlast, hbound, hwrites⟩ := ih hrest
        (fun time htime => hclock time (List.mem_cons_of_mem _ htime)) hspacedRest hholds
      refine ⟨last, lastDue, hlast, ?_, ?_⟩
      · rw [List.length_cons]
        omega
      · rw [writes_cons_pass, writesOf_calm system now hstore hmemory hobject hmanifest hstatus,
          List.append_assoc, hwrites, howed]

/-- The object under a key is provisioned since some time with a settled resource. -/
def Provisioned (key : Key) (kind : ResourceKind) (spec : kind.Spec) (resource : kind.Snapshot)
    (since : Int64) : Site φ State → Prop :=
  Holds key kind spec fun status entry =>
    status = ⟨.provisioned, since, Adapter.attributes kind resource⟩ ∧
      entry = some (resource, .settled)

/-- A provisioned object without drift stays as it is in a run, and its passes write nothing. -/
theorem provisioned_turns (hdrift : Drift.of kind resource spec = [])
    (hkey : key.kind.isLifecycle = true) {since : Int64} (events : List (Event State))
    {site : Site φ State}
    (hundisturbed : site.Undisturbed system config sim key (kind, kind.identifier spec) events)
    (h : site.Provisioned key kind spec resource since) :
    (site.turns system (provider sim) config events).Provisioned key kind spec resource since ∧
      site.writes system (provider sim) config key events = [] := by
  induction events generalizing site with
  | nil => exact ⟨h, rfl⟩
  | cons event rest ih =>
    obtain ⟨hleaves, hrest⟩ := hundisturbed
    cases hpass : event.passOver? key with
    | none =>
      rw [turns_cons, writes_cons_of_none system (provider sim) config hpass]
      exact ih hrest (h.of_leaves (hleaves hpass))
    | some now =>
      obtain rfl := Event.eq_pass_of_passOver? hpass
      obtain ⟨store, tables, object, status, hstore, hmemory, hobject, hmanifest, hstatus,
        rfl, hthere⟩ := h
      obtain ⟨current, hrun, hcurrent⟩ := run_verified config now sim hdrift since hthere
      have hlooks : (⟨.provisioned, since, Adapter.attributes kind resource⟩ :
        LifecycleStatus).state ≠ .unprovisioned := by simp
      obtain ⟨hlast, hwrites⟩ := ih hrest
        (holds_pass system hstore hmemory hobject hkey hmanifest hstatus hrun ⟨rfl, hcurrent⟩)
      refine ⟨hlast, ?_⟩
      rw [writes_cons_pass, hwrites,
        writesOf_calm system now hstore hmemory hobject hmanifest hstatus,
        filter_asked_pass config sim tables now spec hlooks]
      rfl

/-- Drift of a provisioned object in fields that can be changed is repaired. The passes over the
object write once: they ask for the change of the update, which clears the drift. After three passes
and as many more as a changed resource takes looks the object is provisioned, and from then on it
stays as it is and its passes write nothing, whatever their times. -/
theorem drift_is_repaired (system : FileSystem φ) (config : EngineConfig) (sim : SimulatorConfig)
    (hlive : sim.dryRun = false) (hkey : key.kind.isLifecycle = true) {site : Site φ State}
    (hsite : site.Holds key kind spec fun status entry =>
      status.state = .provisioned ∧ entry = some (resource, .settled))
    (hdrift : Drift.of kind resource spec ≠ [])
    (hfree : ∀ mismatch ∈ Drift.of kind resource spec, mismatch.isFixed kind = false)
    (hunambiguous : Unambiguous kind spec) (events : List (Event State))
    (hundisturbed : site.Undisturbed system config sim key (kind, kind.identifier spec) events)
    (hclock : ∀ now ∈ passTimes key events, 1 ≤ now.toInt)
    (hspaced : (passTimes key events).Pairwise fun earlier later =>
      earlier.toInt + 1000 * (config.stabilizationSecs.toNat : Int) ≤ later.toInt)
    (hlong : 3 + max 1 sim.readyAfter.toNat ≤ (passTimes key events).length) :
    let repaired := site.turns system (provider sim) config events
    ∃ change since,
      Adapter.change? kind resource spec = some change ∧
      site.writes system (provider sim) config key events = [.modify kind change] ∧
      Drift.of kind (changed kind resource change) spec = [] ∧
      repaired.Provisioned key kind spec (changed kind resource change) since ∧
      ∀ later, repaired.Undisturbed system config sim key (kind, kind.identifier spec) later →
        (repaired.turns system (provider sim) config later).Provisioned key kind spec
            (changed kind resource change) since ∧
          repaired.writes system (provider sim) config key later = [] := by
  obtain ⟨change, hchange, hcleared⟩ := exists_change?_of_drift hunambiguous hdrift hfree
  have hstart : site.Holds key kind spec fun status entry =>
      Mending config sim (passTimes key events) kind resource change status entry
        (max 1 sim.readyAfter.toNat + 3) [.modify kind change] := by
    obtain ⟨store, tables, object, status, hstore, hmemory, hobject, hmanifest, hstatus, hstate,
      hthere⟩ := hsite
    refine ⟨store, tables, object, status, hstore, hmemory, hobject, hmanifest, hstatus, ?_⟩
    rw [hthere]
    exact .drifted status hstate
  obtain ⟨left, due, hlast, hleft, hwrites⟩ :=
    mending_turns hlive hchange hdrift hcleared hkey events hundisturbed hclock hspaced hstart
  obtain rfl : left = 0 := by omega
  obtain ⟨store, tables, object, status, hstore, hmemory, hobject, hmanifest, hstatus,
    hmending⟩ := hlast
  obtain ⟨since, hstatus', hthere, rfl⟩ := hmending.provisioned
  have hprovisioned : (site.turns system (provider sim) config events).Provisioned key kind spec
      (changed kind resource change) since :=
    ⟨store, tables, object, status, hstore, hmemory, hobject, hmanifest, hstatus, hstatus', hthere⟩
  rw [List.append_nil] at hwrites
  exact ⟨change, since, hchange, hwrites, hcleared, hprovisioned, fun later hlater =>
    provisioned_turns hcleared hkey later hlater hprovisioned⟩

/-! ### An upgrade -/

def upgradedKey : Key := ⟨.resource .cluster, "db1"⟩

/-- A cluster of an older version than its spec wants, and in one security group of two. -/
def outdated : ClusterSnapshot :=
  ⟨"db1", available, "aurora-postgresql", "15.4", "admin", ["sg-1"], none, none, none, none⟩

def upgradeSpec : ClusterSpec :=
  ⟨"db1", "aurora-postgresql", some "16.1", "admin", "hunter22", ["sg-2", "sg-1"], none, none⟩

def outdatedSite : Site Disk State :=
  inMemory
    ⟨.ofList [⟨upgradedKey, 4, .resource .cluster upgradeSpec,
      .lifecycle ⟨.provisioned, 1, .empty⟩⟩], []⟩
    (.calm (Tables.empty.putCluster "db1" outdated .settled))

/-- Five passes two minutes apart, between which a subnet group is declared and another one is
created by hand. -/
def upgrading : List (Event State) :=
  [.pass 1 upgradedKey,
   .client (.apply "private" (.resource .subnetGroup
     ⟨"private", "two", ["subnet-a", "subnet-b"]⟩)),
   .pass 120001 upgradedKey,
   .elsewhere fun state => (provider ⟨2, 2, false⟩
     (.create .subnetGroup ⟨"public", "two", ["subnet-a", "subnet-b"]⟩) state).2,
   .pass 240001 upgradedKey,
   .pass 360001 upgradedKey,
   .pass 480001 upgradedKey]

/-- An outdated cluster is modified once, and at the end of the run it is provisioned at its
declared version. -/
theorem drift_is_repaired_upgrading :
    ∃ since,
      outdatedSite.writes Disk.system (provider ⟨2, 2, false⟩) .default upgradedKey upgrading =
        [.modify .cluster ⟨"db1", some "16.1", some ["sg-2", "sg-1"], none⟩] ∧
      (outdatedSite.turns Disk.system (provider ⟨2, 2, false⟩) .default upgrading).Provisioned
        upgradedKey .cluster upgradeSpec
        { outdated with engineVersion := "16.1", securityGroups := ["sg-2", "sg-1"] } since := by
  have hsite : outdatedSite.Holds upgradedKey .cluster upgradeSpec fun status entry =>
      status.state = .provisioned ∧ entry = some (outdated, .settled) :=
    ⟨_, _, _, _, rfl, rfl, rfl, rfl, rfl, rfl, rfl⟩
  have hundisturbed : outdatedSite.Undisturbed Disk.system .default ⟨2, 2, false⟩ upgradedKey
      (.cluster, "db1") upgrading :=
    ⟨nofun, fun _ => ⟨rfl, rfl, rfl⟩, nofun, fun _ => ⟨rfl, rfl, rfl⟩, nofun, nofun, nofun,
      trivial⟩
  have htimes : passTimes upgradedKey upgrading = [1, 120001, 240001, 360001, 480001] := rfl
  have hclock : ∀ now ∈ passTimes upgradedKey upgrading, 1 ≤ now.toInt := by
    have hall : (passTimes upgradedKey upgrading).all (fun now => 1 ≤ now.toInt) = true := rfl
    intro now hnow
    exact of_decide_eq_true (List.all_eq_true.mp hall now hnow)
  obtain ⟨change, since, hchange, hwrites, -, hprovisioned, -⟩ :=
    drift_is_repaired Disk.system .default ⟨2, 2, false⟩ rfl rfl hsite (by decide) (by decide)
      trivial upgrading hundisturbed hclock (by rw [htimes]; decide) (by rw [htimes]; decide)
  have hsent : some change = some ⟨"db1", some "16.1", some ["sg-2", "sg-1"], none⟩ :=
    hchange.symm.trans rfl
  obtain rfl := Option.some.inj hsent
  exact ⟨since, hwrites, hprovisioned⟩

end Site

end Reconciler
