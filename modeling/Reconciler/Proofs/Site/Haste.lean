import Mathlib.Data.List.Chain
import Reconciler.Proofs.Dispatch.Patience
import Reconciler.Proofs.Site
import Reconciler.Proofs.Site.Deletion
import Reconciler.Proofs.Site.Resource
import Reconciler.Proofs.Site.Run

/-!
# Passes in haste

A pass is hasty when it asks for the next one at once. When no delay of the settings is zero, a
hasty pass has stored a new status that asks for no delay. Either it only refreshed what is
published about a provisioned resource, or it took its object closer to a state in which there is
something to wait for (`refreshes_or_patience_lt`). A spec that is applied again keeps the status,
so hasty passes of the second sort soon come to an end (`refreshes_of_three_hasty`).
-/

set_option autoImplicit false

namespace Reconciler

/-! ## A hasty pass -/

/-- A status offered against the version of its object is committed under the next version, unless
it does not fit the key. -/
theorem Table.updateStatus_of_get? {table : Table} {key : Key} {object : Declaration}
    (hobject : table.get? key = some object) (status : Status) :
    (∃ message,
      table.updateStatus key object.version status = .error (.invalidInput message)) ∨
    ∃ after, table.updateStatus key object.version status = .ok (object.version + 1, after) ∧
      after.get? key = some { object with status, version := object.version + 1 } := by
  have hthere : table.objects[key]? = some object := hobject
  cases hfits : status.fits key.kind with
  | false => exact .inl ⟨_, by simp [updateStatus, hthere, hfits]; rfl⟩
  | true =>
    refine .inr ⟨_, by simp [updateStatus, hthere, hfits]; rfl, ?_⟩
    simp [get?]

namespace Site

variable {φ μ : Type} {system : FileSystem φ} {provider : Provider μ} {config : EngineConfig}
  {site after : Site φ μ} {store : MemoryStore} {key : Key} {object : Declaration}
  {report : Dispatch.Report}

/-- A pass that asks for the next one at once. -/
def Hasty (report : Dispatch.Report) : Prop := report.next = .ok (some .zero)

/-- A pass that succeeded is hasty only when its object is not completed and nothing delays the next
one. -/
theorem hasty_succeeded {outcome : Outcome Status} {changed : Bool}
    (h : Hasty (Dispatch.succeeded config key outcome changed)) :
    outcome.status ≠ .deletion .completed ∧
      outcome.delay.getD (if changed then .zero else config.resync) = .zero := by
  simp only [Hasty, Dispatch.succeeded, Except.ok.injEq] at h
  split at h
  · cases h
  · next hstatus => exact ⟨hstatus, Option.some.inj h⟩

/-- A pass that stores the status it came to asks for the next pass at once unless the outcome has
a delay, and one that finds nothing to store leaves the next one for later. -/
theorem run_conclude_cases (hstore : site.store = .memory store)
    (hobject : store.table.get? key = some object) (outcome : Outcome Status)
    (hrun : (Dispatch.conclude config key object (.ok (.ok outcome))).run (serve system provider)
      site = (report, after)) :
    report = Dispatch.succeeded config key outcome false ∨
    (∃ error, report.next = .error error) ∨
    report = Dispatch.succeeded config key outcome true ∧
      after.table.get? key =
        some { object with status := outcome.status, version := object.version + 1 } := by
  simp only [Dispatch.conclude, Dispatch.commit] at hrun
  split at hrun
  · cases hrun
    exact .inl rfl
  · rw [Script.run_ask, serve_commit_memory system provider hstore] at hrun
    rcases Table.updateStatus_of_get? hobject outcome.status with
      ⟨message, hrefused⟩ | ⟨table, haccepted, hget⟩
    · simp only [MemoryStore.updateStatus, hrefused] at hrun
      cases hrun
      exact .inr (.inl ⟨_, rfl⟩)
    · simp only [MemoryStore.updateStatus, haccepted] at hrun
      cases hrun
      exact .inr (.inr ⟨rfl, hget⟩)

/-- A hasty pass has stored another status under the next version, and its engine asked for no
delay. -/
theorem stored_of_hasty (hdelays : config.HasDelays) (hstore : site.store = .memory store)
    (hobject : store.table.get? key = some object)
    {result : Except Failure (Outcome Status)} (hpaced : Pass.Paced config result)
    (hrun : (Dispatch.conclude config key object (.ok result)).run (serve system provider) site =
      (report, after)) (hhasty : Hasty report) :
    ∃ status, result = .ok (.settle status) ∧ status ≠ .deletion .completed ∧
      after.table.get? key = some { object with status, version := object.version + 1 } := by
  cases hpaced with
  | failed cause =>
    cases hrun
    simp only [Hasty, Except.ok.injEq, Option.some.injEq] at hhasty
    exact absurd hhasty (hdelays.fail_ne_zero cause)
  | polls status =>
    rcases run_conclude_cases hstore hobject _ hrun with rfl | ⟨error, herror⟩ | ⟨rfl, -⟩
    · exact absurd (hasty_succeeded hhasty).2 hdelays.poll_ne_zero
    · cases hhasty.symm.trans herror
    · exact absurd (hasty_succeeded hhasty).2 hdelays.poll_ne_zero
  | settled status =>
    rcases run_conclude_cases hstore hobject _ hrun with rfl | ⟨error, herror⟩ | ⟨rfl, hget⟩
    · exact absurd (hasty_succeeded hhasty).2 hdelays.resync_ne_zero
    · cases hhasty.symm.trans herror
    · exact ⟨status, rfl, (hasty_succeeded hhasty).1, hget⟩

/-! ## The object of a hasty pass -/

/-- What can be the status of an object when its engine asks for no delay. -/
inductive Follows (object : Declaration) : Status → Prop where
  | completed : Follows object (.deletion .completed)
  | refreshed {kind : ResourceKind} {spec : kind.Spec} {before : LifecycleStatus}
      (hmanifest : object.manifest = .resource kind spec)
      (hstatus : object.status = .lifecycle before) (hstate : before.state = .provisioned)
      (resolved : Attributes) : Follows object (.lifecycle { before with resolved })
  | moved {status : Status} (h : status.patience < object.status.patience) : Follows object status

/-- The engine of an object fails for its store, or comes to a result with one of the delays of
the settings while it leaves the store alone. -/
theorem engine_cases (system : FileSystem φ) (provider : Provider μ) (config : EngineConfig)
    (now : Int64) (object : Declaration) (site : Site φ μ) :
    (∃ error, (Dispatch.engine config now object).run (serve system provider) site =
      (.error error, site)) ∨
    ∃ result memory, (Dispatch.engine config now object).run (serve system provider) site =
        (.ok result, { site with memory }) ∧
      Pass.Paced config result ∧
      ∀ status, result = .ok (.settle status) → Follows object status := by
  obtain ⟨key, version, manifest, status⟩ := object
  cases manifest with
  | resource kind spec =>
    cases status with
    | deletion state => exact .inl ⟨_, rfl⟩
    | lifecycle before =>
      let visit : Lifecycle.Visit kind μ := ⟨spec, now, provider, site.memory⟩
      refine .inr ⟨_, _, run_engine_resource system provider config now site rfl rfl rfl,
        (visit.paced_result config before).map Status.lifecycle, fun status hresult => ?_⟩
      obtain ⟨after, hafter, rfl⟩ := Outcome.exists_of_map_settle hresult
      rcases visit.settled_cases hafter with ⟨hstate, resolved, rfl⟩ | hless
      · exact .refreshed rfl rfl hstate resolved
      · exact .moved hless
  | deletion spec =>
    cases status with
    | lifecycle before => exact .inl ⟨_, rfl⟩
    | deletion before =>
      have hmove := Deletion.move_pass config spec site.table.toList provider site.memory before
      refine .inr ⟨_, _, run_engine_deletion system provider config now site rfl rfl rfl,
        hmove.paced.map Status.deletion, fun status hresult => ?_⟩
      obtain ⟨after, hafter, rfl⟩ := Outcome.exists_of_map_settle hresult
      rw [hafter] at hmove
      rcases hmove.settled_cases with rfl | hless
      · exact .completed
      · exact .moved hless

/-- A pass over a provisioned object that stays as it is but for what is published about it. -/
def Refreshes (key : Key) (site after : Site φ μ) : Prop :=
  ∃ object kind spec status resolved, site.table.get? key = some object ∧
    object.manifest = .resource kind spec ∧ object.status = .lifecycle status ∧
    status.state = .provisioned ∧
    after.table.get? key = some { object with
      status := .lifecycle { status with resolved }
      version := object.version + 1 }

/-- The patience of the object under a key, or of one that is yet to be declared. -/
def patience (key : Key) (site : Site φ μ) : Nat :=
  ((site.table.get? key).map (·.status.patience)).getD 2

/-- The patience of an object is that of its status. -/
theorem patience_of_get? (hobject : site.table.get? key = some object) :
    site.patience key = object.status.patience := by
  rw [patience, hobject]
  rfl

/-- Two is as much patience as there is. -/
theorem patience_le (key : Key) (site : Site φ μ) : site.patience key ≤ 2 := by
  unfold patience
  cases site.table.get? key with
  | none => exact Nat.le_refl 2
  | some object => exact Status.patience_le _

/-- A hasty pass refreshes its object or leaves it with less patience. -/
theorem refreshes_or_patience_lt (hdelays : config.HasDelays) {now : Int64}
    (hstore : site.store = .memory store)
    (hrun : site.pass system provider config now key = (report, after)) (hhasty : Hasty report) :
    Refreshes key site after ∨ after.patience key < site.patience key := by
  have htable : site.table = store.table := by rw [table, hstore]; rfl
  cases hobject : site.table.get? key with
  | none =>
    rw [pass, Dispatch.pass, Script.run_ask, serve_get, hobject] at hrun
    cases hrun
    cases hhasty
  | some object =>
    rw [pass_of_get? system provider config now hobject] at hrun
    rcases engine_cases system provider config now object site with
      ⟨error, hengine⟩ | ⟨result, memory, hengine, hpaced, hfollows⟩
    · rw [hengine] at hrun
      cases hrun
      cases hhasty
    · rw [hengine] at hrun
      have hcalled : ({ site with memory } : Site φ μ).store = .memory store := hstore
      obtain ⟨status, hresult, hincomplete, hget⟩ :=
        stored_of_hasty hdelays hcalled (htable ▸ hobject) hpaced hrun hhasty
      cases hfollows status hresult with
      | completed => exact absurd rfl hincomplete
      | refreshed hmanifest hstatus hstate resolved =>
        exact .inl ⟨object, _, _, _, resolved, hobject, hmanifest, hstatus, hstate, hget⟩
      | moved h =>
        rw [patience_of_get? hobject, patience_of_get? hget]
        exact .inr h

/-! ## Passes in a row -/

/-- A pass over a key as it took place. -/
structure Passage (φ μ : Type) where
  before : Site φ μ
  report : Dispatch.Report
  after : Site φ μ

/-- The passes over a key in a run of events, in order. -/
def passages (system : FileSystem φ) (provider : Provider μ) (config : EngineConfig) (key : Key) :
    List (Event μ) → Site φ μ → List (Passage φ μ)
  | [], _ => []
  | event :: rest, site =>
    let later := site.turn system provider config event.turn
    match event.passOver? key with
    | some now =>
      ⟨site, (site.pass system provider config now key).1, later⟩ ::
        passages system provider config key rest later
    | none => passages system provider config key rest later

/-- A passage is a pass at a store in memory. -/
def Passage.Genuine (system : FileSystem φ) (provider : Provider μ) (config : EngineConfig)
    (key : Key) (passage : Passage φ μ) : Prop :=
  ∃ store now, passage.before.store = .memory store ∧
    passage.before.pass system provider config now key = (passage.report, passage.after)

/-- The passages of a run over a store in memory are passes at such a store. -/
theorem genuine_of_mem_passages (hstore : site.store = .memory store) {events : List (Event μ)}
    {passage : Passage φ μ} (h : passage ∈ passages system provider config key events site) :
    passage.Genuine system provider config key := by
  induction events generalizing site store with
  | nil => cases h
  | cons event rest ih =>
    obtain ⟨next, hnext⟩ := turn_memory system provider config hstore event
    rw [passages] at h
    split at h
    · next now hpass =>
      rcases List.mem_cons.mp h with rfl | hrest
      · obtain rfl := Event.eq_pass_of_passOver? hpass
        exact ⟨store, now, hstore, rfl⟩
      · exact ih hnext hrest
    · exact ih hnext h

/-- Nothing but a pass over an object or its removal can make it more patient. -/
theorem patience_turn_le (hstore : site.store = .memory store) {event : Event μ}
    (hpass : event.passOver? key = none) (hkept : event ≠ .client (.delete key)) :
    (site.turn system provider config event.turn).patience key ≤ site.patience key := by
  have hstep := step_turn system provider config hstore key event
  unfold patience
  generalize site.table.get? key = before at hstep
  generalize (site.turn system provider config event.turn).table.get? key = after at hstep
  cases hstep with
  | passed now => simp [Event.passOver?] at hpass
  | declared manifest => exact Status.patience_le _
  | replaced | kept => exact Nat.le_refl _
  | removed => exact absurd rfl hkept

/-- From one pass over an object to the next the object does not gain patience. -/
theorem isChain_passages (hstore : site.store = .memory store) {events : List (Event μ)}
    (hkept : .client (.delete key) ∉ events) :
    (∀ first ∈ (passages system provider config key events site).head?,
      first.before.patience key ≤ site.patience key) ∧
    (passages system provider config key events site).IsChain fun earlier later =>
      later.before.patience key ≤ earlier.after.patience key := by
  induction events generalizing site store with
  | nil => exact ⟨(by rintro _ ⟨⟩), .nil⟩
  | cons event rest ih =>
    obtain ⟨next, hnext⟩ := turn_memory system provider config hstore event
    obtain ⟨hhead, hchain⟩ := ih hnext fun h => hkept (List.mem_cons_of_mem _ h)
    rw [passages]
    split
    · refine ⟨?_, hchain.cons hhead⟩
      rintro first ⟨⟩
      exact Nat.le_refl _
    · next hpass =>
      refine ⟨fun first hfirst => (hhead first hfirst).trans ?_, hchain⟩
      exact patience_turn_le hstore hpass fun h => hkept (h ▸ List.mem_cons_self)

/-- Passes never loop without a pause. Whatever the provider does, and however often the object is
applied again between its passes, of three passes in a row that each ask for the next one at once,
one is over a provisioned object and only refreshes what is published about it. -/
theorem refreshes_of_three_hasty (hdelays : config.HasDelays)
    (hstore : site.store = .memory store) {events : List (Event μ)}
    (hkept : .client (.delete key) ∉ events) {first second third : Passage φ μ}
    (hrow : [first, second, third] <:+: passages system provider config key events site)
    (hhasty : ∀ passage ∈ [first, second, third], Hasty passage.report) :
    ∃ passage ∈ [first, second, third], Refreshes key passage.before passage.after := by
  have hstep : ∀ passage ∈ [first, second, third],
      Refreshes key passage.before passage.after ∨
        passage.after.patience key < passage.before.patience key := by
    intro passage hpassage
    obtain ⟨_, now, hmemory, hrun⟩ := genuine_of_mem_passages hstore (hrow.subset hpassage)
    exact refreshes_or_patience_lt hdelays hmemory hrun (hhasty passage hpassage)
  have hchain := List.IsChain.infix (isChain_passages hstore hkept).2 hrow
  rw [List.isChain_cons_cons, List.isChain_cons_cons] at hchain
  obtain ⟨hsecond, hthird, -⟩ := hchain
  have hbound := patience_le key first.before
  -- the patience of the object cannot fall three times from two at most
  rcases hstep first (by simp) with hrefreshes | hfirstFalls
  · exact ⟨first, by simp, hrefreshes⟩
  rcases hstep second (by simp) with hrefreshes | hsecondFalls
  · exact ⟨second, by simp, hrefreshes⟩
  rcases hstep third (by simp) with hrefreshes | hthirdFalls
  · exact ⟨third, by simp, hrefreshes⟩
  omega

def groupSpec (description : String) : SubnetGroupSpec :=
  ⟨"private", description, ["subnet-a", "subnet-b"]⟩

def groupKey : Key := ⟨.resource .subnetGroup, "private"⟩

/-- A provisioned subnet group that is there and of which nothing has been published. -/
def unpublishedSite : Site Disk Simulator.State :=
  inMemory
    ⟨.ofList [⟨groupKey, 4, .resource .subnetGroup (groupSpec "first"),
      .lifecycle ⟨.provisioned, 1, .empty⟩⟩], []⟩
    ⟨(Simulator.createSubnetGroup .default .empty (groupSpec "first").creation).2, none⟩

/-- The group is applied again with another description after the first pass. -/
def redescribing : List (Event Simulator.State) :=
  [.pass 5 groupKey,
   .client (.apply "private" (.resource .subnetGroup (groupSpec "second"))),
   .pass 6 groupKey,
   .pass 7 groupKey]

/-- Each of the three passes over the group asks for the next one at once. -/
theorem hasty_redescribing : (passages Disk.system (Simulator.provider .default) .default groupKey
    redescribing unpublishedSite).map (·.report.next) =
      [.ok (some .zero), .ok (some .zero), .ok (some .zero)] := rfl

/-- Of the three hasty passes the first one publishes the name of the group. -/
theorem refreshes_of_three_hasty_redescribing :
    ∃ passage ∈ passages Disk.system (Simulator.provider .default) .default groupKey redescribing
      unpublishedSite, Refreshes groupKey passage.before passage.after := by
  have hdelays : EngineConfig.default.HasDelays := ⟨by decide, by decide, by decide, by decide⟩
  have hkept : Event.client (.delete groupKey) ∉ redescribing := by simp [redescribing]
  obtain ⟨first, second, third, hthree⟩ := List.length_eq_three.mp
    (rfl : (passages Disk.system (Simulator.provider .default) .default groupKey redescribing
      unpublishedSite).length = 3)
  have hhasty : ∀ passage ∈ [first, second, third], Hasty passage.report := by
    intro passage hpassage
    have hnext : passage.report.next ∈ (passages Disk.system (Simulator.provider .default) .default
        groupKey redescribing unpublishedSite).map (·.report.next) :=
      List.mem_map.mpr ⟨passage, hthree ▸ hpassage, rfl⟩
    rw [hasty_redescribing] at hnext
    simpa [Hasty] using hnext
  have hrow : [first, second, third] <:+: passages Disk.system (Simulator.provider .default)
      .default groupKey redescribing unpublishedSite := hthree ▸ List.infix_refl _
  have hstore : unpublishedSite.store = .memory _ := rfl
  rw [hthree]
  exact refreshes_of_three_hasty hdelays hstore hkept hrow hhasty

end Site

end Reconciler
