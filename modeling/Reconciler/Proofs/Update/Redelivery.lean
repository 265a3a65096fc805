import Reconciler.Proofs.Convergence.Stage
import Reconciler.Proofs.Update.Idle
import Reconciler.Proofs.Update.Parameters

/-!
# Passes that are delivered again

A pass that was carried out at the provider may be lost before its status is stored, and is then
made again from the old status. This does no harm. Whatever the first pass created or changed is
up to date in the eyes of its own adapter (`UpToDate`), in whichever phase it is, and a pass over
an object whose resource is up to date makes one look and writes nothing.
-/

set_option autoImplicit false

namespace Reconciler

open Adapter

/-! ## What there is nothing to ask for -/

namespace Simulator

variable {kind : ResourceKind} {spec : kind.Spec}

/-- The empty name is not set where the actual value is the declared one. -/
theorem blank_self (desired : Option String) : blank desired desired = none :=
  if_neg fun ⟨hsome, hnone⟩ => by simp [hsome] at hnone

/-- A resource that was built from an unambiguous spec has no drift. -/
theorem drift_built_of_unambiguous (h : Unambiguous kind spec) :
    Drift.of kind (built kind spec) spec = [] := by
  cases kind with
  | subnetGroup =>
    simp only [Drift.of, Drift.ofSubnetGroup, built, bare, Drift.compare_self,
      Drift.compareMembers_self, List.append_nil]
  | cluster | dbInstance | parameterGroup | clusterParameterGroup => exact drift_built h

/-- What was built of a spec needs no update. -/
theorem change?_built (h : Unambiguous kind spec) :
    Adapter.change? kind (built kind spec) spec = none := by
  rw [change?_of_no_drift (drift_built_of_unambiguous h)]
  cases kind with
  | cluster => exact congrArg (Option.map _) (blank_self spec.parameterGroup)
  | dbInstance => exact congrArg (Option.map _) (blank_self spec.parameterGroup)
  | parameterGroup | clusterParameterGroup | subnetGroup => rfl

/-- What was changed by an update needs no other one. -/
theorem change?_changed (h : Unambiguous kind spec) {existing : kind.Snapshot}
    {change : kind.Change} (hname : carried kind existing = kind.identifier spec)
    (hchange : Adapter.change? kind existing spec = some change) :
    Adapter.change? kind (changed kind existing change) spec = none := by
  rw [← updated_of_some hchange]
  cases hkind : createdBare kind with
  | false => exact change?_updated_of_not_createdBare hkind hname
  | true => exact (change?_updated_iff hkind existing spec).mpr h

end Simulator

namespace Lifecycle

open Simulator

/-- The simulator has the resource of a spec, ready or on its way, and an update of the
resource would ask for nothing. -/
def UpToDate (kind : ResourceKind) (spec : kind.Spec) (tables : Tables) : Prop :=
  ∃ resource phase looks, tables.find? kind (kind.identifier spec) = some (resource, phase) ∧
    phase.settlesIn? = some looks ∧ Adapter.change? kind resource spec = none

variable {kind : ResourceKind} {spec : kind.Spec} {config : EngineConfig} {sim : SimulatorConfig}
  {status : LifecycleStatus} {now : Int64} {tables : Tables}

/-! ## A pass over what is there -/

/-- A pass over a resource in transition is one look. -/
theorem asked_pass_unready {σ : Type} (provider : Provider σ) (s : σ)
    (h : status.state = .unprovisioned) {existing : kind.Snapshot}
    (hfound : found kind spec provider s = .ok (some existing))
    (hready : Adapter.isReady kind existing = false) :
    (pass kind spec config status now).asked provider s =
      [.describe kind (kind.identifier spec)] := by
  have hlook : ((Adapter.find kind (kind.identifier spec)).runWith provider s).1 =
      .ok (some existing) := by
    rw [Adapter.runWith_find]
    exact hfound
  rw [pass, Pass.asked_ofCalls]
  simp only [calls, h, provide, Calls.madeWith_bind, Adapter.madeWith_find, hlook, hready]
  rfl

/-- A pass over a resource that is up to date succeeds with one look. -/
theorem pass_of_upToDate (config : EngineConfig) (sim : SimulatorConfig) (now : Int64)
    (h : status.state = .unprovisioned) (hdone : UpToDate kind spec tables) :
    (∃ after, (pass kind spec config status now).run (provider sim) (.calm tables) =
      (.ok (.settle awaiting), .calm after)) ∧
    (pass kind spec config status now).asked (provider sim) (.calm tables) =
      [.describe kind (kind.identifier spec)] := by
  obtain ⟨resource, phase, looks, hthere, hsettles, hchange⟩ := hdone
  obtain ⟨-, next, hlook, -⟩ := Phase.look_of_settlesIn hsettles
  obtain ⟨after, hfound, hlooked, -⟩ := found_of_some sim hthere hlook
  rw [run_pass_unprovisioned kind spec config now (provider sim) (.calm tables) h, hfound,
    hlooked]
  have hshown : Adapter.change? kind (shown kind resource next) spec = none := by
    rw [change?_shown, hchange]
  cases hready : Adapter.isReady kind (shown kind resource next) with
  | false =>
    refine ⟨⟨after, ?_⟩, asked_pass_unready (provider sim) (.calm tables) h hfound hready⟩
    simp only [hready]
    rfl
  | true =>
    constructor
    · refine ⟨after, ?_⟩
      simp only [hready, if_true, runWith_update_of_none hshown]
    · rw [asked_pass_unprovisioned kind spec config now (provider sim) (.calm tables) h hfound
        hready, hshown]
      rfl

/-! ## A pass that writes -/

/-- A resource whose last look has come is not found and is gone from then on. -/
theorem found_of_last (sim : SimulatorConfig) {resource : kind.Snapshot} {phase : Phase}
    (hthere : tables.find? kind (kind.identifier spec) = some (resource, phase))
    (hlook : phase.look = none) :
    ∃ after, found kind spec (provider sim) (.calm tables) = .ok none ∧
      looked kind spec (provider sim) (.calm tables) = .calm after ∧
      after.find? kind (kind.identifier spec) = none := by
  obtain ⟨error, after, herror, hserve, habsent⟩ := serve_describe_of_last hthere hlook
  refine ⟨after, ?_, ?_, habsent⟩
  · rw [found, provider_calm, hserve]
    exact if_pos herror
  · rw [looked, provider_calm, hserve]

/-- A pass that does not find the resource, as it was never there or is gone at this look, leaves
one that is up to date, if it succeeds. -/
theorem upToDate_of_create (hlive : sim.dryRun = false) (hunambiguous : Unambiguous kind spec)
    (h : status.state = .unprovisioned) {middle : Tables}
    (hfound : found kind spec (provider sim) (.calm tables) = .ok none)
    (hlooked : looked kind spec (provider sim) (.calm tables) = .calm middle)
    (habsent : middle.find? kind (kind.identifier spec) = none)
    {outcome : Outcome LifecycleStatus} {after : State}
    (hrun : (pass kind spec config status now).run (provider sim) (.calm tables) =
      (.ok outcome, after)) :
    outcome = .settle awaiting ∧ ∃ current, after = .calm current ∧
      UpToDate kind spec current := by
  rw [run_pass_unprovisioned kind spec config now (provider sim) (.calm tables) h, hfound,
    hlooked] at hrun
  dsimp only at hrun
  rcases runWith_create hlive kind habsent with
    ⟨-, error, hrefused⟩ | ⟨created, current, hcreated, hthere⟩
  · rw [hrefused] at hrun
    cases hrun
  · rw [hcreated] at hrun
    cases hrun
    obtain ⟨looks, hlooks, -⟩ := settlesIn_firstPhase sim kind
    exact ⟨rfl, current, rfl, _, _, looks, hthere, hlooks, change?_built hunambiguous⟩

/-- A pass that changes a settled resource leaves it up to date. -/
theorem upToDate_of_change (config : EngineConfig) (now : Int64) (hlive : sim.dryRun = false)
    (hunambiguous : Unambiguous kind spec) (h : status.state = .unprovisioned)
    {resource : kind.Snapshot} {phase : Phase}
    (hname : Simulator.carried kind resource = kind.identifier spec)
    (hthere : tables.find? kind (kind.identifier spec) = some (resource, phase))
    (hlook : phase.look = some .settled) {change : kind.Change}
    (hchange : Adapter.change? kind resource spec = some change) :
    ∃ current, (pass kind spec config status now).run (provider sim) (.calm tables) =
        (.ok (.settle awaiting), .calm current) ∧ UpToDate kind spec current := by
  obtain ⟨middle, hfound, hlooked, hmiddle⟩ := found_of_some sim hthere hlook
  have hready := (isReady_shown_iff hthere hlook).mpr rfl
  have hshown : Adapter.change? kind (shown kind resource .settled) spec = some change := by
    rw [change?_shown, hchange]
  obtain ⟨current, hupdated, hafter⟩ := runWith_update_of_settled hlive hshown hmiddle
  obtain ⟨looks, hlooks, -⟩ := settlesIn_changedPhase sim kind
  refine ⟨current, ?_, _, _, looks, hafter, hlooks, change?_changed hunambiguous hname hchange⟩
  rw [run_pass_unprovisioned kind spec config now (provider sim) (.calm tables) h, hfound,
    hlooked]
  simp only [hready, if_true, hupdated]

/-- What a pass asks for when the resource is there: the change of what differs, if the look shows
the resource settled, and nothing otherwise. -/
theorem exists_change?_of_write (h : status.state = .unprovisioned) {resource : kind.Snapshot}
    {phase next : Phase}
    (hthere : tables.find? kind (kind.identifier spec) = some (resource, phase))
    (hlook : phase.look = some next)
    (hwrites : ∃ call ∈ (pass kind spec config status now).asked (provider sim) (.calm tables),
      call.isWrite = true) :
    next = .settled ∧ ∃ change, Adapter.change? kind resource spec = some change := by
  obtain ⟨call, hasked, hwrite⟩ := hwrites
  obtain ⟨middle, hfound, -, -⟩ := found_of_some sim hthere hlook
  cases hready : Adapter.isReady kind (shown kind resource next) with
  | false =>
    rw [asked_pass_unready (provider sim) (.calm tables) h hfound hready,
      List.mem_singleton] at hasked
    rw [hasked] at hwrite
    cases hwrite
  | true =>
    refine ⟨(isReady_shown_iff hthere hlook).mp hready, ?_⟩
    rw [asked_pass_unprovisioned kind spec config now (provider sim) (.calm tables) h hfound
      hready, change?_shown] at hasked
    cases hchange : Adapter.change? kind resource spec with
    | some change => exact ⟨change, rfl⟩
    | none =>
      rw [hchange, Option.toList_none, List.map_nil, List.mem_singleton] at hasked
      rw [hasked] at hwrite
      cases hwrite

/-- A pass that writes and succeeds leaves a resource that is up to date. -/
theorem upToDate_of_write (hlive : sim.dryRun = false) (hunambiguous : Unambiguous kind spec)
    (hintact : tables.Intact) (h : status.state = .unprovisioned)
    {outcome : Outcome LifecycleStatus} {after : State}
    (hrun : (pass kind spec config status now).run (provider sim) (.calm tables) =
      (.ok outcome, after))
    (hwrites : ∃ call ∈ (pass kind spec config status now).asked (provider sim) (.calm tables),
      call.isWrite = true) :
    outcome = .settle awaiting ∧ ∃ current, after = .calm current ∧
      UpToDate kind spec current := by
  cases hthere : tables.find? kind (kind.identifier spec) with
  | none =>
    obtain ⟨hfound, hlooked⟩ := found_of_none sim hthere
    exact upToDate_of_create hlive hunambiguous h hfound hlooked hthere hrun
  | some entry =>
    obtain ⟨resource, phase⟩ := entry
    cases hlook : phase.look with
    | none =>
      obtain ⟨middle, hfound, hlooked, habsent⟩ := found_of_last sim hthere hlook
      exact upToDate_of_create hlive hunambiguous h hfound hlooked habsent hrun
    | some next =>
      obtain ⟨rfl, change, hchange⟩ := exists_change?_of_write h hthere hlook hwrites
      have hname := hintact.labelled kind _ resource phase hthere
      obtain ⟨current, hwritten, hdone⟩ :=
        upToDate_of_change config now hlive hunambiguous h hname hthere hlook hchange
      rw [hwritten] at hrun
      cases hrun
      exact ⟨rfl, current, rfl, hdone⟩

/-- In every state of a live simulator without an error to come, a pass that writes and succeeds
may be made again from the same status, at any time: the second pass comes to the same and writes
nothing. -/
theorem redelivered_pass_writes_nothing (hlive : sim.dryRun = false) (events : Nat → Event)
    (n : Nat) (hcalm : (stateAt sim events n).pending = none)
    (hunambiguous : Unambiguous kind spec) (h : status.state = .unprovisioned)
    {outcome : Outcome LifecycleStatus} {after : State}
    (hrun : (pass kind spec config status now).run (provider sim) (stateAt sim events n) =
      (.ok outcome, after))
    (hwrites : ∃ call ∈ (pass kind spec config status now).asked (provider sim)
      (stateAt sim events n), call.isWrite = true) (later : Int64) :
    (∃ last, (pass kind spec config status later).run (provider sim) after =
      (.ok outcome, last)) ∧
    ∀ call ∈ (pass kind spec config status later).asked (provider sim) after,
      call.isWrite = false := by
  have hstate : stateAt sim events n = .calm (tablesAt sim events n) := by
    rw [State.calm, tablesAt, ← hcalm]
  rw [hstate] at hrun hwrites
  have hintact : (tablesAt sim events n).Intact :=
    tablesAt_invariant Tables.intact_empty (fun _ call hbefore => hbefore.serve sim call) events n
  obtain ⟨rfl, current, rfl, hdone⟩ :=
    upToDate_of_write hlive hunambiguous hintact h hrun hwrites
  obtain ⟨⟨last, hagain⟩, hasked⟩ :=
    pass_of_upToDate config sim later h hdone
  refine ⟨⟨.calm last, hagain⟩, fun call hcall => ?_⟩
  rw [hasked, List.mem_singleton] at hcall
  rw [hcall]
  rfl

/-! ### A resource that is gone at the first look -/

/-- A cluster is created and deleted, and is gone after two looks, of which one is made. -/
def expiring : List Event :=
  [.call (.create .cluster ⟨"db1", "aurora-mysql", none, "admin", "secret", [], none, none⟩),
   .call (.delete .cluster "db1"),
   .call (.describe .cluster "db1")]

def renewed : ClusterSpec :=
  ⟨"db1", "aurora-mysql", none, "admin", "secret", ["sg-1"], none, none⟩

/-- The pass that finds the cluster gone creates a new one, and the same pass leaves that one
alone. -/
theorem redelivered_pass_writes_nothing_renewed :
    let first := (pass .cluster renewed .default regressed 7).run (provider .default)
      (stateAt .default (replay expiring) 3)
    first.1 = .ok (.settle awaiting) ∧
      (∃ last, (pass .cluster renewed .default regressed 9).run (provider .default) first.2 =
        (.ok (.settle awaiting), last)) ∧
      ∀ call ∈ (pass .cluster renewed .default regressed 9).asked (provider .default) first.2,
        call.isWrite = false := by
  intro first
  have hunambiguous : Unambiguous .cluster renewed := trivial
  have hrun : (pass .cluster renewed .default regressed 7).run (provider .default)
      (stateAt .default (replay expiring) 3) = (.ok (.settle awaiting), first.2) := rfl
  have hwrites : ∃ call ∈ (pass .cluster renewed .default regressed 7).asked (provider .default)
      (stateAt .default (replay expiring) 3), call.isWrite = true :=
    ⟨.create .cluster renewed.creation, .tail _ (.head _), rfl⟩
  exact ⟨rfl, redelivered_pass_writes_nothing rfl (replay expiring) 3 rfl hunambiguous rfl hrun
    hwrites 9⟩

end Lifecycle

end Reconciler
