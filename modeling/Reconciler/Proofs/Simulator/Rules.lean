import Reconciler.Proofs.Simulator.Run

/-!
# The rules of a creation in later states

A cluster or an instance is created only with a parameter group that is there, and a subnet
group only with two subnets (`Obeys`). A group stays while it is named, so no creation and no
deletion takes these rules back. A change does not look at them: a resource has obeyed them in
all states so far exactly when no change of it that was accepted named a missing group or too
few subnets (`obeys_iff_no_slip`).
-/

set_option autoImplicit false

namespace Reconciler.Simulator

/-- The rules for a resource that are looked at when it is created. -/
def Obeys (tables : Tables) : (kind : ResourceKind) → kind.Snapshot → Prop
  | .cluster, cluster =>
    ∀ group ∈ cluster.parameterGroup, (tables.find? .clusterParameterGroup group).isSome
  | .dbInstance, existing =>
    ∀ group ∈ existing.parameterGroup, (tables.find? .parameterGroup group).isSome
  | .subnetGroup, group => 2 ≤ group.subnets.length
  | _, _ => True

/-- The same rules for a request to change a resource. -/
def Allows (tables : Tables) : (kind : ResourceKind) → kind.Change → Prop
  | .cluster, request =>
    ∀ group ∈ request.parameterGroup, (tables.find? .clusterParameterGroup group).isSome
  | .dbInstance, request =>
    ∀ group ∈ request.parameterGroup, (tables.find? .parameterGroup group).isSome
  | .subnetGroup, request => 2 ≤ request.subnets.length
  | _, _ => True

variable {config : SimulatorConfig} {tables after : Tables} {kind : ResourceKind}
  {identifier : String}

/-! ## Creations and changes -/

/-- A resource that is created with what it needs obeys the rules. -/
theorem obeys_bare {spec : kind.Spec} (h : Supplied tables kind spec) :
    Obeys tables kind (bare kind spec) := by
  cases kind with
  | cluster | dbInstance => exact h.2
  | parameterGroup | clusterParameterGroup => trivial
  | subnetGroup => exact h

/-- What a change names is named by the changed resource. -/
theorem allows_of_obeys_changed {resource : kind.Snapshot} {request : kind.Change}
    (h : Obeys tables kind (changed kind resource request)) : Allows tables kind request := by
  cases kind with
  | cluster | dbInstance =>
    intro group hgroup
    refine h group ?_
    simp only [changed, changedCluster, changedInstance]
    rw [Option.mem_def.mp hgroup]
    rfl
  | parameterGroup | clusterParameterGroup => trivial
  | subnetGroup => exact h

/-- A change that is allowed keeps the rules. -/
theorem obeys_changed {resource : kind.Snapshot} {request : kind.Change}
    (h : Obeys tables kind resource) (hallows : Allows tables kind request) :
    Obeys tables kind (changed kind resource request) := by
  cases kind with
  | cluster | dbInstance =>
    intro group hgroup
    cases hnamed : request.parameterGroup with
    | none =>
      simp only [changed, changedCluster, changedInstance, hnamed, Option.none_or] at hgroup
      exact h group hgroup
    | some other =>
      simp only [changed, changedCluster, changedInstance, hnamed, Option.some_or] at hgroup
      cases hgroup
      exact hallows _ hnamed
  | parameterGroup | clusterParameterGroup => trivial
  | subnetGroup => exact hallows

/-- The rules for a resource say nothing about resources of its own kind. -/
theorem Obeys.elsewhere {resource : kind.Snapshot} (h : Obeys tables kind resource)
    (hsame : ∀ other name, other ≠ kind → after.find? other name = tables.find? other name) :
    Obeys after kind resource := by
  cases kind with
  | cluster =>
    intro group hgroup
    rw [hsame .clusterParameterGroup group (by decide)]
    exact h group hgroup
  | dbInstance =>
    intro group hgroup
    rw [hsame .parameterGroup group (by decide)]
    exact h group hgroup
  | parameterGroup | clusterParameterGroup => trivial
  | subnetGroup => exact h

/-- So a call about resources of a kind changes nothing for any resource of that kind. -/
theorem obeys_serve_iff {call : Call} (hcall : call.target.1 = kind) {resource : kind.Snapshot} :
    Obeys (serve config tables call).2 kind resource ↔ Obeys tables kind resource := by
  have hsame : ∀ other name, other ≠ kind →
      (serve config tables call).2.find? other name = tables.find? other name :=
    fun other name hother => find?_serve_of_ne config tables call fun htarget =>
      hother (by rw [← hcall, htarget])
  exact ⟨fun h => h.elsewhere fun other name hother => (hsame other name hother).symm,
    fun h => h.elsewhere hsame⟩

/-! ## What is named stays -/

/-- Only clusters and instances come to be and go by and by. -/
theorem settled_of_find? (hkind : kind.lingers = false) {resource : kind.Snapshot} {phase : Phase}
    (h : tables.find? kind identifier = some (resource, phase)) : phase = .settled := by
  cases kind with
  | cluster | dbInstance => cases hkind
  | parameterGroup | clusterParameterGroup | subnetGroup =>
    obtain ⟨_, -, heq⟩ := Option.map_eq_some_iff.mp h
    exact (congrArg Prod.snd heq).symm

/-- A group that a resource names outlasts every call. -/
theorem isSome_find?_serve_of_names (call : Call) (kind : ResourceKind)
    (hkind : kind.lingers = false) {user : ResourceKind} {name : String}
    {resource : user.Snapshot} {phase : Phase}
    (huser : tables.find? user name = some (resource, phase))
    (hnames : Tables.Names user kind resource identifier)
    (hthere : (tables.find? kind identifier).isSome) :
    ((serve config tables call).2.find? kind identifier).isSome := by
  have hmoves := moves_serve config tables call kind identifier
  have hused := (tables.inUse_iff kind identifier).mpr ⟨user, name, resource, phase, huser, hnames⟩
  generalize hbefore : tables.find? kind identifier = before at hmoves hthere
  generalize (serve config tables call).2.find? kind identifier = next at hmoves
  cases hmoves with
  | kept => exact hthere
  | looked | modified => rfl
  | created => cases hthere
  | vanished hlook =>
    rw [settled_of_find? hkind hbefore] at hlook
    cases hlook
  | deleted hlive hfree =>
    rw [hused] at hfree
    cases hfree

/-- A resource that is there goes on to obey the rules whatever is served. -/
theorem Obeys.serve {resource : kind.Snapshot} {phase : Phase} (h : Obeys tables kind resource)
    (hthere : tables.find? kind identifier = some (resource, phase)) (call : Call) :
    Obeys (serve config tables call).2 kind resource := by
  cases kind with
  | cluster =>
    intro group hgroup
    exact isSome_find?_serve_of_names call .clusterParameterGroup rfl hthere hgroup
      (h group hgroup)
  | dbInstance =>
    intro group hgroup
    exact isSome_find?_serve_of_names call .parameterGroup rfl hthere hgroup
      (h group hgroup)
  | parameterGroup | clusterParameterGroup => trivial
  | subnetGroup => exact h

/-! ## Runs -/

section

variable (config : SimulatorConfig) (events : Nat → Event) (kind : ResourceKind)
  (identifier : String)

/-- The resource, if it is there before event number `n`, obeys the rules. -/
def ObeysAt (n : Nat) : Prop :=
  ∀ resource phase, (tablesAt config events n).find? kind identifier = some (resource, phase) →
    Obeys (tablesAt config events n) kind resource

/-- Event number `n` is a change of the resource that is accepted and is against the rules. -/
def SlipsAt (n : Nat) : Prop :=
  config.dryRun = false ∧ ∃ request resource, kind.changedIdentifier request = identifier ∧
    Serves config events n (.modify kind request) ∧
    (tablesAt config events n).find? kind identifier = some (resource, .settled) ∧
    ¬ Allows (tablesAt config events n) kind request

end

variable {events : Nat → Event} {n : Nat}

/-- A slip leaves a resource that is against the rules. -/
theorem SlipsAt.not_obeysAt_succ (h : SlipsAt config events kind identifier n) :
    ¬ ObeysAt config events kind identifier (n + 1) := by
  obtain ⟨hlive, request, resource, rfl, hserves, hsettled, hforbidden⟩ := h
  intro hobeys
  have hchanged := find?_serve_modify_of_settled hlive hsettled
  rw [← tablesAt_succ_of_serves hserves] at hchanged
  have hkept := hobeys _ _ hchanged
  rw [tablesAt_succ_of_serves hserves] at hkept
  exact hforbidden (allows_of_obeys_changed ((obeys_serve_iff rfl).mp hkept))

/-- A step keeps the rules for a resource unless it is a change against them. -/
theorem ObeysAt.succ (h : ObeysAt config events kind identifier n)
    (hslip : ¬ SlipsAt config events kind identifier n) :
    ObeysAt config events kind identifier (n + 1) := by
  intro resource phase hthere
  rcases serves_or_unchanged config events n with ⟨call, hserves⟩ | ⟨-, hsame⟩
  · have hmoves := moves_succ hserves kind identifier
    rw [tablesAt_succ_of_serves hserves] at hthere hmoves ⊢
    generalize hbefore : (tablesAt config events n).find? kind identifier = before at hmoves
    rw [hthere] at hmoves
    generalize hafter : some (resource, phase) = later at hmoves
    cases hmoves with
    | kept => exact (h _ _ (hbefore.trans hafter.symm)).serve (hbefore.trans hafter.symm) call
    | looked =>
      cases hafter
      exact (h _ _ hbefore).serve hbefore _
    | vanished => cases hafter
    | created _ _ hsupplied =>
      cases hafter
      exact (obeys_serve_iff rfl).mpr (obeys_bare hsupplied)
    | @modified existing request hname hlive =>
      cases hafter
      have hallows : Allows (tablesAt config events n) kind request :=
        Classical.byContradiction fun hforbidden =>
          hslip ⟨hlive, request, existing, hname, hserves, hbefore, hforbidden⟩
      exact (obeys_serve_iff rfl).mpr (obeys_changed (h _ _ hbefore) hallows)
    | deleted =>
      obtain ⟨rfl, -⟩ := eq_of_leftAfter hafter.symm
      exact (h _ _ hbefore).serve hbefore _
  · rw [hsame] at hthere ⊢
    exact h resource phase hthere

/-- Before the first event there is nothing that could be against the rules. -/
theorem obeysAt_zero : ObeysAt config events kind identifier 0 := by
  intro resource phase hthere
  rw [find?_tablesAt_zero] at hthere
  cases hthere

/-- A resource has obeyed the rules of its creation in every state so far exactly when no change
of it that was accepted is against them. -/
theorem obeys_iff_no_slip (config : SimulatorConfig) (events : Nat → Event) (kind : ResourceKind)
    (identifier : String) (n : Nat) :
    (∀ m ≤ n, ObeysAt config events kind identifier m) ↔
      ∀ m < n, ¬ SlipsAt config events kind identifier m := by
  constructor
  · intro hobeys m hm hslip
    exact hslip.not_obeysAt_succ (hobeys (m + 1) hm)
  · intro hslips m hm
    induction m with
    | zero => exact obeysAt_zero
    | succ m ih => exact (ih (Nat.le_of_succ_le hm)).succ (hslips m hm)

/-- A cluster that settles at the first look and is then moved to a group that is not there. -/
def strayCluster : List Event :=
  [.call (.create .cluster ⟨"db1", "aurora-mysql", none, "admin", "secret", [], none, none⟩),
   .call (.describe .cluster "db1"),
   .call (.modify .cluster ⟨"db1", none, none, some "ghost"⟩)]

/-- The stray cluster is moved to its missing group by the third event. -/
theorem slipsAt_strayCluster : SlipsAt ⟨1, 1, false⟩ (replay strayCluster) .cluster "db1" 2 := by
  refine ⟨rfl, ⟨"db1", none, none, some "ghost"⟩, ?_, rfl, ⟨rfl, rfl⟩, ?_, ?_⟩
  · exact newCluster ⟨"db1", "aurora-mysql", none, "admin", "secret", [], none, none⟩
  · rfl
  · intro h
    cases h "ghost" rfl

/-- The stray cluster has not obeyed the rules throughout. -/
theorem obeys_iff_no_slip_strayCluster :
    ¬ ∀ m ≤ 3, ObeysAt ⟨1, 1, false⟩ (replay strayCluster) .cluster "db1" m := fun hobeys =>
  (obeys_iff_no_slip ⟨1, 1, false⟩ (replay strayCluster) .cluster "db1" 3).mp hobeys 2
    (by decide) slipsAt_strayCluster

end Reconciler.Simulator
