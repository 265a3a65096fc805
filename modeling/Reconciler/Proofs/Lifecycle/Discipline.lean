import Reconciler.Proofs.Lifecycle.Pass

/-!
# The discipline of a pass

What a pass says to the provider, read as a conversation: its calls in order, each with the
answer that it got. `Orderly` lists the conversations that a pass may have from each state, and
they are few: a pass looks for its resource before anything else, creates it only after it
was told that there is none, and changes only what it was shown to be ready. The provider is any
outside party whatever, so every sequence of answers is covered.
-/

set_option autoImplicit false

namespace Reconciler

namespace Lifecycle

/-! ## Orderly conversations -/

/-- A request to create a resource that asks for what a spec declares. -/
def Carries : (kind : ResourceKind) → kind.Spec → kind.Creation → Prop
  | .cluster, spec, request =>
    request.identifier = spec.id ∧ request.engine = spec.engine ∧
      request.engineVersion = spec.engineVersion ∧
      request.masterUsername = spec.masterUsername ∧
      request.masterPassword = spec.masterPassword ∧
      request.securityGroups = spec.securityGroups ∧
      request.subnetGroup = spec.subnetGroup ∧ request.parameterGroup = spec.parameterGroup
  | .dbInstance, spec, request =>
    request.identifier = spec.id ∧ request.cluster = spec.cluster ∧
      request.engine = spec.engine ∧ request.instanceClass = spec.instanceClass ∧
      request.allocatedStorage = spec.allocatedStorage ∧
      request.parameterGroup = spec.parameterGroup
  | .parameterGroup, spec, request | .clusterParameterGroup, spec, request =>
    request.name = spec.name ∧ request.family = spec.family ∧
      request.description = spec.description
  | .subnetGroup, spec, request =>
    request.name = spec.name ∧ request.description = spec.description ∧
      request.subnets = spec.subnets

/-- A group lacks a parameter that it does not have or has with another value. -/
def Lacks (group : ParameterGroupSnapshot) (parameter : Parameter) : Prop :=
  ∀ value, group.parameters[parameter.name]? = some value → value ≠ parameter.value

/-- A group lacks a parameter exactly when it is not set to the declared value. -/
theorem lacks_iff {group : ParameterGroupSnapshot} {parameter : Parameter} :
    Lacks group parameter ↔ group.parameters[parameter.name]? ≠ some parameter.value :=
  ⟨fun h hvalue => h _ hvalue rfl, fun h _ hvalue heq => h (hvalue.trans (congrArg some heq))⟩

instance (group : ParameterGroupSnapshot) : DecidablePred (Lacks group) :=
  fun _ => decidable_of_iff' _ lacks_iff

/-- The declared parameters that a group lacks, in the order of the spec. -/
def lacking (spec : ParameterGroupSpec) (group : ParameterGroupSnapshot) : List Parameter :=
  spec.parameters.filter (Lacks group ·)

/-- What is asked for once a resource was created: for a parameter group, the parameters that it
lacks, if there are any; for every other resource, nothing. -/
def completion : (kind : ResourceKind) → kind.Spec → kind.Snapshot → List Call
  | .parameterGroup, spec, created =>
    if lacking spec created = [] then []
    else [.modify .parameterGroup ⟨spec.name, lacking spec created⟩]
  | .clusterParameterGroup, spec, created =>
    if lacking spec created = [] then []
    else [.modify .clusterParameterGroup ⟨spec.name, lacking spec created⟩]
  | _, _, _ => []

variable (kind : ResourceKind) (spec : kind.Spec)

/-- The look at the resource of a spec and what it showed. -/
def look (answer : Except Error kind.Snapshot) : Exchange :=
  ⟨.describe kind (kind.identifier spec), answer⟩

/-- The conversations that a pass over an object with a spec may have from a state. -/
inductive Orderly : LifecycleState → List Exchange → Prop where
  /-- Nothing is said about an object that was never reconciled. -/
  | silent : Orderly .noState []
  /-- A resource that is awaited or watched is looked at, and that is all. -/
  | watched {state : LifecycleState} (hstate : state = .provisioning ∨ state = .provisioned)
      (answer : Except Error kind.Snapshot) : Orderly state [look kind spec answer]
  /-- A look that fails in another way than by finding nothing ends the pass. -/
  | failed {error : Error} (herror : error.isNotFound = false) :
      Orderly .unprovisioned [look kind spec (.error error)]
  /-- A resource in transition is left alone. -/
  | unready {existing : kind.Snapshot} (hready : Adapter.isReady kind existing = false) :
      Orderly .unprovisioned [look kind spec (.ok existing)]
  /-- A resource that is ready may be left as it is. -/
  | kept {existing : kind.Snapshot} (hready : Adapter.isReady kind existing = true) :
      Orderly .unprovisioned [look kind spec (.ok existing)]
  /-- A resource that is ready may be changed, by one call. -/
  | changed {existing : kind.Snapshot} (hready : Adapter.isReady kind existing = true)
      {request : kind.Change} (hname : kind.changedIdentifier request = kind.identifier spec)
      (answer : Except Error kind.Changed) :
      Orderly .unprovisioned [look kind spec (.ok existing), ⟨.modify kind request, answer⟩]
  /-- A resource that is not there is asked for once, in vain. -/
  | refused {error : Error} (herror : error.isNotFound = true) {request : kind.Creation}
      (hrequest : Carries kind spec request) (refusal : Error) :
      Orderly .unprovisioned
        [look kind spec (.error error), ⟨.create kind request, .error refusal⟩]
  /-- A resource that is not there is created once, and then completed. -/
  | created {error : Error} (herror : error.isNotFound = true) {request : kind.Creation}
      (hrequest : Carries kind spec request) (created : kind.Snapshot) {rest : List Exchange}
      (hrest : rest.map Sigma.fst = completion kind spec created) :
      Orderly .unprovisioned
        (look kind spec (.error error) :: ⟨.create kind request, .ok created⟩ :: rest)

/-! ## A pass is orderly -/

/-- The request that creates a resource asks for what its spec declares. -/
theorem carries_creation : Carries kind spec (kind.creation spec) := by
  cases kind <;> simp [Carries, ResourceKind.creation, ClusterSpec.creation,
    InstanceSpec.creation, ParameterGroupSpec.creation, SubnetGroupSpec.creation]

/-- An update of a group sets the parameters that it lacks. -/
theorem parameterChanges_eq_lacking (group : ParameterGroupSnapshot) (spec : ParameterGroupSpec) :
    Adapter.parameterChanges group spec = lacking spec group :=
  List.filter_congr fun _ _ => decide_eq_decide.mpr lacks_iff.symm

/-- A parameter group is changed when it lacks a parameter, by the parameters that it lacks. -/
theorem toList_groupChange? (group : ParameterGroupSnapshot) (spec : ParameterGroupSpec) :
    (Adapter.groupChange? group spec).toList =
      if lacking spec group = [] then [] else [⟨spec.name, lacking spec group⟩] := by
  rw [← parameterChanges_eq_lacking, Adapter.groupChange?]
  cases Adapter.parameterChanges group spec <;> rfl

/-- A resource that comes into being bare is completed by its update, and no other is. -/
theorem completion_eq (created : kind.Snapshot) :
    completion kind spec created =
      if Adapter.createdBare kind then
        (Adapter.change? kind created spec).toList.map (Call.modify kind)
      else [] := by
  cases kind with
  | cluster | dbInstance | subnetGroup => rfl
  | parameterGroup | clusterParameterGroup =>
    simp only [Adapter.createdBare, if_true, Adapter.change?, toList_groupChange?, completion]
    split <;> rfl

variable {σ : Type} (provider : Provider σ)

/-- Finding the resource of a spec is one look at it. -/
theorem dialogueWith_find (s : σ) :
    (Adapter.find kind (kind.identifier spec)).dialogueWith provider s =
      [look kind spec (provider (.describe kind (kind.identifier spec)) s).1] := by
  rw [Adapter.find, Calls.dialogueWith_orAbsent, Calls.describe, Calls.dialogueWith_perform]
  rfl

/-- Updating a resource is one change when it has drift, and nothing when it has none. -/
theorem dialogueWith_update (existing : kind.Snapshot) (s : σ) :
    (Adapter.update kind existing spec).dialogueWith provider s =
      match Adapter.change? kind existing spec with
      | none => []
      | some change => [⟨.modify kind change, (provider (.modify kind change) s).1⟩] := by
  cases hchange : Adapter.change? kind existing spec with
  | none => simp only [Adapter.update, hchange, Calls.dialogueWith_pure]
  | some change =>
    simp only [Adapter.update, hchange, Calls.dialogueWith_discard, Calls.modify]
    exact Calls.dialogueWith_perform provider (.modify kind change) s

/-- A creation asks for the resource once, and completes it when it was granted. -/
theorem dialogueWith_create (s : σ) :
    (Adapter.create kind spec).dialogueWith provider s =
      ⟨.create kind (kind.creation spec), (provider (.create kind (kind.creation spec)) s).1⟩ ::
        match (provider (.create kind (kind.creation spec)) s).1 with
        | .ok created =>
          if Adapter.createdBare kind then
            (Adapter.update kind created spec).dialogueWith provider
              (provider (.create kind (kind.creation spec)) s).2
          else []
        | .error _ => [] := by
  rw [Adapter.create, Calls.dialogueWith_bind, Calls.create, Calls.dialogueWith_perform,
    Calls.runWith_perform, List.singleton_append]
  cases (provider (.create kind (kind.creation spec)) s).1 with
  | error error => rfl
  | ok created =>
    by_cases hbare : Adapter.createdBare kind = true
    · simp only [hbare, if_true, Calls.dialogueWith_bind_pure]
    · simp only [hbare]
      rfl

/-- A resource that was not found is created in an orderly way. -/
theorem orderly_create {error : Error} (herror : error.isNotFound = true) (s : σ) :
    Orderly kind spec .unprovisioned
      (look kind spec (.error error) :: (Adapter.create kind spec).dialogueWith provider s) := by
  rw [dialogueWith_create]
  cases hanswer : (provider (.create kind (kind.creation spec)) s).1 with
  | error refusal => exact .refused herror (carries_creation kind spec) refusal
  | ok created =>
    refine .created herror (carries_creation kind spec) created ?_
    rw [completion_eq]
    by_cases hbare : Adapter.createdBare kind = true
    · simp only [hbare, if_true, Calls.map_fst_dialogueWith, Adapter.madeWith_update]
    · simp only [hbare]
      rfl

/-- A resource that is ready is updated in an orderly way. -/
theorem orderly_update {existing : kind.Snapshot} (hready : Adapter.isReady kind existing = true)
    (s : σ) :
    Orderly kind spec .unprovisioned
      (look kind spec (.ok existing) ::
        (Adapter.update kind existing spec).dialogueWith provider s) := by
  rw [dialogueWith_update]
  cases hchange : Adapter.change? kind existing spec with
  | none => exact .kept hready
  | some change =>
    exact .changed hready (Adapter.changedIdentifier_of_change? kind spec hchange) _

/-- A resource that is to be provided is looked for, and the rest depends on what is found. -/
theorem orderly_provide (s : σ) :
    Orderly kind spec .unprovisioned ((provide kind spec).dialogueWith provider s) := by
  rw [provide, Calls.dialogueWith_bind, dialogueWith_find, Adapter.runWith_find]
  cases (provider (.describe kind (kind.identifier spec)) s).1 with
  | error error =>
    by_cases herror : error.isNotFound = true
    · simp only [Calls.found?, herror, if_true, Calls.dialogueWith_bind_pure,
        Calls.dialogueWith_discard]
      exact orderly_create kind spec provider herror _
    · simp only [Calls.found?, herror]
      exact .failed (Bool.eq_false_iff.mpr herror)
  | ok existing =>
    by_cases hready : Adapter.isReady kind existing = true
    · simp only [Calls.found?, hready, if_true, Calls.dialogueWith_bind_pure]
      exact orderly_update kind spec provider hready _
    · simp only [Calls.found?, hready]
      exact .unready (Bool.eq_false_iff.mpr hready)

/-- A resource that is awaited is looked at, and nothing else is said. -/
theorem dialogueWith_await (config : EngineConfig) (status : LifecycleStatus) (now : Int64)
    (s : σ) :
    (await kind spec config status now).dialogueWith provider s =
      [look kind spec (provider (.describe kind (kind.identifier spec)) s).1] := by
  rw [await, Calls.dialogueWith_bind_of_silent, dialogueWith_find]
  rintro (_ | existing) s <;> rfl

/-- A resource that is watched is looked at, and nothing else is said. -/
theorem dialogueWith_verify (status : LifecycleStatus) (s : σ) :
    (verify kind spec status).dialogueWith provider s =
      [look kind spec (provider (.describe kind (kind.identifier spec)) s).1] := by
  rw [verify, Calls.dialogueWith_bind_of_silent, dialogueWith_find]
  rintro (_ | existing) s
  · rfl
  · dsimp only
    split <;> rfl

variable (config : EngineConfig) (status : LifecycleStatus) (now : Int64) (s : σ)

/-- The calls of a pass are an orderly conversation. -/
theorem orderly_calls :
    Orderly kind spec status.state
      ((calls kind spec config status now).dialogueWith provider s) := by
  unfold calls
  cases status.state with
  | noState => exact .silent
  | unprovisioned => exact orderly_provide kind spec provider s
  | provisioning =>
    dsimp only
    rw [dialogueWith_await]
    exact .watched (.inl rfl) _
  | provisioned =>
    dsimp only
    rw [dialogueWith_verify]
    exact .watched (.inr rfl) _

/-- Whatever the provider answers, a pass talks to it in an orderly way, and it never asks for a
deletion. -/
theorem dialogue_pass_orderly :
    Orderly kind spec status.state ((pass kind spec config status now).dialogue provider s) ∧
      ∀ exchange ∈ (pass kind spec config status now).dialogue provider s,
        exchange.1.isDeletion = false := by
  constructor
  · rw [pass, Pass.dialogue_ofCalls]
    exact orderly_calls kind spec provider config status now s
  · intro exchange hexchange
    have hasked : exchange.1 ∈ (pass kind spec config status now).asked provider s := by
      rw [← Script.map_fst_dialogue]
      exact List.mem_map_of_mem hexchange
    exact ((asks_pass kind spec config status now).of_mem_asked hasked).2

end Lifecycle

end Reconciler
