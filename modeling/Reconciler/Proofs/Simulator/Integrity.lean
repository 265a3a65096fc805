import Reconciler.Proofs.Simulator.Rules

/-!
# Tables that hold together

Every resource is found under the identifier that it carries, and the subnet group of a cluster
is there for as long as the cluster is, also while the cluster is going away (`Tables.Intact`).
A cluster comes in with a group that is there and is never moved to another one, and a group
that is named outlasts every call, so no event of a run takes this back (`intact_tablesAt`).
-/

set_option autoImplicit false

namespace Reconciler.Simulator

/-- The identifier or name that is part of a resource. -/
def carried : (kind : ResourceKind) → kind.Snapshot → String
  | .cluster, cluster => cluster.identifier
  | .dbInstance, existing => existing.identifier
  | .parameterGroup, group => group.name
  | .clusterParameterGroup, group => group.name
  | .subnetGroup, group => group.name

/-- The tables lead to the right resources. Parameter groups of one name in the two scopes are
different resources, each in the table of its scope. -/
structure Tables.Intact (tables : Tables) : Prop where
  labelled : ∀ kind identifier resource phase,
    tables.find? kind identifier = some (resource, phase) → carried kind resource = identifier
  grouped : ∀ identifier cluster phase,
    tables.find? .cluster identifier = some (cluster, phase) →
      ∀ group ∈ cluster.subnetGroup, (tables.find? .subnetGroup group).isSome

/-- Empty tables hold together. -/
theorem Tables.intact_empty : Tables.empty.Intact where
  labelled kind identifier _ _ hthere := by simp at hthere
  grouped identifier _ _ hthere := by simp at hthere

variable {config : SimulatorConfig} {tables : Tables} {kind : ResourceKind} {identifier : String}

/-! ## One call -/

/-- A resource that is created carries the identifier of its spec. -/
@[simp]
theorem carried_bare (kind : ResourceKind) (spec : kind.Spec) :
    carried kind (bare kind spec) = kind.identifier spec := by
  cases kind <;> rfl

/-- A change keeps the identifier that a resource carries. -/
@[simp]
theorem carried_changed (kind : ResourceKind) (resource : kind.Snapshot)
    (request : kind.Change) : carried kind (changed kind resource request) =
      carried kind resource := by
  cases kind <;> rfl

/-- A resource keeps its label in every call, and gets its own when it comes in. -/
theorem Moves.carried_eq {call : Call} {before after : Option (kind.Snapshot × Phase)}
    (h : Moves config tables kind identifier call before after)
    (hbefore : ∀ entry ∈ before, carried kind entry.1 = identifier) :
    ∀ entry ∈ after, carried kind entry.1 = identifier := by
  intro entry hentry
  cases h with
  | kept => exact hbefore entry hentry
  | looked =>
    cases hentry
    have hlabel := hbefore _ rfl
    exact hlabel
  | vanished => cases hentry
  | created hname =>
    cases hentry
    rw [carried_bare, hname]
  | modified =>
    cases hentry
    rw [carried_changed]
    exact hbefore _ rfl
  | deleted =>
    obtain ⟨hsame, -⟩ := eq_of_leftAfter hentry
    rw [hsame]
    exact hbefore _ rfl

/-- A cluster keeps its subnet group in every call, and comes in with one that is there. -/
theorem Moves.subnetGroup_eq {call : Call}
    {before after : Option (ResourceKind.cluster.Snapshot × Phase)}
    (h : Moves config tables .cluster identifier call before after) :
    ∀ entry ∈ after,
      (∃ former ∈ before, entry.1.subnetGroup = former.1.subnetGroup) ∨
        call.target.1 = .cluster ∧
          ∀ group ∈ entry.1.subnetGroup, (tables.find? .subnetGroup group).isSome := by
  intro entry hentry
  cases h with
  | kept => exact .inl ⟨entry, hentry, rfl⟩
  | looked | modified =>
    cases hentry
    exact .inl ⟨_, rfl, rfl⟩
  | vanished => cases hentry
  | created _ _ hsupplied =>
    cases hentry
    exact .inr ⟨rfl, hsupplied.1⟩
  | deleted =>
    obtain ⟨hsame, -⟩ := eq_of_leftAfter hentry
    exact .inl ⟨_, rfl, by rw [hsame]⟩

/-- A call that is served leaves the tables intact. -/
theorem Tables.Intact.serve (h : tables.Intact) (config : SimulatorConfig) (call : Call) :
    (serve config tables call).2.Intact where
  labelled kind identifier resource phase hthere :=
    (moves_serve config tables call kind identifier).carried_eq
      (fun _ hentry => h.labelled kind identifier _ _ hentry) _ hthere
  grouped identifier cluster phase hthere group hgroup := by
    rcases (moves_serve config tables call .cluster identifier).subnetGroup_eq _ hthere with
      ⟨⟨former, formerPhase⟩, hformer, hsame⟩ | ⟨htarget, hsupplied⟩
    · have hnamed : former.subnetGroup = some group := hsame.symm.trans hgroup
      exact isSome_find?_serve_of_names call .subnetGroup rfl hformer hnamed
        (h.grouped identifier former formerPhase hformer group hnamed)
    · -- a call about a cluster leaves the subnet groups as they are
      have helsewhere : call.target ≠ (.subnetGroup, group) := fun heq => by
        rw [heq] at htarget
        cases htarget
      rw [find?_serve_of_ne config tables call helsewhere]
      exact hsupplied group hgroup

/-! ## Runs -/

/-- In every state of a run, with or without dry-run mode and whatever errors are injected, every
resource is found under its own identifier, and every cluster that names a subnet group has it. -/
theorem intact_tablesAt (config : SimulatorConfig) (events : Nat → Event) (n : Nat) :
    (tablesAt config events n).Intact := by
  induction n with
  | zero =>
    constructor
    · intro kind identifier resource phase hthere
      rw [find?_tablesAt_zero] at hthere
      cases hthere
    · intro identifier cluster phase hthere
      rw [find?_tablesAt_zero] at hthere
      cases hthere
  | succ n ih =>
    rcases serves_or_unchanged config events n with ⟨call, hserves⟩ | ⟨-, hsame⟩
    · rw [tablesAt_succ_of_serves hserves]
      exact ih.serve config call
    · rw [hsame]
      exact ih

/-- A cluster in a subnet group is deleted, and then the group while the cluster is going away. -/
def lingeringCluster : List Event :=
  [.call (.create .subnetGroup ⟨"private", "two", ["subnet-a", "subnet-b"]⟩),
   .call (.create .cluster
     ⟨"db1", "aurora-mysql", none, "admin", "secret", [], some "private", none⟩),
   .call (.delete .cluster "db1"),
   .call (.delete .subnetGroup "private")]

/-- The subnet group is there while its deleted cluster is still going away. -/
theorem intact_tablesAt_lingeringCluster :
    ∃ cluster, (tablesAt .default (replay lingeringCluster) 4).find? .cluster "db1" =
        some (cluster, .deleting 2) ∧
      cluster.subnetGroup = some "private" ∧
      ((tablesAt .default (replay lingeringCluster) 4).find? .subnetGroup "private").isSome := by
  refine ⟨newCluster ⟨"db1", "aurora-mysql", none, "admin", "secret", [], some "private", none⟩,
    rfl, rfl, ?_⟩
  exact (intact_tablesAt .default (replay lingeringCluster) 4).grouped "db1" _ _ rfl "private" rfl

end Reconciler.Simulator
