import Reconciler.Proofs.Drift

/-!
# What a drift report holds

A drift report has one line for each field of a resource that is not as its spec desires, and one
for each declared parameter that is not set to its value (`length_lines`). It is empty exactly when
there are none. A list of identifiers is compared as a set, so a report depends neither on the order
of such a list nor on how often it repeats an identifier.
-/

set_option autoImplicit false

namespace Reconciler.Drift

/-! ## What is compared -/

/-- What a spec desires of a field of a resource, and what the field is. -/
inductive Field where
  | value (desired actual : String)
  /-- A value that the spec may leave open and that may be absent. -/
  | optional (desired actual : Option String)
  | identifiers (desired actual : List String)
  deriving DecidableEq, Repr

/-- Whether a field is as desired. A value that is left open always is, an absent value counts as
the empty one, and of a list of identifiers only its members count. -/
def Field.Agrees : Field → Prop
  | .value desired actual => actual = desired
  | .optional desired actual => ∀ value, desired = some value → actual.getD "" = value
  | .identifiers desired actual => ∀ name, name ∈ actual ↔ name ∈ desired

instance : DecidablePred Field.Agrees
  | .value desired actual => inferInstanceAs (Decidable (actual = desired))
  | .optional none _ => isTrue fun _ h => nomatch h
  | .optional (some value) actual =>
    decidable_of_iff (actual.getD "" = value) (by simp [Field.Agrees])
  | .identifiers desired actual =>
    decidable_of_iff (ascending actual = ascending desired) ascending_eq_iff

/-- The fields of a resource that are compared, each under its name. The password of a cluster and
the storage of an instance are not among them. -/
def fields : (kind : ResourceKind) → kind.Snapshot → kind.Spec → List (String × Field)
  | .cluster, existing, spec =>
    [("identifier", .value spec.id existing.identifier),
     ("engine", .value spec.engine existing.engine),
     ("engine_version", .optional spec.engineVersion (some existing.engineVersion)),
     ("master_username", .value spec.masterUsername existing.masterUsername),
     ("security_group_ids", .identifiers spec.securityGroups existing.securityGroups),
     ("subnet_group_name", .optional spec.subnetGroup existing.subnetGroup),
     ("parameter_group_name", .optional spec.parameterGroup existing.parameterGroup)]
  | .dbInstance, existing, spec =>
    [("identifier", .value spec.id existing.identifier),
     ("cluster_id", .value spec.cluster existing.cluster),
     ("engine", .value spec.engine existing.engine),
     ("instance_class", .value spec.instanceClass existing.instanceClass),
     ("parameter_group_name", .optional spec.parameterGroup existing.parameterGroup)]
  | .parameterGroup, existing, spec => ofGroup existing spec
  | .clusterParameterGroup, existing, spec => ofGroup existing spec
  | .subnetGroup, existing, spec =>
    [("name", .value spec.name existing.name),
     ("description", .value spec.description existing.description),
     ("subnet_ids", .identifiers spec.subnets existing.subnets)]
where
  /-- The fields of a parameter group of either scope, apart from its parameters. -/
  ofGroup (existing : ParameterGroupSnapshot) (spec : ParameterGroupSpec) :
      List (String × Field) :=
    [("name", .value spec.name existing.name),
     ("family", .value spec.family existing.family),
     ("description", .value spec.description existing.description)]

/-- The parameters that a spec declares, entry by entry. -/
def declaredParameters : (kind : ResourceKind) → kind.Spec → List Parameter
  | .cluster, _ | .dbInstance, _ | .subnetGroup, _ => []
  | .parameterGroup, spec | .clusterParameterGroup, spec => spec.parameters

/-- The values of the parameters that are set on a resource. -/
def setParameters : (kind : ResourceKind) → kind.Snapshot → ParameterMap
  | .cluster, _ | .dbInstance, _ | .subnetGroup, _ => ∅
  | .parameterGroup, existing | .clusterParameterGroup, existing => existing.parameters

/-- The drift of a resource as it is told to a reader. -/
def lines (kind : ResourceKind) (existing : kind.Snapshot) (spec : kind.Spec) : List String :=
  (of kind existing spec).map Mismatch.text

/-! ## At most one line for each comparison -/

/-- Comparing texts gives one line at most. -/
theorem length_compare_le (field desired actual : String) :
    (compare field desired actual).length ≤ 1 := by
  unfold compare
  split <;> simp

/-- Comparing a declared value gives one line at most. -/
theorem length_compareDeclared_le (field : String) (desired actual : Option String) :
    (compareDeclared field desired actual).length ≤ 1 := by
  cases desired with
  | none => simp [compareDeclared]
  | some value => exact length_compare_le field value _

/-- Comparing lists of names gives one line at most. -/
theorem length_compareMembers_le (field : String) (desired actual : List String) :
    (compareMembers field desired actual).length ≤ 1 := by
  simp only [compareMembers]
  split <;> simp

/-- Comparing a parameter gives one line at most. -/
theorem length_compareParameter_le (actual : ParameterMap) (desired : Parameter) :
    (compareParameter actual desired).length ≤ 1 := by
  unfold compareParameter
  split
  · exact length_compare_le _ _ _
  · simp

/-- A report of one line at most has one line exactly when something is to report. -/
theorem length_eq_ite {p : Prop} [Decidable p] {mismatches : List Mismatch}
    (hle : mismatches.length ≤ 1) (hnil : mismatches = [] ↔ p) :
    mismatches.length = if p then 0 else 1 := by
  rw [← List.length_eq_zero_iff] at hnil
  split
  · next h => exact hnil.mpr h
  · next h =>
    have hne : mismatches.length ≠ 0 := fun hzero => h (hnil.mp hzero)
    omega

/-! ## Reports -/

/-- The part of a report that is about one field. -/
def ofField (name : String) : Field → List Mismatch
  | .value desired actual => compare name desired actual
  | .optional desired actual => compareDeclared name desired actual
  | .identifiers desired actual => compareMembers name desired actual

/-- A report goes through the fields and then through the declared parameters. -/
theorem of_eq_flatMap (kind : ResourceKind) (existing : kind.Snapshot) (spec : kind.Spec) :
    of kind existing spec =
      (fields kind existing spec).flatMap (fun field => ofField field.1 field.2) ++
        (declaredParameters kind spec).flatMap
          (compareParameter (setParameters kind existing)) := by
  cases kind with
  | cluster => simp [of, ofCluster, fields, ofField, declaredParameters]
  | dbInstance => simp [of, ofInstance, fields, ofField, declaredParameters]
  | parameterGroup =>
    simp [of, ofParameterGroup, fields, fields.ofGroup, ofField, declaredParameters,
      setParameters]
  | clusterParameterGroup =>
    simp [of, ofParameterGroup, fields, fields.ofGroup, ofField, declaredParameters,
      setParameters]
  | subnetGroup => simp [of, ofSubnetGroup, fields, ofField, declaredParameters]

/-- A field is reported with one line when it differs, and with none when it agrees. -/
theorem length_ofField (name : String) (field : Field) :
    (ofField name field).length = if field.Agrees then 0 else 1 := by
  cases field <;> unfold ofField
  case value desired actual =>
    exact length_eq_ite (length_compare_le name desired actual)
      (compare_eq_nil_iff.trans eq_comm)
  case optional desired actual =>
    refine length_eq_ite (length_compareDeclared_le name desired actual) ?_
    rw [compareDeclared_eq_nil_iff]
    constructor
    · intro h value hvalue
      exact (h value hvalue).symm
    · intro h value hvalue
      exact (h value hvalue).symm
  case identifiers desired actual =>
    refine length_eq_ite (length_compareMembers_le name desired actual) ?_
    rw [compareMembers_eq_nil_iff, eq_comm]
    exact ascending_eq_iff

/-- A parameter is reported with one line when it is not set as declared, and with none when it
is. -/
theorem length_compareParameter (actual : ParameterMap) (desired : Parameter) :
    (compareParameter actual desired).length =
      if actual[desired.name]? = some desired.value then 0 else 1 :=
  length_eq_ite (length_compareParameter_le actual desired) compareParameter_eq_nil_iff

/-- Where each item that fails a condition gives one line and any other item none, the lines are as
many as the items that fail it. -/
theorem length_flatMap_eq_countP {α : Type} {p : α → Prop} [DecidablePred p]
    {report : α → List Mismatch} (h : ∀ a, (report a).length = if p a then 0 else 1)
    (items : List α) : (items.flatMap report).length = items.countP fun a => ¬ p a := by
  induction items with
  | nil => rfl
  | cons a rest ih =>
    rw [List.flatMap_cons, List.length_append, ih, h, List.countP_cons]
    by_cases ha : p a
    · simp [ha]
    · simp [ha, Nat.add_comm]

/-- A report has one line for each field that is not as desired and one for each declared parameter
that is not set to its value. -/
theorem length_lines (kind : ResourceKind) (existing : kind.Snapshot) (spec : kind.Spec) :
    (lines kind existing spec).length =
      ((fields kind existing spec).countP fun field => ¬ field.2.Agrees) +
        (declaredParameters kind spec).countP fun parameter =>
          ¬ (setParameters kind existing)[parameter.name]? = some parameter.value := by
  unfold lines
  rw [List.length_map, of_eq_flatMap, List.length_append,
    length_flatMap_eq_countP (length_compareParameter (setParameters kind existing))]
  congr 1
  exact length_flatMap_eq_countP (p := fun field : String × Field => field.2.Agrees)
    (fun field => length_ofField field.1 field.2) _

/-- Nothing is reported exactly when every field agrees and every declared parameter is set. -/
theorem lines_eq_nil_iff (kind : ResourceKind) (existing : kind.Snapshot) (spec : kind.Spec) :
    lines kind existing spec = [] ↔
      (∀ field ∈ fields kind existing spec, field.2.Agrees) ∧
        ∀ parameter ∈ declaredParameters kind spec,
          (setParameters kind existing)[parameter.name]? = some parameter.value := by
  rw [← List.length_eq_zero_iff, length_lines, Nat.add_eq_zero_iff, List.countP_eq_zero,
    List.countP_eq_zero]
  simp only [decide_eq_true_eq, Decidable.not_not]

/-! ## Lists with the same identifiers -/

/-- Lists of names are reported alike when they are equal as sets. -/
theorem compareMembers_congr {field : String} {desired desired' actual actual' : List String}
    (hdesired : ∀ name, name ∈ desired' ↔ name ∈ desired)
    (hactual : ∀ name, name ∈ actual' ↔ name ∈ actual) :
    compareMembers field desired' actual' = compareMembers field desired actual := by
  unfold compareMembers
  rw [ascending_eq_iff.mpr hdesired, ascending_eq_iff.mpr hactual]
  simp only [hdesired, hactual]

/-- A drift report is empty exactly when all that is compared agrees, and otherwise has a line for
each field that does not agree and for each declared parameter without its value. The whole report
on a cluster or a subnet group stays the same when its lists of identifiers are put in another
order or repeat their members. -/
theorem reports_are_exact :
    (∀ (kind : ResourceKind) (existing : kind.Snapshot) (spec : kind.Spec),
      (lines kind existing spec = [] ↔
        (∀ field ∈ fields kind existing spec, field.2.Agrees) ∧
          ∀ parameter ∈ declaredParameters kind spec,
            (setParameters kind existing)[parameter.name]? = some parameter.value) ∧
      (lines kind existing spec).length =
        ((fields kind existing spec).countP fun field => ¬ field.2.Agrees) +
          (declaredParameters kind spec).countP fun parameter =>
            ¬ (setParameters kind existing)[parameter.name]? = some parameter.value) ∧
    (∀ (existing : ClusterSnapshot) (spec : ClusterSpec) (found declared : List String),
      (∀ name, name ∈ found ↔ name ∈ existing.securityGroups) →
      (∀ name, name ∈ declared ↔ name ∈ spec.securityGroups) →
      lines .cluster { existing with securityGroups := found }
        { spec with securityGroups := declared } = lines .cluster existing spec) ∧
    (∀ (existing : SubnetGroupSnapshot) (spec : SubnetGroupSpec) (found declared : List String),
      (∀ name, name ∈ found ↔ name ∈ existing.subnets) →
      (∀ name, name ∈ declared ↔ name ∈ spec.subnets) →
      lines .subnetGroup { existing with subnets := found } { spec with subnets := declared } =
        lines .subnetGroup existing spec) := by
  refine ⟨?exact, ?cluster, ?subnetGroup⟩
  case exact =>
    intro kind existing spec
    exact ⟨lines_eq_nil_iff kind existing spec, length_lines kind existing spec⟩
  case cluster =>
    intro existing spec found declared hfound hdeclared
    simp only [lines, of, ofCluster, compareMembers_congr hdeclared hfound]
  case subnetGroup =>
    intro existing spec found declared hfound hdeclared
    simp only [lines, of, ofSubnetGroup, compareMembers_congr hdeclared hfound]

/-- A cluster with two security groups. -/
def grouped : ClusterSnapshot :=
  ⟨"db1", available, "aurora-mysql", "8.0", "admin", ["sg-2", "sg-1"], none, none, none, none⟩

/-- A spec that desires another security group in place of one of those. -/
def regrouping : ClusterSpec :=
  ⟨"db1", "aurora-mysql", none, "admin", "secret", ["sg-1", "sg-3"], none, none⟩

/-- A report over security groups is the same when the names come in another order or repeated. -/
theorem reports_are_exact_grouped :
    lines .cluster grouped regrouping =
      ["security_group_ids mismatch: missing [sg-3], unexpected [sg-2]"] ∧
    (∀ name, name ∈ ["sg-1", "sg-2", "sg-1"] ↔ name ∈ grouped.securityGroups) ∧
    (∀ name, name ∈ ["sg-3", "sg-1"] ↔ name ∈ regrouping.securityGroups) ∧
    lines .cluster { grouped with securityGroups := ["sg-1", "sg-2", "sg-1"] }
      { regrouping with securityGroups := ["sg-3", "sg-1"] } =
        lines .cluster grouped regrouping := by
  have hfound : ∀ name, name ∈ ["sg-1", "sg-2", "sg-1"] ↔ name ∈ grouped.securityGroups := by
    simp [grouped, or_comm]
  have hdeclared : ∀ name, name ∈ ["sg-3", "sg-1"] ↔ name ∈ regrouping.securityGroups := by
    simp [regrouping, or_comm]
  exact ⟨by decide +kernel, hfound, hdeclared,
    reports_are_exact.2.1 grouped regrouping _ _ hfound hdeclared⟩

end Reconciler.Drift
