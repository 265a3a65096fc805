import Reconciler.Proofs.Json.Parser
import Reconciler.Proofs.Json.Reader
import Reconciler.Store.Document

/-!
# Reading documents back

What is written of an object is a plain value and is read back as the object, part by part: its
key, its manifest, its status, each in whatever order its members come. So a document is read back
as the objects it was written for.
-/

set_option autoImplicit false

namespace Reconciler

open Json

variable (room : Nat)

/-! ## Keys and specs -/

namespace Key

/-- What is written of a key is plain. -/
theorem plain_toJson (key : Key) : Plain (room + 1) key.toJson :=
  .obj (by simp [Plain.str])

/-- A key is read back from what is written of it. -/
theorem restores (key : Key) : Restores ofJson? key.toJson key := by
  refine restores_record fun members h => ?_
  refine .bind (h.reads rfl ((rigid_str _).restores (Kind.ofText?_text key.kind))) ?_
  refine .bind (h.reads rfl (restores_text _)) ?_
  exact reads_pure key

end Key

namespace ClusterSpec

/-- What is written of the spec of a cluster is plain. -/
theorem plain_toJson (spec : ClusterSpec) : Plain (room + 2) spec.toJson :=
  plain_ofMembers (by simp [plain_ofText?, plain_ofTexts])

/-- The spec of a cluster is read back from what is written of it. -/
theorem restores (spec : ClusterSpec) : Restores ofJson? spec.toJson spec := by
  refine restores_record fun members h => ?_
  refine .bind (h.reads_written rfl (restores_text _)) ?_
  refine .bind (h.reads_written rfl (restores_text _)) ?_
  refine .bind (h.reads_omittable_text spec.engineVersion
    (by cases spec.engineVersion <;> rfl)) ?_
  refine .bind (h.reads_written rfl (restores_text _)) ?_
  refine .bind (h.reads_written rfl (restores_text _)) ?_
  refine .bind (h.reads_written rfl (restores_texts _)) ?_
  refine .bind (h.reads_omittable_text spec.subnetGroup (by cases spec.subnetGroup <;> rfl)) ?_
  refine .bind (h.reads_omittable_text spec.parameterGroup
    (by cases spec.parameterGroup <;> rfl)) ?_
  exact reads_pure spec

end ClusterSpec

namespace InstanceSpec

/-- What is written of the spec of an instance is plain. -/
theorem plain_toJson (spec : InstanceSpec) : Plain (room + 1) spec.toJson := by
  refine plain_ofMembers ?_
  have hsize (size : UInt32) : Plain room (ofNat size.toNat) :=
    plain_ofNat (Nat.lt_trans size.toNat_lt_size (by decide))
  simp [plain_ofText?, hsize]

/-- The spec of an instance is read back from what is written of it. -/
theorem restores (spec : InstanceSpec) : Restores ofJson? spec.toJson spec := by
  refine restores_record fun members h => ?_
  refine .bind (h.reads_written rfl (restores_text _)) ?_
  refine .bind (h.reads_written rfl (restores_text _)) ?_
  refine .bind (h.reads_written rfl (restores_text _)) ?_
  refine .bind (h.reads_written rfl (restores_text _)) ?_
  refine .bind (h.reads_omittable spec.allocatedStorage restores_uInt32 (fun _ => rfl)
    (by cases spec.allocatedStorage <;> rfl)) ?_
  refine .bind (h.reads_omittable_text spec.parameterGroup
    (by cases spec.parameterGroup <;> rfl)) ?_
  exact reads_pure spec

end InstanceSpec

namespace Parameter

/-- What is written of a parameter is plain. -/
theorem plain_toJson (parameter : Parameter) : Plain (room + 1) parameter.toJson :=
  .obj (by simp [Plain.str])

/-- A parameter is read back from what is written of it. -/
theorem restores (parameter : Parameter) : Restores ofJson? parameter.toJson parameter := by
  refine restores_record fun members h => ?_
  refine .bind (h.reads rfl (restores_text _)) ?_
  refine .bind (h.reads rfl (restores_text _)) ?_
  exact reads_pure parameter

end Parameter

namespace ParameterGroupSpec

/-- What is written of the spec of a parameter group is plain. -/
theorem plain_toJson (spec : ParameterGroupSpec) : Plain (room + 3) spec.toJson :=
  .obj (by simp [Plain.str, plain_arr_map, Parameter.plain_toJson])

/-- The spec of a parameter group is read back from what is written of it. -/
theorem restores (spec : ParameterGroupSpec) : Restores ofJson? spec.toJson spec := by
  refine restores_record fun members h => ?_
  refine .bind (h.reads rfl (restores_text _)) ?_
  refine .bind (h.reads rfl (restores_text _)) ?_
  refine .bind (h.reads rfl (restores_text _)) ?_
  refine .bind (h.reads rfl (restores_list Parameter.restores _)) ?_
  exact reads_pure spec

end ParameterGroupSpec

namespace SubnetGroupSpec

/-- What is written of the spec of a subnet group is plain. -/
theorem plain_toJson (spec : SubnetGroupSpec) : Plain (room + 2) spec.toJson :=
  .obj (by simp [Plain.str, plain_ofTexts])

/-- The spec of a subnet group is read back from what is written of it. -/
theorem restores (spec : SubnetGroupSpec) : Restores ofJson? spec.toJson spec := by
  refine restores_record fun members h => ?_
  refine .bind (h.reads rfl (restores_text _)) ?_
  refine .bind (h.reads rfl (restores_text _)) ?_
  refine .bind (h.reads rfl (restores_texts _)) ?_
  exact reads_pure spec

end SubnetGroupSpec

namespace DeletionSpec

/-- What is written of the spec of a deletion request is plain. -/
theorem plain_toJson (spec : DeletionSpec) : Plain (room + 1) spec.toJson :=
  .obj (by simp [Plain.str])

/-- The spec of a deletion request is read back from what is written of it, as a copy or not. -/
theorem restores (origin : Origin) (spec : DeletionSpec) :
    Restores (ofJson? origin) spec.toJson spec := by
  refine restores_record fun members h => ?_
  refine .bind (h.reads rfl ((rigid_str _).restores (ResourceKind.ofText?_text spec.kind))) ?_
  refine .bind (h.reads rfl (restores_text _)) ?_
  exact reads_pure spec

end DeletionSpec

/-! ## Manifests -/

namespace ResourceKind

/-- What is written of a spec is plain, whatever its kind. -/
theorem plain_specToJson (kind : ResourceKind) (spec : kind.Spec) :
    Plain (room + 3) (kind.specToJson spec) := by
  cases kind with
  | cluster => exact ClusterSpec.plain_toJson (room + 1) spec
  | dbInstance => exact InstanceSpec.plain_toJson (room + 2) spec
  | parameterGroup => exact ParameterGroupSpec.plain_toJson room spec
  | clusterParameterGroup => exact ParameterGroupSpec.plain_toJson room spec
  | subnetGroup => exact SubnetGroupSpec.plain_toJson (room + 1) spec

/-- A spec is read back from what is written of it, whatever its kind. -/
theorem restores_spec (kind : ResourceKind) (spec : kind.Spec) :
    Restores kind.specOfJson? (kind.specToJson spec) spec := by
  cases kind with
  | cluster => exact ClusterSpec.restores spec
  | dbInstance => exact InstanceSpec.restores spec
  | parameterGroup => exact ParameterGroupSpec.restores spec
  | clusterParameterGroup => exact ParameterGroupSpec.restores spec
  | subnetGroup => exact SubnetGroupSpec.restores spec

end ResourceKind

namespace Manifest

/-- What is written of the spec in a manifest. -/
def specToJson : Manifest → Json
  | .resource kind spec => kind.specToJson spec
  | .deletion spec => spec.toJson

/-- A manifest is written with its kind and its spec. -/
theorem toJson_eq (manifest : Manifest) :
    manifest.toJson = .obj [("kind", .str manifest.kind.text), ("spec", manifest.specToJson)] := by
  cases manifest <;> rfl

/-- What is written of the spec in a manifest is plain. -/
theorem plain_specToJson (manifest : Manifest) : Plain (room + 3) manifest.specToJson := by
  cases manifest with
  | resource kind spec => exact kind.plain_specToJson room spec
  | deletion spec => exact spec.plain_toJson (room + 2)

/-- What is written of a manifest is plain. -/
theorem plain_toJson (manifest : Manifest) : Plain (room + 4) manifest.toJson := by
  rw [toJson_eq]
  exact .obj (by simp [Plain.str, plain_specToJson room manifest])

/-- The spec of a manifest is read back by its kind. -/
theorem restores_spec (origin : Origin) (manifest : Manifest) :
    Restores (ofSpec? origin manifest.kind) manifest.specToJson manifest := by
  intro other hother
  cases manifest with
  | resource kind spec => simp [ofSpec?, Manifest.kind, kind.restores_spec spec other hother]
  | deletion spec => simp [ofSpec?, Manifest.kind, spec.restores origin other hother]

/-- A manifest is read back from what is written of it. -/
theorem restores (manifest : Manifest) : Restores ofJson? manifest.toJson manifest := by
  rw [toJson_eq]
  intro other hother
  obtain ⟨members, rfl, hmembers⟩ := hother.exists_members
  have hkind : named members "kind" = [.str manifest.kind.text] :=
    hmembers.named_eq rfl (rigid_str _)
  obtain ⟨spec, hspec, hsame⟩ := hmembers.exists_value "spec" rfl
  have hread : kindOfJson? (.str manifest.kind.text) = some manifest.kind :=
    Kind.ofText?_text manifest.kind
  have hcopied : spec.copied? = some spec :=
    ((plain_specToJson 0 manifest).reordered hsame).copied?
  rcases filter_pair_cases (by decide) hkind hspec with hfilter | hfilter
  · rw [ofJson?, hfilter]
    simp [hread, restores_spec .text manifest spec hsame]
  · rw [ofJson?, hfilter]
    simp [hread, hcopied, restores_spec .copy manifest spec hsame]

end Manifest

/-! ## Statuses -/

namespace Attributes

/-- What is written of attributes is plain. -/
theorem plain_toJson (attributes : Attributes) : Plain (room + 1) attributes.toJson :=
  plain_ofMembers (by simp [plain_ofText?])

/-- Attributes are read back from what is written of them. -/
theorem restores (attributes : Attributes) :
    Restores ofJson? attributes.toJson attributes := by
  refine restores_record fun members h => ?_
  refine .bind (h.reads_omittable_text attributes.identifier
    (by cases attributes.identifier <;> rfl)) ?_
  refine .bind (h.reads_omittable_text attributes.cluster
    (by cases attributes.cluster <;> rfl)) ?_
  refine .bind (h.reads_omittable_text attributes.endpoint
    (by cases attributes.endpoint <;> rfl)) ?_
  refine .bind (h.reads_omittable_text attributes.readerEndpoint
    (by cases attributes.readerEndpoint <;> rfl)) ?_
  exact reads_pure attributes

end Attributes

namespace LifecycleStatus

/-- What is written of the parts of a lifecycle status is plain. -/
theorem plain_members (status : LifecycleStatus) :
    ∀ member ∈ status.members, ∀ json ∈ member.2, Plain (room + 1) json := by
  have hresolved : ∀ json ∈ (if status.resolved.isEmpty then none else
      some status.resolved.toJson), Plain (room + 1) json := by
    intro json hjson
    split at hjson
    · cases hjson
    · cases hjson
      exact Attributes.plain_toJson room _
  simpa [members, Plain.str, plain_int] using hresolved

/-- A lifecycle status is read back from a copy of what is written of it. -/
theorem restores (status : LifecycleStatus) : Restores (ofJson? .copy) status.toJson status := by
  refine restores_record fun others h => ?_
  refine .bind (h.reads_written rfl
    ((rigid_str _).restores (LifecycleState.ofText?_text status.state))) ?_
  refine .bind (h.reads_written rfl
    ((rigid_int _).restores (toInt64?_int status.readySince))) ?_
  cases hempty : status.resolved.isEmpty with
  | true =>
    refine .bind (h.reads_left_out (by simp [members, hempty])) ?_
    rw [← of_decide_eq_true hempty]
    exact reads_pure status
  | false =>
    refine .bind (h.reads_written (by simp [members, hempty]) status.resolved.restores) ?_
    exact reads_pure status

end LifecycleStatus

namespace Status

/-- What is written of a status is plain. -/
theorem plain_toJson (status : Status) : Plain (room + 2) status.toJson := by
  cases status with
  | lifecycle status =>
    refine plain_ofMembers (List.forall_mem_cons.mpr ⟨?_, status.plain_members room⟩)
    rintro json ⟨⟩
    exact .str _ _
  | deletion state => exact plain_ofMembers (by simp [DeletionState.members, Plain.str])

/-- A status is read back from what is written of it. -/
theorem restores (status : Status) : Restores ofJson? status.toJson status := by
  intro other hother
  rw [ofJson?, ((plain_toJson 0 status).reordered hother).copied?]
  cases status with
  | lifecycle status =>
    obtain ⟨fields, htagged, hfields⟩ := exists_fields hother (named_written status.members _)
    simp [htagged, status.restores fields hfields]
  | deletion state =>
    obtain ⟨fields, htagged, hfields⟩ := exists_fields hother (named_written state.members _)
    have hstate : DeletionState.ofJson? .copy fields = some state := by
      refine restores_record (fun members h => ?_) fields hfields
      exact h.reads_written rfl ((rigid_str _).restores (DeletionState.ofText?_text state))
    simp [htagged, hstate]

end Status

/-! ## Objects and documents -/

namespace Declaration

/-- What is written of an object is plain. -/
theorem plain_toJson (object : Declaration) : Plain (room + 5) object.toJson := by
  refine .obj ?_
  simp [Key.plain_toJson (room + 3), plain_ofNat object.version.toNat_lt_size,
    Manifest.plain_toJson room, Status.plain_toJson (room + 2)]

/-- An object is read back from what is written of it. -/
theorem restores (object : Declaration) : Restores ofJson? object.toJson object := by
  refine restores_record fun members h => ?_
  refine .bind (h.reads rfl object.key.restores) ?_
  refine .bind (h.reads rfl (restores_uInt64 object.version)) ?_
  refine .bind (h.reads rfl object.manifest.restores) ?_
  refine .bind (h.reads rfl object.status.restores) ?_
  exact reads_pure object

end Declaration

namespace Document

/-- What is written of a list of objects is plain. -/
theorem plain_toJson (objects : List Declaration) : Plain (room + 7) (toJson objects) :=
  .obj (by simp [Plain.str, plain_arr_map, Declaration.plain_toJson room])

/-- A document is read back as the objects that it was written for. -/
theorem read?_write (objects : List Declaration) : read? (write objects) = some objects := by
  rw [read?, write, (plain_toJson 120 objects).parse?_pretty, Option.bind_some]
  refine Reads.toRecord? ?_
  refine .bind (reads_field rfl rfl) ?_
  exact reads_field rfl (restores_list Declaration.restores objects).read_eq

end Document

end Reconciler
