import Reconciler.Json.Reader
import Reconciler.Proofs.Json.Reordered

/-!
# Reading records back

What is written is read back in whatever order its members come (`Restores`). A reader of a record
leaves the members of an object as they are, so it is enough to say which value each field has
(`Reads`); the fields of an object are put together by `Reads.bind`.
-/

set_option autoImplicit false

namespace Reconciler.Json

/-! ## Written records -/

/-- The members of a record that are not left out. -/
def written (members : List (String × Option Json)) : List (String × Json) :=
  members.filterMap fun member => member.2.map (member.1, ·)

/-- The members that are written are those with a value. -/
theorem mem_written {members : List (String × Option Json)} {member : String × Json} :
    member ∈ written members ↔ (member.1, some member.2) ∈ members := by
  rw [written, List.mem_filterMap]
  constructor
  · rintro ⟨⟨name, value⟩, hmember, hvalue⟩
    obtain ⟨json, rfl, rfl⟩ := Option.map_eq_some_iff.mp hvalue
    exact hmember
  · exact fun hmember => ⟨_, hmember, rfl⟩

/-- What is written under a name are the values that the members of that name have. -/
theorem named_written (members : List (String × Option Json)) (name : String) :
    named (written members) name =
      members.filterMap fun member => if member.1 = name then member.2 else none := by
  rw [named, written, List.filterMap_filterMap]
  congr 1
  funext member
  obtain ⟨other, _ | value⟩ := member
  · simp
  · rfl

variable {room : Nat}

/-- A record is plain when the values of its members are plain with one level less. -/
theorem plain_ofMembers {members : List (String × Option Json)}
    (h : ∀ member ∈ members, ∀ json ∈ member.2, Plain room json) :
    Plain (room + 1) (ofMembers members) := by
  exact .obj fun member hmember => h _ (mem_written.mp hmember) _ rfl

/-- A text that may be absent is plain where it is there. -/
theorem plain_ofText? (text : Option String) : ∀ json ∈ text.map Json.str, Plain room json := by
  rintro json hjson
  obtain ⟨value, -, rfl⟩ := Option.map_eq_some_iff.mp hjson
  exact .str room value

/-- A list is plain when all its values are plain with one level less. -/
theorem plain_arr_map {α : Type} {values : List α} {write : α → Json}
    (h : ∀ value, Plain room (write value)) : Plain (room + 1) (.arr (values.map write)) := by
  refine .arr fun item hitem => ?_
  obtain ⟨value, -, rfl⟩ := List.mem_map.mp hitem
  exact h value

/-- A list of texts is plain. -/
theorem plain_ofTexts (texts : List String) : Plain (room + 1) (ofTexts texts) :=
  plain_arr_map (.str room)

/-- A signed whole number of 64 bits is plain. -/
theorem plain_int (n : Int64) : Plain room (.int n.toInt) :=
  .int n.minValue_le_toInt (Int.lt_of_le_of_lt n.toInt_le (by decide))

/-- A natural number below the limit of 64 bits is plain. -/
theorem plain_ofNat {n : Nat} (h : n < UInt64.size) : Plain room (ofNat n) := by
  refine .int (Int.le_trans ?_ (Int.natCast_nonneg n)) (Int.ofNat_lt.mpr h)
  decide

/-- Items that are readable one by one are readable together. -/
theorem readableItems_of {items : List Json} (h : ∀ item ∈ items, item.readable = true) :
    readableItems items = true := by
  induction items with
  | nil => rfl
  | cons item rest ih =>
    rw [readableItems, h item List.mem_cons_self, Bool.true_and]
    exact ih fun other hother => h other (List.mem_cons_of_mem _ hother)

/-- Members that are readable one by one are readable together. -/
theorem readableMembers_of {members : List (String × Json)}
    (h : ∀ member ∈ members, member.2.readable = true) : readableMembers members = true := by
  induction members with
  | nil => rfl
  | cons member rest ih =>
    rw [readableMembers, h member List.mem_cons_self, Bool.true_and]
    exact ih fun other hother => h other (List.mem_cons_of_mem _ hother)

/-- A plain value is readable. -/
theorem Plain.readable {json : Json} (h : Plain room json) : json.readable = true := by
  induction h with
  | null room => rfl
  | bool room value => rfl
  | int hlow hhigh => rfl
  | str room value => rfl
  | arr hitems ih => exact readableItems_of ih
  | obj hmembers ih => exact readableMembers_of ih

/-- A plain value can be copied. -/
theorem Plain.copied? {json : Json} (h : Plain room json) : json.copied? = some json := by
  rw [Json.copied?, h.readable, if_pos rfl]

/-! ## Single values -/

/-- A whole number within a range is read as itself. -/
theorem toIntWithin?_of_le {low high value : Int} (hlow : low ≤ value) (hhigh : value ≤ high) :
    toIntWithin? low high (.int value) = some value :=
  if_pos ⟨hlow, hhigh⟩

/-- An unsigned number of 32 bits is read back. -/
@[simp]
theorem toUInt32?_ofNat (n : UInt32) : toUInt32? (ofNat n.toNat) = some n := by
  have hbound := n.toNat_lt_size
  rw [toUInt32?, ofNat, toIntWithin?_of_le (by omega) (by omega)]
  simp

/-- A number of 32 bits is read from the whole number that is written for it and from nothing
else. -/
theorem toUInt32?_eq_some_iff {json : Json} {n : UInt32} :
    toUInt32? json = some n ↔ json = ofNat n.toNat := by
  constructor
  · intro h
    obtain ⟨value, hvalue, rfl⟩ := Option.map_eq_some_iff.mp h
    cases json with
    | int whole =>
      simp only [toIntWithin?] at hvalue
      split at hvalue
      · next hrange =>
        cases hvalue
        have hsize : value.toNat < UInt32.size := by omega
        rw [ofNat, UInt32.toNat_ofNat_of_lt' hsize, Int.toNat_of_nonneg hrange.1]
      · cases hvalue
    | _ => cases hvalue
  · intro h
    rw [h, toUInt32?_ofNat]

/-- A truth value is read from itself only. -/
theorem toBool?_eq_some_iff {json : Json} {value : Bool} :
    toBool? json = some value ↔ json = .bool value := by
  cases json <;> simp [toBool?]

/-- An unsigned number of 64 bits is read back. -/
@[simp]
theorem toUInt64?_ofNat (n : UInt64) : toUInt64? (ofNat n.toNat) = some n := by
  have hbound := n.toNat_lt_size
  rw [toUInt64?, ofNat, toIntWithin?_of_le (by omega) (by omega)]
  simp

/-- A signed number of 64 bits is read back. -/
@[simp]
theorem toInt64?_int (n : Int64) : toInt64? (.int n.toInt) = some n := by
  rw [toInt64?, toIntWithin?_of_le n.minValue_le_toInt n.toInt_le]
  simp

/-! ## Values in any order -/

/-- Whatever the order of its members, a value is read as the one it was written for. -/
def Restores {α : Type} (read : Json → Option α) (json : Json) (value : α) : Prop :=
  ∀ other, json.Reordered other → read other = some value

variable {α β : Type} {read : Json → Option α} {json : Json} {value : α}

/-- What is read back in any order is read back in the order in which it was written. -/
theorem Restores.read_eq (h : Restores read json value) : read json = some value :=
  h json (.refl json)

/-- A value with one order only is read back when it is read in that order. -/
theorem Rigid.restores (h : Rigid json) (hread : read json = some value) :
    Restores read json value := by
  intro other hother
  rw [h other hother, hread]

/-- A text is read back. -/
theorem restores_text (text : String) : Restores asText? (.str text) text :=
  (rigid_str text).restores rfl

/-- An unsigned number of 32 bits is read back, in the one order that it has. -/
theorem restores_uInt32 (n : UInt32) : Restores toUInt32? (ofNat n.toNat) n :=
  (rigid_int _).restores (toUInt32?_ofNat n)

/-- An unsigned number of 64 bits is read back, in the one order that it has. -/
theorem restores_uInt64 (n : UInt64) : Restores toUInt64? (ofNat n.toNat) n :=
  (rigid_int _).restores (toUInt64?_ofNat n)

/-- A list is read back when its values are. -/
theorem restores_list {write : α → Json} (h : ∀ value, Restores read (write value) value)
    (values : List α) : Restores (toList? read) (.arr (values.map write)) values := by
  intro other hother
  obtain ⟨others, rfl, hitems⟩ := hother.exists_items
  rw [List.forall₂_map_left_iff] at hitems
  rw [toList?]
  clear hother
  induction hitems with
  | nil => rfl
  | cons hitem _ ih => simp [h _ _ hitem, ih]

/-- A list of texts is read back. -/
theorem restores_texts (texts : List String) : Restores toTexts? (ofTexts texts) texts :=
  restores_list restores_text texts

/-- A value that is not `null` is read back where `null` could stand as well. -/
theorem Restores.orNull (h : Restores read json value) (hnull : json.isNull = false) :
    Restores (orNull read) json (some value) := by
  intro other hother
  have hread := h other hother
  rw [← hother.isNull_eq] at hnull
  cases other with
  | null => cases hnull
  | _ => exact congrArg (Option.map some) hread

/-- A tag is split off wherever it stands, and the other members stay. -/
theorem exists_fields {name tag : String} {declared : List (String × Json)} {other : Json}
    (h : (obj ((name, .str tag) :: declared)).Reordered other)
    (hdeclared : named declared name = []) :
    ∃ fields, toTagged? name other = some (tag, fields) ∧ (obj declared).Reordered fields := by
  obtain ⟨members, rfl, hmembers⟩ := h.exists_members
  have htag : named ((name, .str tag) :: declared) name = [.str tag] := by
    rw [named_cons, if_pos rfl, hdeclared]
  refine ⟨.obj (members.filter (·.1 ≠ name)), ?_, .obj fun field => ?_⟩
  · rw [toTagged?, hmembers.named_eq htag (rigid_str tag)]
  · rw [named_filter_ne]
    by_cases hfield : field = name
    · rw [if_pos hfield, hfield, hdeclared]
      exact .nil
    · have hvalues := hmembers field
      rw [named_cons, if_neg (Ne.symm hfield)] at hvalues
      rwa [if_neg hfield]

/-! ## Fields -/

/-- A reader that gives a value for the members of an object and leaves them as they are. -/
def Reads {α : Type} (members : List (String × Json)) (reader : Reader α) (value : α) : Prop :=
  reader (.named members) = some (value, .named members)

variable {members : List (String × Json)} {name : String}

/-- A finished reader gives its value. -/
theorem reads_pure (value : α) : Reads members (pure value) value := rfl

/-- The fields of a record are read one after the other. -/
theorem Reads.bind {reader : Reader α} {next : α → Reader β} {value : α} {result : β}
    (h : Reads members reader value) (hnext : Reads members (next value) result) :
    Reads members (reader >>= next) result := by
  show (reader (.named members)).bind (fun read => next read.1 read.2) = _
  rw [show reader (.named members) = _ from h]
  exact hnext

/-- What a reader gives can be worked on. -/
theorem Reads.map {reader : Reader α} {value : α} (f : α → β) (h : Reads members reader value) :
    Reads members (f <$> reader) (f value) := by
  show (reader (.named members)).bind (fun read => some (f read.1, read.2)) = _
  rw [show reader (.named members) = _ from h]
  rfl

/-- A record is read from an object when its fields are. -/
theorem Reads.toRecord? {reader : Reader α} {value : α} (h : Reads members reader value) :
    toRecord? reader (.obj members) = some value := by
  rw [Json.toRecord?, show reader (.named members) = _ from h]
  rfl

/-- A field is read from the one member with its name. -/
theorem reads_field {unnamed beyond : Option α} {json : Json} {value : α}
    (hnamed : named members name = [json]) (hread : read json = some value) :
    Reads members (Reader.field name read unnamed beyond) value := by
  simp [Reads, Reader.field, hnamed, hread]

/-- A reader that leaves the members of an object as they are, whatever it reads. -/
def Keeps {α : Type} (reader : Reader α) : Prop :=
  ∀ members value rest, reader (.named members) = some (value, rest) → rest = .named members

/-- A finished reader leaves the members as they are. -/
theorem keeps_pure (value : α) : Keeps (pure value : Reader α) := by
  intro members read rest h
  cases h
  rfl

/-- Reading a field leaves the members as they are. -/
theorem keeps_field (name : String) (read : Json → Option α) (unnamed beyond : Option α) :
    Keeps (Reader.field name read unnamed beyond) := by
  intro members value rest h
  simp only [Reader.field] at h
  split at h
  · obtain ⟨_, -, heq⟩ := Option.map_eq_some_iff.mp h
    exact (congrArg Prod.snd heq).symm
  · obtain ⟨_, -, heq⟩ := Option.map_eq_some_iff.mp h
    exact (congrArg Prod.snd heq).symm
  · cases h

/-- Readers that leave the members as they are do so one after the other. -/
theorem Keeps.bind {reader : Reader α} {next : α → Reader β} (h : Keeps reader)
    (hnext : ∀ value, Keeps (next value)) : Keeps (reader >>= next) := by
  intro members result rest hread
  obtain ⟨⟨value, left⟩, hfirst, hlater⟩ := Option.bind_eq_some_iff.mp hread
  obtain rfl := h members value left hfirst
  exact hnext value members result rest hlater

/-- A record is read from its fields exactly when each field is read from the same members. -/
theorem Keeps.reads_bind_iff {reader : Reader α} {next : α → Reader β} {result : β}
    (h : Keeps reader) :
    Reads members (reader >>= next) result ↔
      ∃ value, Reads members reader value ∧ Reads members (next value) result := by
  constructor
  · intro hread
    obtain ⟨⟨value, left⟩, hfirst, hlater⟩ := Option.bind_eq_some_iff.mp hread
    obtain rfl := h members value left hfirst
    exact ⟨value, hfirst, hlater⟩
  · rintro ⟨value, hfirst, hlater⟩
    exact hfirst.bind hlater

/-- A record is read from an object exactly when its fields are read from the members. -/
theorem Keeps.toRecord?_eq_some_iff {reader : Reader α} {value : α} (h : Keeps reader) :
    Json.toRecord? reader (.obj members) = some value ↔ Reads members reader value := by
  constructor
  · intro hread
    obtain ⟨⟨read, left⟩, hfirst, rfl⟩ := Option.map_eq_some_iff.mp hread
    obtain rfl := h members read left hfirst
    exact hfirst
  · exact Reads.toRecord?

/-- A finished reader gives its value only. -/
theorem reads_pure_iff {value read : α} : Reads members (pure value) read ↔ value = read := by
  constructor
  · intro h
    cases h
    rfl
  · rintro rfl
    exact reads_pure value

/-- What an object says of a field that may be left off: the value that it has once under the name
of the field, or else the default. -/
def Says {α : Type} (members : List (String × Json)) (name : String) (write : α → Json)
    (default value : α) : Prop :=
  named members name = [write value] ∨ named members name = [] ∧ value = default

/-- What an object says of a field depends on the members with the name of that field only. -/
theorem Says.congr {others : List (String × Json)} {write : α → Json} {default value : α}
    (h : named others name = named members name) :
    Says others name write default value ↔ Says members name write default value := by
  unfold Says
  rw [h]

/-- A field that may be left off is read as the value that the object says, and no other. -/
theorem reads_defaulted_iff {write : α → Json} {default value : α}
    (h : ∀ json value, read json = some value ↔ json = write value) :
    Reads members (Reader.defaulted name read default) value ↔
      Says members name write default value := by
  unfold Says
  match hnamed : named members name with
  | [] => simp [Reads, Reader.defaulted, Reader.field, hnamed, eq_comm]
  | [json] => simp [Reads, Reader.defaulted, Reader.field, hnamed, h]
  | _ :: _ :: _ => simp [Reads, Reader.defaulted, Reader.field, hnamed]

/-- A record is read back when its fields are read whatever the order of its members. -/
theorem restores_record {reader : Reader α} {declared : List (String × Json)}
    (h : ∀ members, Carries declared members → Reads members reader value) :
    Restores (toRecord? reader) (.obj declared) value := by
  intro other hother
  obtain ⟨members, rfl, hmembers⟩ := hother.exists_members
  exact (h members hmembers).toRecord?

namespace Carries

/-- A field that is declared once is read back from the members in any order. -/
theorem reads {declared : List (String × Json)} {unnamed beyond : Option α}
    (h : Carries declared members) (hdeclared : named declared name = [json])
    (hread : Restores read json value) :
    Reads members (Reader.field name read unnamed beyond) value := by
  obtain ⟨other, hnamed, hother⟩ := h.exists_value name hdeclared
  exact reads_field hnamed (hread other hother)

variable {declared : List (String × Option Json)}

/-- A field that is written once is read back from the members in any order. -/
theorem reads_written {unnamed beyond : Option α} (h : Carries (written declared) members)
    (hdeclared : (declared.filterMap fun member => if member.1 = name then member.2 else none) =
      [json])
    (hread : Restores read json value) :
    Reads members (Reader.field name read unnamed beyond) value :=
  h.reads ((named_written declared name).trans hdeclared) hread

/-- A field that is left out is read as what stands for it. -/
theorem reads_left_out {beyond : Option α} (h : Carries (written declared) members)
    (hdeclared : (declared.filterMap fun member => if member.1 = name then member.2 else none) =
      []) :
    Reads members (Reader.field name read (some value) beyond) value := by
  have hnamed := h.named_eq_nil ((named_written declared name).trans hdeclared)
  simp [Reads, Reader.field, hnamed]

/-- A field that may be left out is read back, left out or not. -/
theorem reads_omittable {write : α → Json} (h : Carries (written declared) members)
    (value : Option α) (hread : ∀ value, Restores read (write value) value)
    (hnull : ∀ value, (write value).isNull = false)
    (hdeclared : (declared.filterMap fun member => if member.1 = name then member.2 else none) =
      (value.map write).toList) :
    Reads members (Reader.omittable name read) value := by
  cases value with
  | none => exact h.reads_left_out hdeclared
  | some value => exact h.reads_written hdeclared ((hread value).orNull (hnull value))

/-- A text that may be left off is read back, whether it is there or not. -/
theorem reads_omittable_text (h : Carries (written declared) members) (text : Option String)
    (hdeclared : (declared.filterMap fun member => if member.1 = name then member.2 else none) =
      (text.map .str).toList) :
    Reads members (Reader.omittable name asText?) text :=
  h.reads_omittable text restores_text (fun _ => rfl) hdeclared

end Carries

end Reconciler.Json
