import Mathlib.Data.List.DropRight
import Reconciler.Proofs.Site.Commits
import Reconciler.Proofs.Store.Keyed

/-!
# A table and its write log

The operations that take effect on a table that is empty at first make up its write log, and the
log tells all that the table holds. An object is there when the last that was done to its spec
was to declare it; the log since the declaration that brought it in gives its spec, its version
and its status (`Records`). Each operation keeps that relation (`Records.onTable`).
-/

set_option autoImplicit false

namespace Reconciler

/-! ## The log -/

namespace Operation

/-- Whether an operation writes to a table. What is refused and what only looks does not. -/
def takesEffect (table : Table) : Operation → Bool
  | .get _ => false
  | .apply name manifest => (table.apply name manifest).isOk
  | .delete key => (table.delete key).1
  | .updateStatus key expected status => (table.updateStatus key expected status).isOk

/-- Whether an operation is for writing the object under a key. -/
def isOn (key : Key) : Operation → Bool
  | .get _ => false
  | .apply name manifest => decide (⟨manifest.kind, name⟩ = key)
  | .delete other => decide (other = key)
  | .updateStatus other _ _ => decide (other = key)

/-- The spec that an operation declares. -/
def manifest? : Operation → Option Manifest
  | .apply _ manifest => some manifest
  | _ => none

/-- The status that an operation commits. -/
def status? : Operation → Option Status
  | .updateStatus _ _ status => some status
  | _ => none

/-- Whether an operation declares or removes an object. -/
def isOnSpec : Operation → Bool
  | .apply .. => true
  | .delete _ => true
  | _ => false

end Operation

namespace Table

/-- Those of some operations in a row that take effect. -/
def log (table : Table) : List Operation → List Operation
  | [] => []
  | operation :: rest =>
    if operation.takesEffect table then operation :: (operation.onTable table).log rest
    else (operation.onTable table).log rest

/-- The part of the log that is about the object under one key. -/
def logOn (table : Table) (key : Key) (operations : List Operation) : List Operation :=
  (table.log operations).filter (·.isOn key)

end Table

def lastManifest? (log : List Operation) : Option Manifest :=
  (log.filterMap Operation.manifest?).getLast?

def lastStatus? (log : List Operation) : Option Status :=
  (log.filterMap Operation.status?).getLast?

/-- What the log of a key tells about the object under that key. -/
inductive Records (key : Key) : List Operation → Option Declaration → Prop where
  /-- The object was never declared, or was removed last. -/
  | absent {log : List Operation} (hlast : ∀ last ∈ log.getLast?, last = .delete key) :
      Records key log none
  /-- An operation brought the object in, and it has not been removed since. -/
  | present {before since : List Operation} {name : String} {first : Manifest}
      {object : Declaration} (hnew : ∀ last ∈ before.getLast?, last = .delete key)
      (hkept : .delete key ∉ since) (hkey : object.key = key)
      (hversion : object.version = UInt64.ofNat (1 + since.length))
      (hmanifest : lastManifest? (.apply name first :: since) = some object.manifest)
      (hkind : object.manifest.kind = key.kind)
      (hstatus : object.status = (lastStatus? since).getD (.initial key.kind))
      (hfits : object.status.fits key.kind = true) :
      Records key (before ++ .apply name first :: since) (some object)

variable {table : Table} {key : Key} {operation : Operation}

/-! ## One operation -/

/-- A text is blank when nothing is left of it between the white space at its two ends. -/
theorem Text.trim_eq_empty_iff (text : String) : trim text = "" ↔ isBlank text = true := by
  rw [trim, String.ofList_eq_empty_iff, ← List.rdropWhile, List.rdropWhile_eq_nil_iff, isBlank,
    List.all_eq_true]
  constructor
  · intro h c hc
    rw [← List.takeWhile_append_dropWhile (p := isBlankChar) (l := text.toList)] at hc
    rcases List.mem_append.mp hc with htaken | hleft
    · exact List.mem_takeWhile_imp htaken
    · exact h c hleft
  · intro h c hc
    exact h c (List.dropWhile_subset _ hc)

/-- A spec takes effect exactly when its name is not blank. -/
theorem Table.takesEffect_apply_iff (name : String) (manifest : Manifest) :
    (Operation.apply name manifest).takesEffect table = true ↔ Text.isBlank name = false := by
  rw [Operation.takesEffect, isOk_apply, Bool.not_eq_true']

/-- A status takes effect exactly when it would be committed. -/
theorem Table.takesEffect_updateStatus_iff (expected : UInt64) (status : Status) :
    (Operation.updateStatus key expected status).takesEffect table = true ↔
      table.Accepts key expected status := by
  rw [Operation.takesEffect, Accepts]
  cases table.updateStatus key expected status with
  | error error => simp [Except.isOk, Except.toBool]
  | ok result => exact iff_of_true rfl ⟨result.1, result.2, rfl⟩

/-- An operation that does not take effect leaves the table alone. -/
theorem Table.onTable_of_no_effect (h : operation.takesEffect table = false) :
    operation.onTable table = table := by
  cases operation with
  | get key => rfl
  | apply name manifest =>
    rw [Operation.takesEffect, isOk_apply, Bool.not_eq_false'] at h
    exact get?_applied_of_blank manifest h
  | delete key => exact delete_snd_of_absent (Prod.ext h rfl)
  | updateStatus key expected status =>
    rw [Operation.takesEffect] at h
    rw [Operation.onTable, offered]
    cases hresult : table.updateStatus key expected status with
    | error error => rfl
    | ok result =>
      rw [hresult] at h
      cases h

/-- An operation on other objects keeps the one under a key. -/
theorem Table.get?_onTable_of_not_on (h : operation.isOn key = false) :
    (operation.onTable table).get? key = table.get? key := by
  cases operation with
  | get other => rfl
  | apply name manifest => exact get?_applied_of_ne (of_decide_eq_false h)
  | delete other =>
    rw [Operation.onTable, get?_delete, if_neg (of_decide_eq_false h)]
  | updateStatus other expected status =>
    exact get?_offered_of_ne expected status (of_decide_eq_false h)

/-- A status that is accepted is that of the object from then on, one version further. -/
theorem Table.get?_offered_of_accepts {expected : UInt64} {status : Status}
    (h : table.Accepts key expected status) :
    ∃ object, table.get? key = some object ∧ status.fits key.kind = true ∧
      (table.offered key expected status).get? key =
        some { object with status, version := object.version + 1 } := by
  obtain ⟨hfits, -⟩ := (table.accepts_iff key expected status).mp h
  obtain ⟨version, after, hresult⟩ := h
  obtain ⟨hversion, -⟩ := version_of_updateStatus hresult
  cases hobject : table.get? key with
  | none => simp [updateStatus, show table.objects[key]? = none from hobject] at hresult
  | some object =>
    refine ⟨object, rfl, hfits, ?_⟩
    rw [version?, hobject] at hversion
    cases hversion
    rw [offered, hresult]
    show after.get? key = _
    rw [get?_of_updateStatus hresult, if_pos rfl, hobject]
    rfl

/-! ## The log of one more operation -/

/-- The last spec of two logs is that of the second, if it has one, and else that of the first. -/
theorem lastManifest?_append (before since : List Operation) :
    lastManifest? (before ++ since) = (lastManifest? since).or (lastManifest? before) := by
  rw [lastManifest?, List.filterMap_append, List.getLast?_append]
  rfl

/-- The last spec is the one that was declared last, or the one before. -/
theorem lastManifest?_concat (log : List Operation) (operation : Operation) :
    lastManifest? (log ++ [operation]) = operation.manifest?.or (lastManifest? log) := by
  rw [lastManifest?_append]
  cases operation <;> rfl

/-- The last status is the one that was committed last, or the one before. -/
theorem lastStatus?_concat (log : List Operation) (operation : Operation) :
    lastStatus? (log ++ [operation]) = operation.status?.or (lastStatus? log) := by
  rw [lastStatus?, List.filterMap_append, List.getLast?_append, List.filterMap_cons,
    List.filterMap_nil]
  cases operation <;> rfl

/-- One operation more adds one to the version that a log gives. -/
theorem ofNat_one_add_length_concat (since : List Operation) (operation : Operation) :
    UInt64.ofNat (1 + (since ++ [operation]).length) = UInt64.ofNat (1 + since.length) + 1 := by
  rw [List.length_append, List.length_singleton, ← Nat.add_assoc, ofNat_succ]

/-- A spec that is declared brings an object in or replaces its spec. -/
theorem Records.applied {log : List Operation} (h : Records key log (table.get? key))
    {name : String} {manifest : Manifest} (hkey : ⟨manifest.kind, name⟩ = key)
    (hblank : Text.isBlank name = false) :
    Records key (log ++ [.apply name manifest])
      ((table.applied name manifest).get? key) := by
  subst hkey
  rw [Table.get?_applied_self manifest hblank]
  cases hobject : table.get? ⟨manifest.kind, name⟩ with
  | none =>
    rw [hobject] at h
    cases h with
    | absent hlast => exact .present hlast (by simp) rfl rfl rfl rfl rfl (Status.fits_initial _)
  | some object =>
    rw [hobject] at h
    cases h with
    | @present before since first _ _ hnew hkept hkey hversion hmanifest hkind hstatus hfits =>
      rw [List.append_assoc, List.cons_append]
      refine .present hnew (by simpa using hkept) hkey ?_ ?_ rfl ?_ hfits
      · rw [ofNat_one_add_length_concat, ← hversion]
        rfl
      · rw [← List.cons_append, lastManifest?_concat]
        rfl
      · rw [lastStatus?_concat]
        exact hstatus

/-- An object that is removed is not there. -/
theorem Records.deleted {log : List Operation} :
    Records key (log ++ [.delete key]) ((table.delete key).2.get? key) := by
  rw [Table.get?_delete, if_pos rfl]
  refine .absent fun last hlast => ?_
  simpa using hlast.symm

/-- A status that is committed becomes that of the object. -/
theorem Records.offered {log : List Operation} (h : Records key log (table.get? key))
    {expected : UInt64} {status : Status} (haccepts : table.Accepts key expected status) :
    Records key (log ++ [.updateStatus key expected status])
      ((table.offered key expected status).get? key) := by
  obtain ⟨object, hobject, hfitting, hget⟩ := Table.get?_offered_of_accepts haccepts
  rw [hget]
  rw [hobject] at h
  cases h with
  | present hnew hkept hkey hversion hmanifest hkind hstatus hfits =>
    rw [List.append_assoc, List.cons_append]
    refine .present hnew (by simpa using hkept) hkey ?_ ?_ hkind ?_ hfitting
    · rw [ofNat_one_add_length_concat, ← hversion]
    · rw [← List.cons_append, lastManifest?_concat]
      exact hmanifest
    · rw [lastStatus?_concat]
      rfl

/-- An operation that takes effect is the next entry of the log. -/
theorem Records.onTable {log : List Operation} (h : Records key log (table.get? key))
    (heffect : operation.takesEffect table = true) (hon : operation.isOn key = true) :
    Records key (log ++ [operation]) ((operation.onTable table).get? key) := by
  cases operation with
  | get other => cases hon
  | apply name manifest =>
    exact h.applied (of_decide_eq_true hon) ((Table.takesEffect_apply_iff name manifest).mp heffect)
  | delete other =>
    obtain rfl := of_decide_eq_true hon
    exact .deleted
  | updateStatus other expected status =>
    obtain rfl := of_decide_eq_true hon
    exact h.offered ((Table.takesEffect_updateStatus_iff expected status).mp heffect)

/-- What a log records is still so when the log of more operations is added. -/
theorem Records.after (operations : List Operation) {log : List Operation}
    (h : Records key log (table.get? key)) :
    Records key (log ++ table.logOn key operations) ((table.after operations).get? key) := by
  induction operations generalizing table log with
  | nil => simpa [Table.logOn, Table.log, Table.after] using h
  | cons operation rest ih =>
    rw [Table.logOn, Table.log]
    cases heffect : operation.takesEffect table with
    | false =>
      rw [if_neg Bool.false_ne_true]
      have hsame : Records key log ((operation.onTable table).get? key) := by
        rwa [Table.onTable_of_no_effect heffect]
      exact ih hsame
    | true =>
      rw [if_pos rfl, List.filter_cons]
      cases hon : operation.isOn key with
      | false =>
        rw [if_neg Bool.false_ne_true]
        have hsame : Records key log ((operation.onTable table).get? key) := by
          rwa [Table.get?_onTable_of_not_on hon]
        exact ih hsame
      | true =>
        rw [if_pos rfl, List.append_cons]
        exact ih (h.onTable heffect hon)

/-- The log of a key has the operations on that key only. -/
theorem Table.isOn_of_mem_logOn {operations : List Operation}
    (h : operation ∈ table.logOn key operations) : operation.isOn key = true :=
  (List.mem_filter.mp h).2

/-- The log of a key is no longer than the whole log. -/
theorem Table.length_logOn_le (key : Key) (operations : List Operation) :
    (table.logOn key operations).length ≤ (table.log operations).length :=
  List.length_filter_le _ _

/-- Every version of an object comes of a write, short of so many writes that a version comes
round. -/
theorem Records.toNat_version_le {log : List Operation} {object : Declaration}
    (h : Records key log (some object)) (hfew : log.length < UInt64.size) :
    object.version.toNat ≤ log.length := by
  cases h with
  | @present before since name first _ _ _ _ hversion =>
    rw [List.length_append, List.length_cons] at hfew ⊢
    rw [hversion, UInt64.toNat_ofNat_of_lt' (by omega)]
    omega

/-- The object is there when the last that was done to its spec was to declare it. -/
theorem Records.isSome_iff {log : List Operation} {object? : Option Declaration}
    (h : Records key log object?) (hon : ∀ entry ∈ log, entry.isOn key = true) :
    object?.isSome = true ↔
      ∃ name manifest, (log.filter Operation.isOnSpec).getLast? = some (.apply name manifest) := by
  cases h with
  | absent hlast =>
    refine iff_of_false Bool.false_ne_true ?_
    rintro ⟨name, manifest, hspec⟩
    rcases List.eq_nil_or_concat log with rfl | ⟨former, last, rfl⟩
    · cases hspec
    · obtain rfl := hlast last (by simp)
      simp [List.filter_append, Operation.isOnSpec] at hspec
  | @present before since name first object hnew hkept =>
    refine iff_of_true rfl ?_
    have hne : Operation.apply name first :: since.filter Operation.isOnSpec ≠ [] :=
      List.cons_ne_nil _ _
    have hspec : ((before ++ .apply name first :: since).filter Operation.isOnSpec).getLast? =
        some ((Operation.apply name first :: since.filter Operation.isOnSpec).getLast hne) := by
      rw [List.filter_append, List.filter_cons_of_pos rfl, List.getLast?_append,
        List.getLast?_eq_some_getLast hne]
      rfl
    rw [hspec]
    -- the last entry about the spec is the declaration or one that came after it
    rcases List.mem_cons.mp (List.getLast_mem hne) with hfirst | hlater
    · exact ⟨name, first, congrArg some hfirst⟩
    · obtain ⟨hmem, hisOnSpec⟩ := List.mem_filter.mp hlater
      have hisOn := hon _ (List.mem_append_right before (List.mem_cons_of_mem _ hmem))
      cases hentry :
        (Operation.apply name first :: since.filter Operation.isOnSpec).getLast hne with
      | apply other manifest => exact ⟨other, manifest, rfl⟩
      | get other => rw [hentry] at hisOn; cases hisOn
      | updateStatus other expected status => rw [hentry] at hisOnSpec; cases hisOnSpec
      | delete other =>
        rw [hentry] at hisOn hmem
        rw [of_decide_eq_true hisOn] at hmem
        exact absurd hmem hkept

/-! ## Tables that operations have filled -/

namespace Table

/-- A refused spec is one with a name of white space. -/
theorem apply_error_iff (name : String) (manifest : Manifest) :
    (∃ error, table.apply name manifest = .error error) ↔ Text.trim name = "" := by
  have hok := table.isOk_apply name manifest
  rw [Text.trim_eq_empty_iff]
  cases hresult : table.apply name manifest with
  | error error => simpa [hresult, Except.isOk, Except.toBool] using hok
  | ok result => simpa [hresult, Except.isOk, Except.toBool] using hok

/-- The objects are listed by their kinds and under one kind by their names. -/
theorem Keyed.pairwise_list (hkeyed : table.Keyed) :
    (table.list none).Pairwise fun first second =>
      first.key.kind.rank < second.key.kind.rank ∨
        first.key.kind = second.key.kind ∧ first.key.name < second.key.name :=
  (hkeyed.pairwise_toList.imp Key.compare_eq_lt_iff.mp).filter _

/-- The objects in a list of all kinds are those of the table. -/
theorem mem_list_none_iff (object : Declaration) :
    object ∈ table.list none ↔ ∃ key, table.get? key = some object := by
  rw [← mem_toList_iff, list]
  exact List.mem_filter.trans (and_iff_left rfl)

/-- The list of one kind has the objects of that kind, in the order of the whole list. -/
theorem list_some (kind : Kind) :
    table.list (some kind) = (table.list none).filter (·.key.kind = kind) := by
  rw [list, list, List.filter_filter]
  exact List.filter_congr fun object _ => (Bool.and_true _).symm

/-- A table is told by the log of the operations that filled it. -/
structure FilledBy (operations : List Operation) (table : Table) : Prop where
  /-- An object is there when the last that was done to its spec was to declare it. -/
  present : ∀ key, (table.get? key).isSome = true ↔ ∃ name manifest,
    ((empty.logOn key operations).filter Operation.isOnSpec).getLast? = some (.apply name manifest)
  /-- The log since the object was brought in tells its version, its spec and its status. -/
  recorded : ∀ key object, table.get? key = some object → ∃ before name first since,
    empty.logOn key operations = before ++ .apply name first :: since ∧
      (∀ last ∈ before.getLast?, last = .delete key) ∧ .delete key ∉ since ∧
      object.key = key ∧ object.version.toNat = 1 + since.length ∧
      lastManifest? (empty.logOn key operations) = some object.manifest ∧
      object.manifest.kind = key.kind ∧
      object.status = (lastStatus? since).getD (.initial key.kind) ∧
      object.status.fits key.kind = true
  /-- A status is committed when it fits an object that has the expected version. -/
  accepts : ∀ key expected status, table.Accepts key expected status ↔
    (∃ object, table.get? key = some object ∧ object.version = expected) ∧
      status.fits key.kind = true
  /-- A spec is refused when its name is blank. -/
  refuses : ∀ name manifest,
    (∃ error, table.apply name manifest = .error error) ↔ Text.trim name = ""
  /-- What does not take effect changes nothing. -/
  unchanged : ∀ operation : Operation, operation.takesEffect table = false →
    operation.onTable table = table
  /-- The objects are listed in a strictly ascending order. -/
  ascending : (table.list none).Pairwise fun first second =>
    first.key.kind.rank < second.key.kind.rank ∨
      first.key.kind = second.key.kind ∧ first.key.name < second.key.name
  listed : ∀ object, object ∈ table.list none ↔ ∃ key, table.get? key = some object
  /-- The objects of one kind are listed as they are among all. -/
  ofKind : ∀ kind, table.list (some kind) = (table.list none).filter (·.key.kind = kind)

/-- What is found under a key after operations on an empty table is what the log of the key
records. -/
theorem records_after_empty (key : Key) (operations : List Operation) :
    Records key (empty.logOn key operations) ((empty.after operations).get? key) := by
  have hempty : Records key [] (empty.get? key) := by
    rw [get?_empty]
    exact .absent fun last hlast => by cases hlast
  exact hempty.after operations

/-- A table that is empty at first is its write log, short of so many writes that a version
comes round. -/
theorem filledBy_after (operations : List Operation)
    (hfew : (empty.log operations).length < UInt64.size - 1) :
    (empty.after operations).FilledBy operations where
  present key := (records_after_empty key operations).isSome_iff fun _ => isOn_of_mem_logOn
  recorded key object hobject := by
    have hrecords := records_after_empty key operations
    have hlength := (length_logOn_le key operations).trans_lt hfew
    rw [hobject] at hrecords
    generalize empty.logOn key operations = log at hrecords hlength
    cases hrecords with
    | @present before since name first _ hnew hkept hkey hversion hmanifest hkind hstatus hfits =>
      refine ⟨before, name, first, since, rfl, hnew, hkept, hkey, ?_, ?_, hkind, hstatus, hfits⟩
      · rw [List.length_append, List.length_cons] at hlength
        rw [hversion, UInt64.toNat_ofNat_of_lt' (by omega)]
      · rw [lastManifest?_append, hmanifest]
        rfl
  accepts key expected status := by
    rw [accepts_iff, and_comm, version?, Option.map_eq_some_iff]
  refuses := apply_error_iff
  unchanged _ := onTable_of_no_effect
  ascending := (keyed_empty.after operations).pairwise_list
  listed := mem_list_none_iff
  ofKind := list_some

/-- A group is declared, gets a status, is removed and declared anew. The status that was
computed before and a spec with a blank name are refused in between. -/
def rewriting : List Operation :=
  [.apply "private" (Site.privateGroup "first"),
   .updateStatus Site.privateKey 1 Site.unprovisioned,
   .delete Site.privateKey,
   .updateStatus Site.privateKey 2 Site.unprovisioned,
   .apply "private" (Site.privateGroup "second"),
   .apply " " (Site.privateGroup "third"),
   .updateStatus Site.privateKey 1 Site.unprovisioned]

/-- Rewriting the group takes effect five times, and its second incarnation has the status that was
committed to it. -/
theorem filledBy_after_rewriting :
    (empty.log rewriting).length = 5 ∧ (empty.after rewriting).FilledBy rewriting ∧
      (empty.after rewriting).list none =
        [⟨Site.privateKey, 2, Site.privateGroup "second", Site.unprovisioned⟩] := by
  have hlog : (empty.log rewriting).length = 5 := rfl
  exact ⟨hlog, filledBy_after rewriting (by rw [hlog]; decide), rfl⟩

end Table

end Reconciler
