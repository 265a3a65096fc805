import Reconciler.Proofs.Site
import Reconciler.Proofs.Store.Table

/-!
# What a commit overlooks

A client reads an object and later commits a status against the version that it read. The
commit goes through when that version is the version again, and the version does not tell
everything: it counts the writes of one incarnation of the object, starting over with every
declaration, in 64 bits. So the writes between the reading and the commit that are overlooked
are those after which the version recurs (`Recurs`): a multiple of `UInt64.size` writes without a
removal, or a removal after which the object was declared and written anew just as often as the
version says.
-/

set_option autoImplicit false

namespace Reconciler

/-- A write of the object under one key. -/
inductive Write where
  /-- Of the spec or the status. -/
  | stored
  | removed
  deriving DecidableEq, Repr

/-- The version after a write, which no object has that is not there. -/
def Write.onVersion : Option UInt64 → Write → Option UInt64
  | some version, .stored => some (version + 1)
  | none, .stored => some 1
  | _, .removed => none

/-- The version recurs after writes of the object that had it. -/
def Recurs (version : UInt64) (writes : List Write) : Prop :=
  (.removed ∉ writes ∧ UInt64.size ∣ writes.length) ∨
    ∃ before after, writes = before ++ .removed :: after ∧ .removed ∉ after ∧ after ≠ [] ∧
      after.length % UInt64.size = version.toNat

namespace Table

def version? (table : Table) (key : Key) : Option UInt64 :=
  (table.get? key).map (·.version)

end Table

/-- The write of the object under a key that an operation comes to, if any. -/
def Operation.write? (key : Key) (table : Table) : Operation → Option Write
  | .get _ => none
  | .apply name manifest =>
    if ⟨manifest.kind, name⟩ = key ∧ (table.apply name manifest).isOk then some .stored else none
  | .delete other => if other = key ∧ (table.delete other).1 then some .removed else none
  | .updateStatus other expected status =>
    if other = key ∧ (table.updateStatus other expected status).isOk then some .stored
    else none

/-- The writes of the object under a key that operations in a row come to. -/
def writes (key : Key) : List Operation → Table → List Write
  | [], _ => []
  | operation :: rest, table =>
    (operation.write? key table).toList ++ writes key rest (operation.onTable table)

/-! ## Counting versions -/

/-- Counting one more adds one to a machine number. -/
theorem ofNat_succ (n : Nat) : UInt64.ofNat (n + 1) = UInt64.ofNat n + 1 := by
  rw [UInt64.ofNat_add]
  rfl

/-- Without a removal the version counts the writes. -/
theorem foldl_onVersion_some {writes : List Write} (h : .removed ∉ writes) (version : UInt64) :
    writes.foldl Write.onVersion (some version) =
      some (version + UInt64.ofNat writes.length) := by
  induction writes generalizing version with
  | nil => simp
  | cons write rest ih =>
    obtain ⟨hwrite, hrest⟩ := not_or.mp (mt List.mem_cons.mpr h)
    cases write with
    | removed => exact absurd rfl hwrite
    | stored =>
      rw [List.foldl_cons, Write.onVersion, ih hrest, List.length_cons, ofNat_succ,
        UInt64.add_assoc, UInt64.add_comm 1]

/-- After a removal the version counts the writes from the new declaration on. -/
theorem foldl_onVersion_none {writes : List Write} (h : .removed ∉ writes) :
    writes.foldl Write.onVersion none =
      if writes = [] then none else some (UInt64.ofNat writes.length) := by
  cases writes with
  | nil => rfl
  | cons write rest =>
    obtain ⟨hwrite, hrest⟩ := not_or.mp (mt List.mem_cons.mpr h)
    cases write with
    | removed => exact absurd rfl hwrite
    | stored =>
      rw [List.foldl_cons, Write.onVersion, foldl_onVersion_some hrest, List.length_cons,
        ofNat_succ, UInt64.add_comm 1, if_neg (List.cons_ne_nil _ _)]

/-- A version is the same again after a multiple of all the numbers that there are. -/
theorem add_ofNat_eq_self_iff (version : UInt64) (n : Nat) :
    version + UInt64.ofNat n = version ↔ UInt64.size ∣ n := by
  have hlt := version.toNat_lt
  have hsize : UInt64.size = 18446744073709551616 := rfl
  rw [← UInt64.toNat_inj, UInt64.toNat_add, UInt64.toNat_ofNat', Nat.dvd_iff_mod_eq_zero, hsize]
  omega

/-- A count gives a version exactly when its remainder is that version. -/
theorem ofNat_eq_iff (version : UInt64) (n : Nat) :
    UInt64.ofNat n = version ↔ n % UInt64.size = version.toNat := by
  rw [← UInt64.toNat_inj, UInt64.toNat_ofNat']

/-- The writes since the last removal are singled out. -/
theorem exists_last_removal {writes : List Write} (h : .removed ∈ writes) :
    ∃ before after, writes = before ++ .removed :: after ∧ .removed ∉ after := by
  have hreverse : .removed ∈ writes.reverse := List.mem_reverse.mpr h
  obtain ⟨later, earlier, heq, hlater⟩ := List.eq_append_cons_of_mem hreverse
  refine ⟨earlier.reverse, later.reverse, ?_, by simpa using hlater⟩
  rw [← writes.reverse_reverse, heq]
  simp

/-- After a removal the version counts the writes since then. -/
theorem foldl_onVersion_of_removal {before after : List Write} (h : .removed ∉ after)
    (version : Option UInt64) :
    (before ++ .removed :: after).foldl Write.onVersion version =
      if after = [] then none else some (UInt64.ofNat after.length) := by
  rw [List.foldl_append, List.foldl_cons]
  have hremoved : Write.onVersion (before.foldl Write.onVersion version) .removed = none := by
    cases before.foldl Write.onVersion version <;> rfl
  rw [hremoved, foldl_onVersion_none h]

/-- A version is the version again exactly after the writes after which it recurs. -/
theorem foldl_onVersion_eq_iff (version : UInt64) (writes : List Write) :
    writes.foldl Write.onVersion (some version) = some version ↔ Recurs version writes := by
  by_cases hremoval : .removed ∈ writes
  · constructor
    · intro hversion
      obtain ⟨before, after, rfl, hafter⟩ := exists_last_removal hremoval
      rw [foldl_onVersion_of_removal hafter] at hversion
      split at hversion
      · cases hversion
      · next hne =>
        rw [Option.some.injEq, ofNat_eq_iff] at hversion
        exact .inr ⟨before, after, rfl, hafter, hne, hversion⟩
    · rintro (⟨hkept, -⟩ | ⟨before, after, rfl, hafter, hne, hcount⟩)
      · exact absurd hremoval hkept
      · rw [foldl_onVersion_of_removal hafter, if_neg hne, Option.some.injEq, ofNat_eq_iff]
        exact hcount
  · rw [foldl_onVersion_some hremoval, Option.some.injEq, add_ofNat_eq_self_iff]
    constructor
    · intro hdvd
      exact .inl ⟨hremoval, hdvd⟩
    · rintro (⟨-, hdvd⟩ | ⟨before, after, rfl, -, -, -⟩)
      · exact hdvd
      · simp at hremoval

/-- Short of a removal, only very many writes are overlooked. -/
theorem Recurs.eq_nil {version : UInt64} {writes : List Write} (h : Recurs version writes)
    (hkept : .removed ∉ writes) (hfew : writes.length < UInt64.size) : writes = [] := by
  rcases h with ⟨-, hdvd⟩ | ⟨before, after, rfl, -, -, -⟩
  · exact List.length_eq_zero_iff.mp (Nat.eq_zero_of_dvd_of_lt hdvd hfew)
  · simp at hkept

/-! ## The version in the table -/

namespace Table

variable (table : Table) (key : Key)

/-- A status is accepted when it fits and was computed from the version of the object. -/
theorem accepts_iff (expected : UInt64) (status : Status) :
    table.Accepts key expected status ↔
      status.fits key.kind = true ∧ table.version? key = some expected := by
  unfold Accepts updateStatus version? get?
  cases table.objects[key]? with
  | none => simp
  | some object =>
    by_cases hversion : object.version = expected
    · cases hfits : status.fits key.kind <;> simp [hversion]
    · simp [hversion]

/-- A spec is only refused for its name. -/
theorem isOk_apply (name : String) (manifest : Manifest) :
    (table.apply name manifest).isOk = !Text.isBlank name := by
  unfold apply
  by_cases hblank : Text.isBlank name = true
  · rw [if_pos hblank, hblank]
    rfl
  · rw [if_neg hblank, Bool.eq_false_iff.mpr hblank]
    dsimp only
    split <;> rfl

/-- An applied spec counts the version up, from one when the object is new. -/
theorem version_of_apply {table after : Table} {name : String} {manifest : Manifest}
    {object : Declaration} (h : table.apply name manifest = .ok (object, after)) :
    some object.version = Write.onVersion (table.version? ⟨manifest.kind, name⟩) .stored := by
  simp only [apply] at h
  split at h
  · cases h
  · split at h
    · next existing hexisting =>
      cases h
      simp [version?, get?, hexisting, replaced, Write.onVersion]
    · next habsent =>
      cases h
      simp [version?, get?, habsent, Declaration.fresh, Write.onVersion]

/-- Applying a spec is a write of its own object only, and only if it is accepted. -/
theorem version?_applied (name : String) (manifest : Manifest) :
    (table.applied name manifest).version? key =
      if ⟨manifest.kind, name⟩ = key ∧ (table.apply name manifest).isOk then
        Write.onVersion (table.version? key) .stored
      else table.version? key := by
  unfold applied
  cases hresult : table.apply name manifest with
  | error error => simp [Except.isOk, Except.toBool]
  | ok result =>
    obtain ⟨object, after⟩ := result
    have hversion := version_of_apply hresult
    have hget := get?_of_apply hresult key
    by_cases hkey : (⟨manifest.kind, name⟩ : Key) = key
    · subst hkey
      rw [if_pos ⟨rfl, rfl⟩, ← hversion]
      simp [version?, hget]
    · rw [if_neg fun h => hkey h.1]
      simp [version?, hget, hkey]

/-- Removing an object is a write of that object only, and only if it was there. -/
theorem version?_delete (other : Key) :
    (table.delete other).2.version? key =
      if other = key ∧ (table.delete other).1 then
        Write.onVersion (table.version? key) .removed
      else table.version? key := by
  rw [version?, get?_delete]
  by_cases hkey : other = key
  · subst hkey
    cases hget : table.get? other with
    | none => simp [version?, hget, Write.onVersion]
    | some object => simp [version?, hget, Write.onVersion, delete_fst]
  · simp [hkey, version?]

/-- What is written under a key over an object is the next version of it. -/
theorem eq_add_one_of_onVersion {table : Table} {key : Key} {former : Declaration}
    (hformer : table.get? key = some former) {version : UInt64}
    (h : some version = Write.onVersion (table.version? key) .stored) :
    version = former.version + 1 := by
  rw [version?, hformer] at h
  exact Option.some.inj h

/-- A committed status counts the version up. -/
theorem version_of_updateStatus {table after : Table} {key : Key} {expected version : UInt64}
    {status : Status} (h : table.updateStatus key expected status = .ok (version, after)) :
    some version = Write.onVersion (table.version? key) .stored ∧
      after.version? key = some version := by
  have hget := get?_of_updateStatus h key
  simp only [updateStatus] at h
  split at h
  · cases h
  · next object hobject =>
    split at h
    · cases h
    · split at h
      · cases h
        have hbefore : table.get? key = some object := hobject
        simp [version?, hget, hbefore, Write.onVersion]
      · cases h

/-- Offering a status is a write of its own object only, and only if it is committed. -/
theorem version?_offered (other : Key) (expected : UInt64) (status : Status) :
    (table.offered other expected status).version? key =
      if other = key ∧ (table.updateStatus other expected status).isOk then
        Write.onVersion (table.version? key) .stored
      else table.version? key := by
  unfold offered
  cases hresult : table.updateStatus other expected status with
  | error error => simp [Except.isOk, Except.toBool]
  | ok result =>
    obtain ⟨version, after⟩ := result
    have hget := get?_of_updateStatus hresult key
    by_cases hkey : other = key
    · subst hkey
      obtain ⟨hversion, hafter⟩ := version_of_updateStatus hresult
      rw [if_pos ⟨rfl, rfl⟩, ← hversion, ← hafter]
    · rw [if_neg fun h => hkey h.1]
      simp [version?, hget, hkey]

/-- An operation moves the version by the write that it comes to. -/
theorem version?_onTable (operation : Operation) :
    (operation.onTable table).version? key =
      (operation.write? key table).toList.foldl Write.onVersion (table.version? key) := by
  cases operation with
  | get other => rfl
  | apply name manifest =>
    rw [Operation.onTable, version?_applied, Operation.write?]
    split <;> rfl
  | delete other =>
    rw [Operation.onTable, version?_delete, Operation.write?]
    split <;> rfl
  | updateStatus other expected status =>
    rw [Operation.onTable, version?_offered, Operation.write?]
    split <;> rfl

/-- Operations in a row move the version by the writes that they come to. -/
theorem version?_foldl_onTable (operations : List Operation) :
    (operations.foldl (fun table operation => operation.onTable table) table).version? key =
      (writes key operations table).foldl Write.onVersion (table.version? key) := by
  induction operations generalizing table with
  | nil => rfl
  | cons operation rest ih =>
    rw [List.foldl_cons, ih, writes, List.foldl_append, version?_onTable]

end Table

end Reconciler
