import Reconciler.Proofs.Store.Log

/-!
# Sound objects

An object is sound when its spec and its status are of the kind that its key names. The operations
of a store bring about sound objects only, each under its own key.
-/

set_option autoImplicit false

namespace Reconciler

/-- Whether the spec and the status of an object are of the kind that its key names. -/
def Declaration.Sound (object : Declaration) : Prop :=
  object.manifest.kind = object.key.kind ∧ object.status.fits object.key.kind = true

namespace Table

variable {table : Table}

/-- Every object is sound. -/
def Sound (table : Table) : Prop :=
  ∀ key object, table.get? key = some object → object.Sound

/-- An empty table is sound. -/
theorem sound_empty : Sound empty := fun key object h => by simp at h

/-- Applying a spec keeps a table sound. -/
theorem Sound.applied (h : table.Sound) (hkeyed : table.Keyed) (name : String)
    (manifest : Manifest) : (table.applied name manifest).Sound := by
  intro key object hobject
  cases hblank : Text.isBlank name with
  | true =>
    rw [get?_applied_of_blank manifest hblank] at hobject
    exact h key object hobject
  | false =>
    by_cases hkey : ⟨manifest.kind, name⟩ = key
    · subst hkey
      rw [get?_applied_self manifest hblank] at hobject
      cases hformer : table.get? ⟨manifest.kind, name⟩ with
      | none =>
        rw [hformer] at hobject
        cases hobject
        exact ⟨rfl, Status.fits_initial manifest.kind⟩
      | some former =>
        rw [hformer] at hobject
        cases hobject
        have hkind : manifest.kind = former.key.kind :=
          (congrArg Key.kind (hkeyed _ former hformer)).symm
        exact ⟨hkind, (h _ former hformer).2⟩
    · rw [get?_applied_of_ne hkey] at hobject
      exact h key object hobject

/-- Removing an object keeps a table sound. -/
theorem Sound.delete (h : table.Sound) (key : Key) : (table.delete key).2.Sound := by
  intro other object hobject
  rw [get?_delete] at hobject
  split at hobject
  · cases hobject
  · exact h other object hobject

/-- Offering a status keeps a table sound. -/
theorem Sound.offered (h : table.Sound) (hkeyed : table.Keyed) (key : Key) (expected : UInt64)
    (status : Status) : (table.offered key expected status).Sound := by
  intro other object hobject
  by_cases haccepts : table.Accepts key expected status
  · by_cases hkey : key = other
    · subst hkey
      obtain ⟨former, hformer, hfits, hget⟩ := get?_offered_of_accepts haccepts
      rw [hget] at hobject
      cases hobject
      refine ⟨(h key former hformer).1, ?_⟩
      rw [← hkeyed key former hformer] at hfits
      exact hfits
    · rw [get?_offered_of_ne expected status hkey] at hobject
      exact h other object hobject
  · have hrefused := mt (takesEffect_updateStatus_iff expected status).mp haccepts
    have hsame : table.offered key expected status = table :=
      onTable_of_no_effect (Bool.eq_false_iff.mpr hrefused)
    rw [hsame] at hobject
    exact h other object hobject

/-- Every operation keeps a table sound. -/
theorem Sound.onTable (h : table.Sound) (hkeyed : table.Keyed) (operation : Operation) :
    (operation.onTable table).Sound := by
  cases operation with
  | get key => exact h
  | apply name manifest => exact h.applied hkeyed name manifest
  | delete key => exact h.delete key
  | updateStatus key expected status => exact h.offered hkeyed key expected status

/-- Operations in a row keep a table sound. -/
theorem Sound.after (h : table.Sound) (hkeyed : table.Keyed) (operations : List Operation) :
    (table.after operations).Sound := by
  induction operations generalizing table with
  | nil => exact h
  | cons operation rest ih => exact ih (h.onTable hkeyed operation) (hkeyed.onTable operation)

end Table

end Reconciler
