import Reconciler.Proofs.Site.Commits
import Reconciler.Proofs.Store.Keyed
import Reconciler.Proofs.Store.Watch

/-!
# What the dispatcher is still to be told

The dispatcher may leave an object alone when the object is finished, or when a change about it
is still to come (`Site.Attends`). Writes of other clients keep this of every object, because each
tells a change; a pass keeps it of all objects but its own, and of its own as well when it says
that no pass is left to do.
-/

set_option autoImplicit false

namespace Reconciler

/-- A write of another client. Statuses are committed by the dispatcher alone. -/
inductive Edit where
  | apply (name : String) (manifest : Manifest)
  | delete (key : Key)

def Edit.operation : Edit → Operation
  | .apply name manifest => .apply name manifest
  | .delete key => .delete key

/-- An object that needs no pass: it is not there, or is a completed deletion request. -/
def Table.Finished (table : Table) (key : Key) : Prop :=
  ∀ object, table.get? key = some object → object.status = .deletion .completed

/-- A change about an object is still to come, or all objects are going to be listed. -/
def Watch.Announces (watch : Watch) (key : Key) : Prop :=
  lastWord? key watch.pending = some true ∨ watch.lagged = true

/-- An object that is not there needs no pass. -/
theorem Table.finished_of_get?_none {table : Table} {key : Key} (h : table.get? key = none) :
    table.Finished key := fun object hobject => by
  rw [h] at hobject
  cases hobject

/-- A change about other objects does not take an announcement back. -/
theorem Watch.Announces.push {watch : Watch} {key : Key} {change : Change}
    (h : watch.Announces key) (hother : change.word? key = none) :
    (watch.push change).Announces key := by
  rcases h with hword | hlagged
  · rcases lastWord?_push_of_none watch hother with hsame | ⟨hlagged, -⟩
    · exact .inl (hsame.trans hword)
    · exact .inr hlagged
  · exact .inr (lagged_push hlagged)

namespace Site

variable {φ μ : Type}

/-- A site with a store in memory whose dispatcher is told of all removals. -/
structure Listens (site : Site φ μ) (table : Table) (watches : Watches) (watch : Watch) : Prop where
  store_eq : site.store = .memory ⟨table, watches⟩
  watch_eq : watches[site.watch]? = some watch
  keyed : table.Keyed
  removed : ∀ key, lastWord? key watch.pending = some false → table.get? key = none

/-- Each of some objects is finished or still to be announced. -/
def Attends (p : Key → Prop) (site : Site φ μ) : Prop :=
  ∃ table watches watch, site.Listens table watches watch ∧
    ∀ key, p key → table.Finished key ∨ watch.Announces key

variable {p q : Key → Prop} {site : Site φ μ} {table after : Table} {watches : Watches}
  {watch : Watch}

/-- What is attended to of more objects is attended to of fewer. -/
theorem Attends.imp (h : site.Attends p) (himp : ∀ key, q key → p key) : site.Attends q := by
  obtain ⟨table, watches, watch, hlistens, hall⟩ := h
  exact ⟨table, watches, watch, hlistens, fun key hkey => hall key (himp key hkey)⟩

/-- Only the store and the watch matter. -/
theorem Attends.congr {other : Site φ μ} (h : site.Attends p) (hstore : other.store = site.store)
    (hwatch : other.watch = site.watch) : other.Attends p := by
  obtain ⟨table, watches, watch, hlistens, hall⟩ := h
  refine ⟨table, watches, watch, ⟨?_, ?_, hlistens.keyed, hlistens.removed⟩, hall⟩
  · rw [hstore, hlistens.store_eq]
  · rw [hwatch, hlistens.watch_eq]

/-- The table of the site is the one that is listened to. -/
theorem Listens.table_eq (h : site.Listens table watches watch) : site.table = table := by
  rw [Site.table, h.store_eq]
  rfl

/-- A finished object may be left alone as well. -/
theorem Attends.or_finished {key : Key} (h : site.Attends p) (hfinished : site.table.Finished key) :
    site.Attends fun other => p other ∨ other = key := by
  obtain ⟨table, watches, watch, hlistens, hall⟩ := h
  rw [hlistens.table_eq] at hfinished
  refine ⟨table, watches, watch, hlistens, ?_⟩
  rintro other (hother | rfl)
  · exact hall other hother
  · exact .inl hfinished

/-! ## Writes of other clients -/

/-- A write that tells a change about its object keeps every object attended to. -/
theorem Attends.publish (key : Key) {change : Change} {word : Bool}
    (hlistens : site.Listens table watches watch)
    (hall : ∀ key, p key → table.Finished key ∨ watch.Announces key)
    (hword : change.word? key = some word)
    (hothers : ∀ other, key ≠ other → change.word? other = none)
    (hget : ∀ other, key ≠ other → after.get? other = table.get? other)
    (hremoved : word = false → after.get? key = none) (hkeyed : after.Keyed) :
    ({ site with store := .memory ⟨after, watches.publish change⟩ } : Site φ μ).Attends p := by
  have htold := Watch.lastWord?_push_of_some watch hword
  refine ⟨after, _, watch.push change, ⟨rfl, ?_, hkeyed, ?_⟩, ?_⟩
  · simp [Watches.publish, hlistens.watch_eq]
  · intro other hfalse
    by_cases hsame : key = other
    · subst hsame
      exact hremoved (Option.some.inj (htold.symm.trans hfalse))
    · rw [hget other hsame]
      refine hlistens.removed other ?_
      rcases Watch.lastWord?_push_of_none watch (hothers other hsame)
        with heq | ⟨-, hnone⟩
      · rw [← heq, hfalse]
      · rw [hnone] at hfalse
        cases hfalse
  · intro other hother
    by_cases hsame : key = other
    · subst hsame
      cases word with
      | true => exact .inr (.inl htold)
      | false => exact .inl (Table.finished_of_get?_none (hremoved rfl))
    · refine (hall other hother).imp (fun hfinished object hobject => ?_)
        fun hannounced => hannounced.push (hothers other hsame)
      rw [hget other hsame] at hobject
      exact hfinished object hobject

/-- A write that tells nothing keeps those objects attended to that it leaves finished. -/
theorem Attends.retable (hlistens : site.Listens table watches watch) (hkeyed : after.Keyed)
    (hnone : ∀ key, table.get? key = none → after.get? key = none)
    (hall : ∀ key, p key → after.Finished key ∨ watch.Announces key) :
    ({ site with store := .memory ⟨after, watches⟩ } : Site φ μ).Attends p :=
  ⟨after, watches, watch, ⟨rfl, hlistens.watch_eq, hkeyed,
    fun key hword => hnone key (hlistens.removed key hword)⟩, hall⟩

variable (system : FileSystem φ)

/-- What an operation does to a store in memory is all that it does to the site. -/
theorem Listens.operate (h : site.Listens table watches watch) {α : Type}
    (operation : Store → Store.Effect α) {answer : Except Error α} {store : MemoryStore}
    (hoperation : operation (.memory ⟨table, watches⟩) = .done (answer, .memory store)) :
    site.operate system operation = (answer, { site with store := .memory store }) := by
  rw [Site.operate, h.store_eq, hoperation]
  rfl

/-- A declaration is told to the dispatcher, or refused. -/
theorem Listens.attends_apply (hlistens : site.Listens table watches watch)
    (hall : ∀ key, p key → table.Finished key ∨ watch.Announces key) (name : String)
    (manifest : Manifest) : (site.operate system (·.apply name manifest)).2.Attends p := by
  rw [hlistens.operate system (·.apply name manifest) rfl]
  cases hresult : table.apply name manifest with
  | error error =>
    simp only [MemoryStore.apply, hresult]
    exact .retable hlistens hlistens.keyed (fun _ => id) hall
  | ok result =>
    obtain ⟨object, after⟩ := result
    have hkey := hlistens.keyed.apply hresult
    have happlied : table.applied name manifest = after := by rw [Table.applied, hresult]
    simp only [MemoryStore.apply, hresult]
    refine .publish object.key hlistens hall (Change.word?_eq_true_iff.mpr rfl) ?_ ?_
      (fun h => by cases h) (happlied ▸ hlistens.keyed.applied name manifest)
    · intro other hne
      simp [Change.word?, hne]
    · intro other hne
      rw [Table.get?_of_apply hresult, if_neg (hkey ▸ hne)]

/-- A removal is told to the dispatcher, and what it removes is finished. -/
theorem Listens.attends_delete (hlistens : site.Listens table watches watch)
    (hall : ∀ key, p key → table.Finished key ∨ watch.Announces key) (key : Key) :
    (site.operate system (·.delete key)).2.Attends p := by
  rw [hlistens.operate system (·.delete key) rfl]
  have hget := table.get?_delete key
  have hkeyed := hlistens.keyed.delete key
  rcases hresult : table.delete key with ⟨_ | _, after⟩
  · obtain rfl := Table.delete_snd_of_absent hresult
    simp only [MemoryStore.delete, hresult]
    exact .retable hlistens hlistens.keyed (fun _ => id) hall
  · rw [hresult] at hget hkeyed
    simp only [MemoryStore.delete, hresult]
    refine .publish key hlistens hall (Change.word?_eq_false_iff.mpr rfl) ?_ ?_ ?_ hkeyed
    · intro other hne
      simp [Change.word?, hne]
    · intro other hne
      rw [hget, if_neg hne]
    · intro _
      rw [hget, if_pos rfl]

/-- A write of another client keeps every object attended to. -/
theorem Attends.perform (h : site.Attends p) (edit : Edit) :
    (site.perform system edit.operation).Attends p := by
  obtain ⟨table, watches, watch, hlistens, hall⟩ := h
  cases edit with
  | apply name manifest => exact hlistens.attends_apply system hall name manifest
  | delete key => exact hlistens.attends_delete system hall key

/-! ## Requests amid other clients -/

/-- Other clients have nothing but edits in store. -/
def AttendsAmid (p : Key → Prop) (crowd : Crowded φ μ) : Prop :=
  crowd.1.Attends p ∧ ∃ edits : List (List Edit), crowd.2 = edits.map (·.map Edit.operation)

variable (provider : Provider μ) {crowd : Crowded φ μ}

/-- What is attended to of more objects amid the edits is attended to of fewer. -/
theorem AttendsAmid.imp (h : AttendsAmid p crowd) (himp : ∀ key, q key → p key) :
    AttendsAmid q crowd :=
  ⟨h.1.imp himp, h.2⟩

/-- A list of edits of other clients leaves no object unattended. -/
theorem attends_foldl_perform (edits : List Edit) {site : Site φ μ} (h : site.Attends p) :
    ((edits.map Edit.operation).foldl (Site.perform system) site).Attends p := by
  induction edits generalizing site with
  | nil => exact h
  | cons edit rest ih => exact ih (h.perform system edit)

/-- Edits that come in between leave no object unattended. -/
theorem AttendsAmid.disturbed (h : AttendsAmid p crowd) :
    AttendsAmid p (disturbed system crowd, crowd.2.tail) := by
  obtain ⟨hattends, edits, hedits⟩ := h
  cases edits with
  | nil => exact ⟨by rw [Site.disturbed, hedits]; exact hattends, [], by rw [hedits]; rfl⟩
  | cons batch rest =>
    refine ⟨?_, rest, by rw [hedits]; rfl⟩
    rw [Site.disturbed, hedits]
    exact attends_foldl_perform system batch hattends

/-- Looking and calling keep every object attended to. -/
theorem AttendsAmid.serve (h : AttendsAmid p crowd) (request : Request)
    (hrequest : request = .list ∨ ∃ call, request = .call call) :
    AttendsAmid p (serveAmid system provider request crowd).2 := by
  have hdisturbed := h.disturbed system
  obtain rfl | ⟨call, rfl⟩ := hrequest
  · exact hdisturbed
  · exact ⟨hdisturbed.1.congr rfl rfl, hdisturbed.2⟩

end Site

end Reconciler
