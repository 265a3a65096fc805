import Mathlib.Data.List.Induction
import Mathlib.Data.Set.Insert
import Reconciler.Proofs.Site.Commits
import Reconciler.Proofs.Store.Session

/-!
# What the readers of a store are told

The watches of a store in memory are opened and drained at any time, each by a reader of its own. A
reader is given the changes of the specs since it looked last, in the order in which they were made;
when they are more than a watch has room for, it is given the newest of them after the word that
older ones were dropped. A reader that is never told so can keep a copy of the keys of the store
(`drain_since_mark`).
-/

set_option autoImplicit false

namespace Reconciler

/-! ## Watches that are told several changes -/

/-- A watch with room takes a change. -/
theorem Watch.push_of_lt {pending : List Change} (h : pending.length < capacity) (lagged : Bool)
    (change : Change) : push ⟨pending, lagged⟩ change = ⟨pending ++ [change], lagged⟩ :=
  if_pos h

/-- A full watch drops its oldest change and notes that it lags. -/
theorem Watch.push_of_le {pending : List Change} (h : capacity ≤ pending.length) (lagged : Bool)
    (change : Change) : push ⟨pending, lagged⟩ change = ⟨pending.drop 1 ++ [change], true⟩ :=
  if_neg (Nat.not_lt.mpr h)

/-- A fresh watch that is told changes holds the newest of them, and remembers whether there were
more. -/
theorem Watch.foldl_push_fresh (changes : List Change) :
    changes.foldl push fresh =
      ⟨changes.drop (changes.length - capacity), capacity < changes.length⟩ := by
  induction changes using List.reverseRecOn with
  | nil => rfl
  | append_singleton changes change ih =>
    rw [List.foldl_append, ih, List.foldl_cons, List.foldl_nil, List.length_append,
      List.length_singleton]
    by_cases hroom : changes.length < capacity
    · have hall : changes.length - capacity = 0 := Nat.sub_eq_zero_of_le hroom.le
      have hallNext : changes.length + 1 - capacity = 0 := Nat.sub_eq_zero_of_le hroom
      have hlagged : ¬ capacity < changes.length := Nat.not_lt.mpr hroom.le
      have hlaggedNext : ¬ capacity < changes.length + 1 := Nat.not_lt.mpr hroom
      rw [hall, hallNext, List.drop_zero, List.drop_zero, decide_eq_false hlagged,
        decide_eq_false hlaggedNext, push_of_lt hroom]
    · have hfull : capacity ≤ (changes.drop (changes.length - capacity)).length := by
        rw [List.length_drop]
        omega
      have hlagged : capacity < changes.length + 1 := by omega
      have hnext : changes.length - capacity + 1 = changes.length + 1 - capacity := by omega
      have hsplit : changes.length + 1 - capacity ≤ changes.length :=
        Nat.sub_le_of_le_add (Nat.add_le_add_left (by decide) _)
      rw [push_of_le hfull, List.drop_drop, hnext, List.drop_append_of_le_length hsplit,
        decide_eq_true hlagged]

/-- The changes that a reader is given when it looks, of those that it was told since it looked
last. -/
def Watch.given (changes : List Change) : List Change :=
  if changes.length ≤ capacity then changes
  else .resync :: changes.drop (changes.length - capacity)

/-- A lagging reader is told to list everything before the changes that are left. -/
theorem Watch.drain_of_lagged (pending : List Change) :
    (drain ⟨pending, true⟩).1 = .resync :: pending :=
  rfl

/-- A reader that does not lag is given the changes that wait. -/
theorem Watch.drain_of_not_lagged (pending : List Change) :
    (drain ⟨pending, false⟩).1 = pending :=
  rfl

/-- A reader that looks after some changes is given them, or the newest after the word to list
everything. -/
theorem Watch.drain_foldl_push_fresh (changes : List Change) :
    (changes.foldl push fresh).drain.1 = given changes := by
  rw [foldl_push_fresh, given]
  by_cases hfew : changes.length ≤ capacity
  · have hall : changes.length - capacity = 0 := Nat.sub_eq_zero_of_le hfew
    rw [if_pos hfew, hall, List.drop_zero, decide_eq_false (Nat.not_lt.mpr hfew),
      drain_of_not_lagged]
  · rw [if_neg hfew, decide_eq_true (Nat.lt_of_not_le hfew), drain_of_lagged]

/-- A reader that is not told that it missed something is given everything. -/
theorem Watch.given_of_resync_notMem {changes : List Change} (h : .resync ∉ given changes) :
    given changes = changes := by
  rw [given] at h ⊢
  split
  · rfl
  · next hmany =>
    rw [if_neg hmany] at h
    exact absurd List.mem_cons_self h

/-- Every watch is told the same changes. -/
theorem Watches.getElem?_foldl_publish (changes : List Change) (watches : Watches) (index : Nat) :
    (changes.foldl publish watches)[index]? =
      watches[index]?.map fun watch => changes.foldl Watch.push watch := by
  induction changes generalizing watches with
  | nil => exact Option.map_id_apply.symm
  | cons change rest ih =>
    rw [List.foldl_cons, ih, publish, List.getElem?_map, Option.map_map]
    rfl

/-! ## What operations tell -/

/-- The changes that an operation tells: a spec that was stored, an object that was removed. -/
def Operation.told (table : Table) : Operation → List Change
  | .apply name manifest =>
    if (table.apply name manifest).isOk then [.applied ⟨manifest.kind, name⟩] else []
  | .delete key => if (table.delete key).1 then [.deleted key] else []
  | .updateStatus _ _ _ => []
  | .get _ => []

/-- The keys under which there is an object. -/
def Table.keys (table : Table) : Set Key :=
  {key | (table.get? key).isSome}

/-- The keys of a table are those under which an object is found. -/
theorem Table.mem_keys_iff {table : Table} {key : Key} :
    key ∈ table.keys ↔ (table.get? key).isSome :=
  Iff.rfl

/-- Applying a spec adds its key. -/
theorem Table.keys_of_apply {table after : Table} {name : String} {manifest : Manifest}
    {object : Declaration} (h : table.apply name manifest = .ok (object, after)) :
    after.keys = insert ⟨manifest.kind, name⟩ table.keys := by
  ext key
  rw [Set.mem_insert_iff, mem_keys_iff, mem_keys_iff, get?_of_apply h]
  split
  · next hkey => simp [hkey]
  · next hkey => simp [Ne.symm hkey]

/-- Removing an object takes its key away. -/
theorem Table.keys_delete (table : Table) (key : Key) :
    (table.delete key).2.keys = table.keys \ {key} := by
  ext other
  rw [Set.mem_sdiff, Set.mem_singleton_iff, mem_keys_iff, mem_keys_iff, get?_delete]
  split
  · next hkey => simp [hkey]
  · next hkey => simp [Ne.symm hkey]

/-- A status is stored with an object that is there already. -/
theorem Table.keys_offered (table : Table) (key : Key) (expected : UInt64) (status : Status) :
    (table.offered key expected status).keys = table.keys := by
  rw [offered]
  cases hresult : table.updateStatus key expected status with
  | error error => rfl
  | ok result =>
    ext other
    rw [mem_keys_iff, mem_keys_iff, get?_of_updateStatus hresult]
    split
    · next hkey => rw [hkey, Option.isSome_map]
    · rfl

/-- What a reader makes of the keys that it knows when it is told a change. -/
def Change.onKeys (keys : Set Key) : Change → Set Key
  | .applied key => insert key keys
  | .deleted key => keys \ {key}
  | .resync => keys

namespace MemoryStore

variable {store : MemoryStore}

/-- An operation moves the table of a store in memory as it moves a table. -/
theorem table_perform (store : MemoryStore) (operation : Operation) :
    (store.perform operation).2.table = operation.onTable store.table := by
  cases operation with
  | get key => rfl
  | apply name manifest =>
    exact Store.table_run_apply Disk.system (.memory store) .empty name manifest
  | delete key => exact Store.table_run_delete Disk.system (.memory store) .empty key
  | updateStatus key expected status =>
    exact Store.table_run_updateStatus Disk.system (.memory store) .empty key expected status

/-- An operation publishes to all watches what it has to tell. -/
theorem watches_perform (hkeyed : store.table.Keyed) (operation : Operation) :
    (store.perform operation).2.watches =
      (operation.told store.table).foldl Watches.publish store.watches := by
  cases operation with
  | get key => rfl
  | apply name manifest =>
    simp only [perform, apply, Operation.told]
    cases hresult : store.table.apply name manifest with
    | error error => rfl
    | ok result =>
      rw [← hkeyed.apply hresult]
      rfl
  | delete key =>
    simp only [perform, delete, Operation.told]
    rcases store.table.delete key with ⟨_ | _, after⟩ <;> rfl
  | updateStatus key expected status =>
    simp only [perform, updateStatus, Operation.told]
    cases store.table.updateStatus key expected status <;> rfl

end MemoryStore

/-- Told of an operation, a reader that knows the keys before it knows the keys after it. -/
theorem Operation.foldl_onKeys_told (table : Table) (operation : Operation) :
    (operation.told table).foldl Change.onKeys table.keys = (operation.onTable table).keys := by
  cases operation with
  | get key => rfl
  | apply name manifest =>
    simp only [told, onTable, Table.applied]
    cases hresult : table.apply name manifest with
    | error error => rfl
    | ok result => exact (Table.keys_of_apply hresult).symm
  | delete key =>
    rw [told, Table.delete_fst]
    cases hobject : (table.get? key).isSome with
    | true => exact (table.keys_delete key).symm
    | false =>
      -- nothing is told, and nothing was there to be removed
      have habsent : table.delete key = (false, (table.delete key).2) :=
        Prod.ext ((table.delete_fst key).trans hobject) rfl
      rw [onTable, Table.delete_snd_of_absent habsent]
      rfl
  | updateStatus key expected status => exact (table.keys_offered key expected status).symm

/-! ## Runs -/

/-- A step in the life of a store in memory. -/
inductive StoreStep where
  | operate (operation : Operation)
  | openWatch
  | drain (index : Nat)

namespace StoreStep

def act (store : MemoryStore) : StoreStep → MemoryStore
  | .operate operation => (store.perform operation).2
  | .openWatch => { store with watches := store.watches.opened }
  | .drain index => { store with watches := (store.watches.drain index).2 }

def told (table : Table) : StoreStep → List Change
  | .operate operation => operation.told table
  | .openWatch => []
  | .drain _ => []

/-- A step with which a reader begins to be told: it opens the watch at an index, or drains it. -/
inductive Marks (store : MemoryStore) (index : Nat) : StoreStep → Prop where
  | opens (hnew : index = store.watches.length) : Marks store index .openWatch
  | drains (hold : index < store.watches.length) : Marks store index (.drain index)

end StoreStep

namespace MemoryStore

/-- A store after some steps. -/
def after (store : MemoryStore) (steps : List StoreStep) : MemoryStore :=
  steps.foldl StoreStep.act store

/-- The changes that are told in some steps, in the order in which they are made. -/
def told : MemoryStore → List StoreStep → List Change
  | _, [] => []
  | store, step :: rest => step.told store.table ++ (step.act store).told rest

end MemoryStore

namespace StoreStep

variable {store : MemoryStore} {index : Nat}

/-- A step keeps the table of a store keyed. -/
theorem keyed_act (hkeyed : store.table.Keyed) (step : StoreStep) :
    (step.act store).table.Keyed := by
  cases step with
  | operate operation =>
    rw [act, MemoryStore.table_perform]
    exact hkeyed.onTable operation
  | openWatch => exact hkeyed
  | drain other => exact hkeyed

/-- A reader that follows the changes of a step follows the keys of the store. -/
theorem foldl_onKeys_told (store : MemoryStore) (step : StoreStep) :
    (step.told store.table).foldl Change.onKeys store.table.keys =
      (step.act store).table.keys := by
  cases step with
  | operate operation =>
    rw [act, MemoryStore.table_perform]
    exact Operation.foldl_onKeys_told store.table operation
  | openWatch => rfl
  | drain other => rfl

/-- A step tells a watch its changes, unless it drains the watch. -/
theorem getElem?_watches_act (hkeyed : store.table.Keyed) {step : StoreStep} {watch : Watch}
    (hwatch : store.watches[index]? = some watch) (hstep : step ≠ .drain index) :
    (step.act store).watches[index]? =
      some ((step.told store.table).foldl Watch.push watch) := by
  cases step with
  | operate operation =>
    rw [act, MemoryStore.watches_perform hkeyed, Watches.getElem?_foldl_publish, hwatch]
    rfl
  | openWatch =>
    have hold : index < store.watches.length := List.getElem?_eq_some_iff.mp hwatch |>.1
    exact (List.getElem?_append_left hold).trans hwatch
  | drain other =>
    have hother : other ≠ index := fun h => hstep (congrArg drain h)
    rw [act, Watches.drain]
    cases store.watches[other]? with
    | none => exact hwatch
    | some drained => exact (List.getElem?_set_ne hother).trans hwatch

/-- A reader begins with a fresh watch, and the objects stay as they are. -/
theorem Marks.act {step : StoreStep} (h : step.Marks store index) :
    (step.act store).watches[index]? = some .fresh ∧ (step.act store).table = store.table := by
  cases h with
  | opens hnew =>
    subst hnew
    exact ⟨List.getElem?_concat_length, rfl⟩
  | drains hold =>
    refine ⟨?_, rfl⟩
    rw [StoreStep.act, Watches.drain, List.getElem?_eq_getElem hold]
    exact List.getElem?_set_self hold

end StoreStep

namespace MemoryStore

variable {store : MemoryStore} {index : Nat}

/-- Steps in a row keep the table of a store keyed. -/
theorem keyed_after (hkeyed : store.table.Keyed) (steps : List StoreStep) :
    (store.after steps).table.Keyed := by
  induction steps generalizing store with
  | nil => exact hkeyed
  | cons step rest ih => exact ih (step.keyed_act hkeyed)

/-- Told of all steps, a reader that knows the keys before them knows the keys after them. -/
theorem foldl_onKeys_told (store : MemoryStore) (steps : List StoreStep) :
    (store.told steps).foldl Change.onKeys store.table.keys = (store.after steps).table.keys := by
  induction steps generalizing store with
  | nil => rfl
  | cons step rest ih =>
    rw [told, List.foldl_append, step.foldl_onKeys_told, ih]
    rfl

/-- A watch that is not drained in some steps is told their changes. -/
theorem getElem?_watches_after (hkeyed : store.table.Keyed) {steps : List StoreStep}
    {watch : Watch} (hwatch : store.watches[index]? = some watch)
    (hsteps : ∀ step ∈ steps, step ≠ .drain index) :
    (store.after steps).watches[index]? = some ((store.told steps).foldl Watch.push watch) := by
  induction steps generalizing store watch with
  | nil => exact hwatch
  | cons step rest ih =>
    have hstep := StoreStep.getElem?_watches_act hkeyed hwatch (hsteps step List.mem_cons_self)
    rw [told, List.foldl_append]
    exact ih (step.keyed_act hkeyed) hstep fun later hlater =>
      hsteps later (List.mem_cons_of_mem step hlater)

/-- A reader is given the changes since it looked last, or the word that it missed some and the
newest that a watch has room for. When it missed none, what it makes of the keys at the time when it
looked last are the keys of the store. -/
theorem drain_since_mark {before since : List StoreStep} {mark : StoreStep} {index : Nat}
    (hmark : mark.Marks (empty.after before) index)
    (hsince : ∀ step ∈ since, step ≠ .drain index) :
    let last := empty.after (before ++ [mark])
    let now := empty.after (before ++ mark :: since)
    let changes := ((Store.memory now).drain index).1
    changes = Watch.given (last.told since) ∧
      (.resync ∉ changes →
        changes.foldl Change.onKeys (empty.after before).table.keys = now.table.keys) := by
  intro last now changes
  -- the reader begins with a fresh watch, which is told all that is made since
  have hlast : last = mark.act (empty.after before) := List.foldl_append
  have hnow : now = last.after since := by
    rw [hlast]
    exact List.foldl_append
  obtain ⟨hfresh, htable⟩ := hmark.act
  rw [← hlast] at hfresh htable
  have hkeyed : last.table.Keyed := keyed_after Table.keyed_empty (before ++ [mark])
  have hwatch : now.watches[index]? = some ((last.told since).foldl Watch.push .fresh) := by
    rw [hnow]
    exact getElem?_watches_after hkeyed hfresh hsince
  have hchanges : changes = Watch.given (last.told since) := by
    show (now.watches.drain index).1 = _
    rw [Watches.drain, hwatch, ← Watch.drain_foldl_push_fresh]
  refine ⟨hchanges, fun hnone => ?_⟩
  rw [hchanges, Watch.given_of_resync_notMem (hchanges ▸ hnone), ← htable, foldl_onKeys_told, hnow]

/-- A group is declared, gets a status and is removed twice, while another reader looks. -/
def declaringAndRemoving : List StoreStep :=
  [.operate (.apply "private" (Site.privateGroup "first")),
   .operate (.updateStatus Site.privateKey 1 Site.unprovisioned),
   .drain 0,
   .operate (.delete Site.privateKey),
   .operate (.delete Site.privateKey)]

/-- The second reader of the store is given one change of each sort, and is left with no key. -/
theorem drain_since_mark_declaringAndRemoving :
    let now := empty.after ([.openWatch] ++ .openWatch :: declaringAndRemoving)
    let changes := ((Store.memory now).drain 1).1
    changes = [.applied Site.privateKey, .deleted Site.privateKey] ∧
      changes.foldl Change.onKeys empty.table.keys = now.table.keys := by
  intro now changes
  have hmark : StoreStep.Marks (empty.after [.openWatch]) 1 .openWatch := .opens rfl
  have hsince : ∀ step ∈ declaringAndRemoving, step ≠ .drain 1 := by
    simp [declaringAndRemoving]
  obtain ⟨hchanges, hkeys⟩ := drain_since_mark hmark hsince
  have htold :
      Watch.given ((empty.after ([.openWatch] ++ [.openWatch])).told declaringAndRemoving) =
        [.applied Site.privateKey, .deleted Site.privateKey] := rfl
  rw [htold] at hchanges
  refine ⟨hchanges, hkeys ?_⟩
  rw [hchanges]
  decide

end MemoryStore

end Reconciler
