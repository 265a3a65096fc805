import Mathlib.Data.List.Induction
import Mathlib.Data.List.Nodup
import Mathlib.Logic.Relation
import Reconciler.Dispatch.Loop
import Reconciler.Proofs.Dispatch.Attention
import Reconciler.Proofs.Store.Session

/-!
# Edits of several clients at once

An edit changes the table of a store at one moment and tells the change to the watches at a later
one, and other edits may come in between (`Shared.Step`). So the changes can be told in another
order than they were made in. The last that is told about an object agrees with the table unless an
older change of the other sort is told after the last one (`Shared.Overtaken`), and then a reader of
the changes takes an object that is there for one that was removed, or the other way round.
-/

set_option autoImplicit false

namespace Reconciler

/-! ## The two moments of an edit -/

/-- What an edit makes of a table, and the change that it then has to tell. What is refused and the
removal of what is not there have nothing to tell. -/
def Edit.act (table : Table) : Edit → Table × Option Change
  | .apply name manifest => match table.apply name manifest with
    | .ok (object, after) => (after, some (.applied object.key))
    | .error _ => (table, none)
  | .delete key => match table.delete key with
    | (true, after) => (after, some (.deleted key))
    | (false, after) => (after, none)

/-- A store in memory changes its table and then tells the change. -/
theorem MemoryStore.perform_edit (store : MemoryStore) (edit : Edit) :
    (store.perform edit.operation).2 =
      ⟨(edit.act store.table).1,
        (edit.act store.table).2.elim store.watches store.watches.publish⟩ := by
  cases edit with
  | apply name manifest =>
    simp only [Edit.operation, perform, apply, Edit.act]
    cases store.table.apply name manifest <;> rfl
  | delete key =>
    simp only [Edit.operation, perform, delete, Edit.act]
    rcases store.table.delete key with ⟨_ | _, after⟩ <;> rfl

/-- A store in a file writes its changed table in between, and tells the change when that works. -/
theorem FileStore.run_perform_edit {φ : Type} (system : FileSystem φ) (store : FileStore)
    (edit : Edit) (files : φ) :
    ((store.perform edit.operation).run system files).1.2.table = (edit.act store.table).1 ∧
      ((store.perform edit.operation).run system files).1.2.watches =
        match (edit.act store.table).2, (Script.run system
          (replace store.path (Document.write (edit.act store.table).1.toList)).run files).1 with
        | some change, .ok () => store.watches.publish change
        | _, _ => store.watches := by
  cases edit with
  | apply name manifest =>
    simp only [Edit.operation, perform, apply, Edit.act]
    cases store.table.apply name manifest with
    | error error => exact ⟨rfl, rfl⟩
    | ok result =>
      simp only [run_commit]
      rcases Script.run system (replace store.path (Document.write result.2.toList)).run files
        with ⟨_ | _, left⟩ <;> exact ⟨rfl, rfl⟩
  | delete key =>
    simp only [Edit.operation, perform, delete, Edit.act]
    rcases store.table.delete key with ⟨_ | _, after⟩
    · exact ⟨rfl, rfl⟩
    · simp only [run_commit]
      rcases Script.run system (replace store.path (Document.write after.toList)).run files
        with ⟨_ | _, left⟩ <;> exact ⟨rfl, rfl⟩

/-- How far the edit of a client has come. -/
inductive Client where
  | ready (edit : Edit)
  /-- The table is changed, and the change is not told yet. -/
  | acted (change : Change)
  | done

/-- A store that several clients edit at once. Changes are noted with the client that made them. -/
structure Shared where
  table : Table
  clients : List Client
  /-- The changes of the table in the order in which they were made. -/
  made : List (Nat × Change)
  /-- The changes in the order in which they were told. -/
  told : List (Nat × Change)
  /-- The changes that were not told because the table could not be written. -/
  lost : List (Nat × Change)

namespace Shared

def start (table : Table) (edits : List Edit) : Shared :=
  ⟨table, edits.map .ready, [], [], []⟩

/-- Any client goes on by one moment of its edit. -/
inductive Step : Shared → Shared → Prop where
  | acts {store : Shared} {client : Nat} {edit : Edit} {after : Table} {change : Change}
      (hready : store.clients[client]? = some (.ready edit))
      (hact : edit.act store.table = (after, some change)) :
      Step store { store with
        table := after
        clients := store.clients.set client (.acted change)
        made := store.made ++ [(client, change)] }
  | idles {store : Shared} {client : Nat} {edit : Edit} {after : Table}
      (hready : store.clients[client]? = some (.ready edit))
      (hact : edit.act store.table = (after, none)) :
      Step store { store with table := after, clients := store.clients.set client .done }
  | tells {store : Shared} {client : Nat} {change : Change}
      (hacted : store.clients[client]? = some (.acted change)) :
      Step store { store with
        clients := store.clients.set client .done
        told := store.told ++ [(client, change)] }
  | loses {store : Shared} {client : Nat} {change : Change}
      (hacted : store.clients[client]? = some (.acted change)) :
      Step store { store with
        clients := store.clients.set client .done
        lost := store.lost ++ [(client, change)] }

end Shared

/-! ## The last about an object -/

/-- The last change about an object in a list of changes with their clients: who made it, and
whether it declared the object. -/
def lastAbout? (key : Key) (changes : List (Nat × Change)) : Option (Nat × Bool) :=
  (changes.filterMap fun entry => (entry.2.word? key).map (entry.1, ·)).getLast?

variable {key : Key} {changes : List (Nat × Change)} {client : Nat} {word : Bool}

/-- The last change about an object is the newest one if that is about it, and else the last one
before. -/
theorem lastAbout?_concat (key : Key) (changes : List (Nat × Change)) (entry : Nat × Change) :
    lastAbout? key (changes ++ [entry]) =
      ((entry.2.word? key).map (entry.1, ·)).or (lastAbout? key changes) := by
  rw [lastAbout?, List.filterMap_append, List.getLast?_append, List.filterMap_cons]
  cases entry.2.word? key <;> rfl

/-- The last word about an object is the word of its last change. -/
theorem lastWord?_eq_map (key : Key) (changes : List (Nat × Change)) :
    lastWord? key (changes.map (·.2)) = (lastAbout? key changes).map (·.2) := by
  induction changes using List.reverseRecOn with
  | nil => rfl
  | append_singleton changes entry ih =>
    rw [List.map_append, List.map_singleton, lastWord?_append, lastWord?_singleton, ih,
      lastAbout?_concat]
    cases entry.2.word? key <;> rfl

/-- No change about the object follows the last one. -/
theorem exists_of_lastAbout? (h : lastAbout? key changes = some (client, word)) :
    ∃ before change after, changes = before ++ (client, change) :: after ∧
      change.word? key = some word ∧ ∀ entry ∈ after, entry.2.word? key = none := by
  induction changes using List.reverseRecOn with
  | nil => cases h
  | append_singleton changes entry ih =>
    rw [lastAbout?_concat] at h
    cases hword : entry.2.word? key with
    | some last =>
      rw [hword] at h
      cases h
      exact ⟨changes, entry.2, [], rfl, hword, by simp⟩
    | none =>
      rw [hword] at h
      obtain ⟨before, change, after, rfl, hchange, hafter⟩ := ih h
      refine ⟨before, change, after ++ [entry], by simp, hchange, fun other hother => ?_⟩
      rcases List.mem_append.mp hother with hold | hnew
      · exact hafter other hold
      · rw [List.mem_singleton.mp hnew, hword]

/-- An object that some change is about has a last change. -/
theorem lastAbout?_ne_none {entry : Nat × Change} (hmem : entry ∈ changes)
    (hword : entry.2.word? key ≠ none) : lastAbout? key changes ≠ none := by
  intro hnone
  have hempty := List.filterMap_eq_nil_iff.mp (List.getLast?_eq_none_iff.mp hnone) entry hmem
  exact hword (Option.map_eq_none_iff.mp hempty)

/-- Another client's change about the object comes before the last one. -/
theorem sublist_of_lastAbout? {other : Nat} {change : Change}
    (hlast : lastAbout? key changes = some (client, word)) (hmem : (other, change) ∈ changes)
    (hword : change.word? key ≠ none) (hne : other ≠ client) :
    [other, client].Sublist (changes.map (·.1)) := by
  obtain ⟨before, last, after, rfl, -, hafter⟩ := exists_of_lastAbout? hlast
  have hbefore : (other, change) ∈ before := by
    rcases List.mem_append.mp hmem with hbefore | hrest
    · exact hbefore
    rcases List.mem_cons.mp hrest with heq | hlater
    · exact absurd (congrArg Prod.fst heq) hne
    · exact absurd (hafter _ hlater) hword
  have hother : other ∈ before.map (·.1) := List.mem_map.mpr ⟨_, hbefore, rfl⟩
  rw [List.map_append, List.map_cons]
  exact (List.singleton_sublist.mpr hother).append ((List.nil_sublist _).cons_cons client)

/-! ## What an edit does to the table -/

namespace Edit

variable {table after : Table} {edit : Edit}

/-- An edit takes the table where the operation of a store takes it. -/
theorem act_eq_onTable (table : Table) (edit : Edit) :
    (edit.act table).1 = edit.operation.onTable table := by
  cases edit with
  | apply name manifest =>
    simp only [act, operation, Operation.onTable, Table.applied]
    cases table.apply name manifest <;> rfl
  | delete key =>
    simp only [act, operation, Operation.onTable]
    rcases table.delete key with ⟨_ | _, after⟩ <;> rfl

/-- An edit keeps the objects of a table under their own keys. -/
theorem keyed_of_act {change? : Option Change} (hkeyed : table.Keyed)
    (h : edit.act table = (after, change?)) : after.Keyed := by
  obtain rfl : edit.operation.onTable table = after := by rw [← act_eq_onTable, h]
  exact hkeyed.onTable edit.operation

/-- An edit with nothing to tell leaves the table alone. -/
theorem eq_of_act_none (h : edit.act table = (after, none)) : after = table := by
  cases edit with
  | apply name manifest =>
    simp only [act] at h
    split at h
    · cases h
    · cases h
      rfl
  | delete key =>
    simp only [act] at h
    split at h
    · cases h
    · next hdelete =>
      cases h
      exact Table.delete_snd_of_absent hdelete

/-- The change that an edit tells is what it did: the object that the change is about is there when
it was declared and not when it was removed, and every other object is as it was. -/
theorem get?_of_act {change : Change} (hkeyed : table.Keyed)
    (h : edit.act table = (after, some change)) (key : Key) :
    match change.word? key with
    | some word => (after.get? key).isSome = word
    | none => after.get? key = table.get? key := by
  cases edit with
  | apply name manifest =>
    simp only [act] at h
    split at h
    · next object result hresult =>
      cases h
      rw [Change.word?, hkeyed.apply hresult, Table.get?_of_apply hresult]
      split <;> simp_all
    · cases h
  | delete other =>
    simp only [act] at h
    split at h
    · next result hdelete =>
      cases h
      have hget := table.get?_delete other key
      rw [hdelete] at hget
      rw [Change.word?, hget]
      split <;> simp_all
    · cases h

end Edit

/-! ## Runs -/

namespace Shared

/-- What holds at every moment of a run. -/
structure Sound (store : Shared) : Prop where
  keyed : store.table.Keyed
  /-- The last change of an object that was made tells whether it is there. -/
  current : ∀ key client word, lastAbout? key store.made = some (client, word) →
    (store.table.get? key).isSome = word
  /-- A client makes at most one change. -/
  once : (store.made.map (·.1)).Nodup
  unmade : ∀ client edit, store.clients[client]? = some (.ready edit) →
    client ∉ store.made.map (·.1)
  acted : ∀ client change, store.clients[client]? = some (.acted change) →
    (client, change) ∈ store.made
  told : ∀ entry ∈ store.told, entry ∈ store.made
  /-- A change that was made is told or lost, or its client has still to go on. -/
  made : ∀ entry ∈ store.made, entry ∈ store.told ∨ entry ∈ store.lost ∨
    store.clients[entry.1]? = some (.acted entry.2)

/-- What holds at every moment holds before the first edit. -/
theorem sound_start {table : Table} (hkeyed : table.Keyed) (edits : List Edit) :
    (start table edits).Sound where
  keyed := hkeyed
  current key client word h := by cases h
  once := List.nodup_nil
  unmade client edit h := List.not_mem_nil
  acted client change h := by
    rw [start, List.getElem?_map] at h
    obtain ⟨edit, -, hready⟩ := Option.map_eq_some_iff.mp h
    cases hready
  told entry h := by cases h
  made entry h := by cases h

variable {store after : Shared}

/-- A client after one of them was set is the one that was set, or one that was not touched. -/
theorem set_cases {clients : List Client} {client other : Nat} {now found : Client}
    (h : (clients.set client now)[other]? = some found) :
    client = other ∧ found = now ∨ client ≠ other ∧ clients[other]? = some found := by
  rw [List.getElem?_set] at h
  split at h
  · next heq =>
    split at h
    · exact .inl ⟨heq, (Option.some.inj h).symm⟩
    · cases h
  · next hne => exact .inr ⟨hne, h⟩

/-- A change that waits to be told still waits when another client goes on. -/
theorem set_of_acted {clients : List Client} {client : Nat} {was now : Client}
    {entry : Nat × Change} (hwas : clients[client]? = some was)
    (h : clients[entry.1]? = some (.acted entry.2)) :
    was = .acted entry.2 ∧ entry.1 = client ∨
      (clients.set client now)[entry.1]? = some (.acted entry.2) := by
  by_cases hclient : client = entry.1
  · rw [hclient, h] at hwas
    exact .inl ⟨(Option.some.inj hwas).symm, hclient.symm⟩
  · exact .inr (by rw [List.getElem?_set_ne hclient, h])

variable {change : Change} {edit : Edit} {table : Table}

/-- The first moment of an edit keeps what holds at every moment. -/
theorem Sound.acts (h : store.Sound) (hready : store.clients[client]? = some (.ready edit))
    (hact : edit.act store.table = (table, some change)) :
    Sound { store with
      table
      clients := store.clients.set client (.acted change)
      made := store.made ++ [(client, change)] } where
  keyed := Edit.keyed_of_act h.keyed hact
  current key other word hlast := by
    have hget := Edit.get?_of_act h.keyed hact key
    rw [lastAbout?_concat] at hlast
    cases hword : change.word? key with
    | some last =>
      rw [hword] at hlast hget
      cases hlast
      exact hget
    | none =>
      rw [hword] at hlast hget
      rw [hget]
      exact h.current key other word hlast
  once := by
    rw [List.map_append, List.map_singleton, ← List.concat_eq_append]
    exact h.once.concat (h.unmade client edit hready)
  unmade other later hother := by
    rcases set_cases hother with ⟨-, hfound⟩ | ⟨hne, hother⟩
    · cases hfound
    · rw [List.map_append, List.mem_append, not_or]
      exact ⟨h.unmade other later hother, fun hmem => hne (List.mem_singleton.mp hmem).symm⟩
  acted other waiting hother := by
    rcases set_cases hother with ⟨rfl, hfound⟩ | ⟨-, hother⟩
    · cases hfound
      exact List.mem_append_right _ List.mem_cons_self
    · exact List.mem_append_left _ (h.acted other waiting hother)
  told entry hentry := List.mem_append_left _ (h.told entry hentry)
  made entry hentry := by
    rcases List.mem_append.mp hentry with hold | hnew
    -- an older change is still waiting, since the client that acts now had made none
    · refine (h.made entry hold).imp_right fun hrest => hrest.imp_right fun hacted => ?_
      rcases set_of_acted hready hacted with ⟨hwas, -⟩ | hstill
      · cases hwas
      · exact hstill
    · obtain rfl := List.mem_singleton.mp hnew
      obtain ⟨hlt, -⟩ := List.getElem?_eq_some_iff.mp hready
      exact .inr (.inr (List.getElem?_set_self hlt))

/-- Once a client is done, its change is among those that were told or lost. -/
theorem Sound.done (h : store.Sound) {told lost : List (Nat × Change)} {was : Client}
    (hwas : store.clients[client]? = some was)
    (htold : ∀ entry ∈ told, entry ∈ store.made)
    (hfirst : ∀ entry ∈ store.told, entry ∈ told) (hsecond : ∀ entry ∈ store.lost, entry ∈ lost)
    (hsettled : ∀ change, was = .acted change → (client, change) ∈ told ∨ (client, change) ∈ lost) :
    Sound { store with clients := store.clients.set client .done, told, lost } where
  keyed := h.keyed
  current := h.current
  once := h.once
  unmade other edit hother := by
    rcases set_cases hother with ⟨-, hfound⟩ | ⟨-, hother⟩
    · cases hfound
    · exact h.unmade other edit hother
  acted other change hother := by
    rcases set_cases hother with ⟨-, hfound⟩ | ⟨-, hother⟩
    · cases hfound
    · exact h.acted other change hother
  told := htold
  made entry hentry := by
    rcases h.made entry hentry with htold | hlost | hacted
    · exact .inl (hfirst entry htold)
    · exact .inr (.inl (hsecond entry hlost))
    · rcases set_of_acted hwas hacted with ⟨hchange, hclient⟩ | hstill
      · have hsettled := hsettled entry.2 hchange
        rw [← hclient] at hsettled
        exact hsettled.imp_right .inl
      · exact .inr (.inr hstill)

/-- Every step keeps what holds of a run. -/
theorem Sound.step (h : store.Sound) (hstep : Step store after) : after.Sound := by
  cases hstep with
  | acts hready hact => exact h.acts hready hact
  | idles hready hact =>
    obtain rfl := Edit.eq_of_act_none hact
    exact h.done hready h.told (fun _ => id) (fun _ => id) fun change hchange => by cases hchange
  | @tells client change hacted =>
    refine h.done hacted (fun entry hentry => ?_) (fun _ => List.mem_append_left _) (fun _ => id)
      fun other hother => ?_
    · rcases List.mem_append.mp hentry with hold | hnew
      · exact h.told entry hold
      · rw [List.mem_singleton.mp hnew]
        exact h.acted client change hacted
    · cases hother
      exact .inl (List.mem_append_right _ List.mem_cons_self)
  | loses hacted =>
    refine h.done hacted h.told (fun _ => id) (fun _ => List.mem_append_left _)
      fun other hother => ?_
    cases hother
    exact .inr (List.mem_append_right _ List.mem_cons_self)

/-- What holds at every moment holds throughout a run. -/
theorem sound_of_run {table : Table} (hkeyed : table.Keyed) {edits : List Edit}
    (hrun : Relation.ReflTransGen Step (start table edits) store) : store.Sound := by
  induction hrun with
  | refl => exact sound_start hkeyed edits
  | tail _ hstep ih => exact ih.step hstep

/-! ## The order of telling -/

/-- The last change of an object was lost or told too early: nothing was told about the object, or
an older change of the other sort was told after it. -/
def Overtaken (store : Shared) (key : Key) : Prop :=
  ∃ last word, lastAbout? key store.made = some (last, word) ∧
    ((lastAbout? key store.told = none ∧ last ∈ store.lost.map (·.1)) ∨
      ∃ older, lastAbout? key store.told = some (older, !word) ∧
        [older, last].Sublist (store.made.map (·.1)) ∧
        (last ∈ store.lost.map (·.1) ∨ [last, older].Sublist (store.told.map (·.1))))

/-- When no client has anything left to do, the last that was told about an object that was changed
agrees with the table unless its last change was overtaken. -/
theorem Sound.lastWord?_told_eq_iff (h : store.Sound)
    (hdone : ∀ client ∈ store.clients, client = .done) {key : Key}
    (htouched : lastAbout? key store.made ≠ none) :
    lastWord? key (store.told.map (·.2)) = some (store.table.get? key).isSome ↔
      ¬store.Overtaken key := by
  obtain ⟨⟨last, word⟩, hlast⟩ := Option.ne_none_iff_exists'.mp htouched
  rw [lastWord?_eq_map, h.current key last word hlast]
  obtain ⟨before, change, later, hmade, hchange, -⟩ := exists_of_lastAbout? hlast
  have hmem : (last, change) ∈ store.made := by simp [hmade]
  have hword : change.word? key ≠ none := by simp [hchange]
  have hsettled : (last, change) ∈ store.told ∨ (last, change) ∈ store.lost := by
    rcases h.made _ hmem with htold | hlost | hacted
    · exact .inl htold
    · exact .inr hlost
    · have hdone := hdone _ (List.mem_of_getElem? hacted)
      cases hdone
  constructor
  · rintro hagrees ⟨other, said, hother, hovertaken⟩
    rw [hlast] at hother
    cases hother
    rcases hovertaken with ⟨hnone, -⟩ | ⟨older, holder, -⟩
    · rw [hnone] at hagrees
      cases hagrees
    · rw [holder] at hagrees
      cases word <;> cases hagrees
  · intro hnot
    by_contra hdisagrees
    refine hnot ⟨last, word, hlast, ?_⟩
    cases htold : lastAbout? key store.told with
    | none =>
      refine .inl ⟨rfl, ?_⟩
      rcases hsettled with hthere | hlost
      · exact absurd htold (lastAbout?_ne_none hthere hword)
      · exact List.mem_map.mpr ⟨_, hlost, rfl⟩
    | some said =>
      obtain ⟨older, said⟩ := said
      obtain ⟨earlier, oldChange, rest, htoldEq, hold, -⟩ := exists_of_lastAbout? htold
      have holdMade : (older, oldChange) ∈ store.made := h.told _ (by simp [htoldEq])
      rw [htold] at hdisagrees
      have hopposite : said = !word := by
        cases said <;> cases word <;> simp_all
      have hne : older ≠ last := by
        rintro rfl
        -- a client makes one change, so the two words are one
        cases List.inj_on_of_nodup_map h.once holdMade hmem rfl
        rw [hchange, hopposite] at hold
        cases word <;> cases hold
      refine .inr ⟨older, by rw [hopposite],
        sublist_of_lastAbout? hlast holdMade (by simp [hold]) hne, ?_⟩
      rcases hsettled with hthere | hlost
      · exact .inr (sublist_of_lastAbout? htold hthere hword hne.symm)
      · exact .inl (List.mem_map.mpr ⟨_, hlost, rfl⟩)

end Shared

/-! ## A reader of the changes -/

/-- What a change does to the agenda of a reader. -/
def Change.onAgenda (time : Nat) (agenda : Agenda) : Change → Agenda
  | .applied key => agenda.schedule key time
  | .deleted key => agenda.forget key
  | .resync => agenda

/-- The run loop does no more to its agenda, unless it is told to list the store. -/
theorem Dispatch.handle_eq_done {change : Change} (h : change ≠ .resync) (time : Nat)
    (progress : Progress) :
    ∃ notices, handle time progress change =
      .done ⟨change.onAgenda time progress.agenda, notices⟩ := by
  cases change with
  | applied key => exact ⟨_, rfl⟩
  | deleted key => exact ⟨_, rfl⟩
  | resync => exact absurd rfl h

/-- An object is on the agenda after a change if the change says so, and else if it was there
before. -/
theorem Change.due?_onAgenda (time : Nat) (agenda : Agenda) (change : Change) (key : Key) :
    ((change.onAgenda time agenda).due? key).isSome =
      (change.word? key).getD (agenda.due? key).isSome := by
  cases change with
  | applied other =>
    rw [onAgenda, Agenda.due?_schedule, word?]
    split <;> rfl
  | deleted other =>
    rw [onAgenda, Agenda.due?_forget, word?]
    split <;> rfl
  | resync => rfl

/-- An object is on the agenda when the last that was told about it is that it was declared. -/
theorem due?_foldl_onAgenda (time : Nat) (changes : List Change) (agenda : Agenda) (key : Key) :
    ((changes.foldl (Change.onAgenda time) agenda).due? key).isSome =
      (lastWord? key changes).getD (agenda.due? key).isSome := by
  induction changes generalizing agenda with
  | nil => rfl
  | cons change rest ih =>
    rw [List.foldl_cons, ih, lastWord?_cons, Change.due?_onAgenda]
    cases lastWord? key rest <;> rfl

namespace Shared

variable {table : Table} {edits : List Edit} {store : Shared}

/-- When several clients have edited a store at once and are done, the last that was told about an
object agrees with the table unless its last change was overtaken, and a reader of the changes has
left out an object that is there exactly when its last change was overtaken. -/
theorem told_agrees_iff (hkeyed : table.Keyed)
    (hrun : Relation.ReflTransGen Step (start table edits) store)
    (hdone : ∀ client ∈ store.clients, client = .done) (key : Key)
    (htouched : lastAbout? key store.made ≠ none) :
    (lastWord? key (store.told.map (·.2)) = some (store.table.get? key).isSome ↔
      ¬store.Overtaken key) ∧
    ∀ time, (store.table.get? key).isSome = true →
      ((((store.told.map (·.2)).foldl (Change.onAgenda time) .empty).due? key).isSome = true ↔
        ¬store.Overtaken key) := by
  have hagrees := (sound_of_run hkeyed hrun).lastWord?_told_eq_iff hdone htouched
  refine ⟨hagrees, fun time hthere => ?_⟩
  rw [hthere] at hagrees
  rw [due?_foldl_onAgenda, ← hagrees]
  cases lastWord? key (store.told.map (·.2)) with
  | none => simp [Agenda.due?, Agenda.empty]
  | some word => simp

/-! ## A declaration that is told before the removal that it followed -/

def removeAndDeclare : List Edit :=
  [.delete Site.privateKey, .apply "private" (Site.privateGroup "second")]

/-- The group was removed and then declared anew, and the removal was told last. -/
def declaredEarlier : Shared where
  table := (Site.declaredSite.table.delete Site.privateKey).2.applied "private"
    (Site.privateGroup "second")
  clients := [.done, .done]
  made := [(0, .deleted Site.privateKey), (1, .applied Site.privateKey)]
  told := [(1, .applied Site.privateKey), (0, .deleted Site.privateKey)]
  lost := []

/-- The removal and the declaration can be told in the other order than they were made in. -/
theorem run_declaredEarlier :
    Relation.ReflTransGen Step (start Site.declaredSite.table removeAndDeclare)
      declaredEarlier := by
  have hremove : (Edit.delete Site.privateKey).act Site.declaredSite.table =
      ((Site.declaredSite.table.delete Site.privateKey).2, some (.deleted Site.privateKey)) := rfl
  have hdeclare : (Edit.apply "private" (Site.privateGroup "second")).act
      (Site.declaredSite.table.delete Site.privateKey).2 =
        (declaredEarlier.table, some (.applied Site.privateKey)) := rfl
  refine .head (@Step.acts (start Site.declaredSite.table removeAndDeclare) 0 _ _ _ rfl hremove) ?_
  refine .head (@Step.acts _ 1 _ _ _ rfl hdeclare) ?_
  refine .head (@Step.tells _ 1 _ rfl) ?_
  exact .single (@Step.tells _ 0 _ rfl)

/-- The group is there, the last that was told is that it was removed, and a reader of the changes
has forgotten it. -/
theorem told_agrees_iff_declaredEarlier :
    declaredEarlier.Overtaken Site.privateKey ∧
      (declaredEarlier.table.get? Site.privateKey).isSome = true ∧
      lastWord? Site.privateKey (declaredEarlier.told.map (·.2)) ≠
        some (declaredEarlier.table.get? Site.privateKey).isSome ∧
      ∀ time, ((declaredEarlier.told.map (·.2)).foldl (Change.onAgenda time) .empty).due?
        Site.privateKey = none := by
  have hovertaken : declaredEarlier.Overtaken Site.privateKey :=
    ⟨1, true, rfl, .inr ⟨0, rfl, by decide, .inr (by decide)⟩⟩
  have hthere : (declaredEarlier.table.get? Site.privateKey).isSome = true := rfl
  have hkeyed : Site.declaredSite.table.Keyed := Table.keyed_ofList _
  obtain ⟨hagrees, hscheduled⟩ := told_agrees_iff hkeyed run_declaredEarlier
    (by simp [declaredEarlier]) Site.privateKey (by decide)
  refine ⟨hovertaken, hthere, fun hsame => hagrees.mp hsame hovertaken, fun time => ?_⟩
  by_contra hdue
  exact (hscheduled time hthere).mp (Option.isSome_iff_ne_none.mpr hdue) hovertaken

end Shared

end Reconciler
