import Reconciler.Proofs.Dispatch.Pass

/-!
# The run loop forgets nothing

The run loop over a store in memory, while other clients write to the store before any request
and between any two of its steps. At every moment between two steps, each declared object that is
not a completed deletion request is on the agenda, or is announced by a change that waits, or is
going to be listed because changes were dropped.
-/

set_option autoImplicit false

namespace Reconciler

/-- Handles the next change of the store, if one waits. -/
def Dispatch.handleNext (time : Nat) (progress : Progress) : Work Progress :=
  .ask .nextChange fun answer => match answer with
    | some change => handle time progress change
    | none => .done progress

namespace Site

variable {φ μ : Type} (system : FileSystem φ) (provider : Provider μ) {p : Key → Prop} {key : Key}

/-- Listing all objects puts each of them on the agenda. -/
theorem agendaAttends_scheduleObjects (time : Nat) (progress : Dispatch.Progress)
    {crowd : Crowded φ μ} (h : AttendsAmid p crowd) :
    let listed := disturbed system crowd
    AgendaAttends (progress.scheduleObjects time listed.table.toList).agenda
      (listed, crowd.2.tail) := by
  obtain ⟨⟨table, watches, watch, hlistens, -⟩, hedits⟩ := h.disturbed system
  refine ⟨⟨table, watches, watch, hlistens, fun key hkey => .inl ?_⟩, hedits⟩
  have hunlisted := ((Agenda.due?_scheduleAll_eq_none_iff _ _ _ _).mp hkey).1
  refine fun object hobject => absurd ?_ hunlisted
  refine List.mem_map.mpr ⟨object, ?_, hlistens.keyed key object hobject⟩
  rw [hlistens.table_eq]
  exact (Table.mem_toList_iff _ _).mpr ⟨key, hobject⟩

/-- When no other client has anything to write, a run is a run at the site alone. -/
theorem run_serveAmid_nil {α : Type} (work : Work α) (site : Site φ μ) :
    work.run (serveAmid system provider) (site, []) =
      ((work.run (serve system provider) site).1,
        (work.run (serve system provider) site).2, []) := by
  induction work generalizing site with
  | done value => rfl
  | ask request next ih => exact ih _ _

/-- When no change waits, asking for one leaves everything as it is. -/
theorem eq_of_serve_nextChange {site after : Site φ μ}
    (h : serve system provider .nextChange site = (none, after)) : site = after := by
  simp only [serve, Store.nextChange] at h
  split at h
  · cases h
  · cases h
    rfl

/-- What is read of the changes is what the watch says. -/
theorem Listens.serve_nextChange {site : Site φ μ} {table : Table} {watches : Watches}
    {watch : Watch} (h : site.Listens table watches watch) :
    serve system provider .nextChange site = match watch.next? with
      | none => (none, site)
      | some (change, rest) => (some change,
        { site with store := .memory ⟨table, watches.set site.watch rest⟩ }) := by
  have hwatch : site.store.watches[site.watch]?.bind Watch.next? = watch.next? := by
    rw [h.store_eq]
    exact congrArg (Option.bind · Watch.next?) h.watch_eq
  simp only [serve, Store.nextChange, hwatch]
  cases watch.next? with
  | none => rfl
  | some next =>
    rw [h.store_eq]
    rfl

/-- Once a change was read, the rest of the watch still tells of all removals. -/
theorem Listens.next {site : Site φ μ} {table : Table} {watches : Watches} {watch rest : Watch}
    {change : Change} (h : site.Listens table watches watch)
    (hnext : watch.next? = some (change, rest)) :
    ({ site with store := .memory ⟨table, watches.set site.watch rest⟩ } : Site φ μ).Listens table
      (watches.set site.watch rest) rest where
  store_eq := rfl
  watch_eq := by
    obtain ⟨hindex, -⟩ := List.getElem?_eq_some_iff.mp h.watch_eq
    exact List.getElem?_set_self hindex
  keyed := h.keyed
  removed key hfalse := by
    refine h.removed key ?_
    rcases Watch.next?_cases hnext with ⟨-, -, rfl⟩ | ⟨-, hpending, -⟩
    · exact hfalse
    · rw [hpending, lastWord?_cons, hfalse]
      rfl

/-- A change that was read is not needed any more by the objects that it does not tell of. -/
theorem finished_or_announces_of_next {table : Table} {watch rest : Watch} {change : Change}
    (hnext : watch.next? = some (change, rest)) (hresync : change ≠ .resync)
    (hword : change.word? key = none) (h : table.Finished key ∨ watch.Announces key) :
    table.Finished key ∨ rest.Announces key := by
  refine h.imp_right fun hannounced => ?_
  rcases Watch.next?_cases hnext with ⟨-, hchange, -⟩ | ⟨hlagged, hpending, -⟩
  · exact absurd hchange hresync
  · rcases hannounced with htrue | htrue
    · rw [hpending, lastWord?_cons, hword, Option.or_none] at htrue
      exact .inl htrue
    · rw [hlagged] at htrue
      cases htrue

/-- An object whose removal was read is not there, unless it was declared anew. -/
theorem finished_or_announces_of_deleted {site : Site φ μ} {table : Table} {watches : Watches}
    {watch rest : Watch} (h : site.Listens table watches watch)
    (hnext : watch.next? = some (.deleted key, rest)) :
    table.Finished key ∨ rest.Announces key := by
  rcases Watch.next?_cases hnext with ⟨-, hchange, -⟩ | ⟨-, hpending, -⟩
  · cases hchange
  · have hremoved := h.removed key
    rw [hpending, lastWord?_cons, Change.word?_eq_false_iff.mpr rfl] at hremoved
    cases hword : lastWord? key rest.pending with
    | none =>
      rw [hword] at hremoved
      exact .inl (Table.finished_of_get?_none (hremoved rfl))
    | some word =>
      cases word with
      | true => exact .inr (.inl hword)
      | false =>
        rw [hword] at hremoved
        exact .inl (Table.finished_of_get?_none (hremoved rfl))

/-- The next change is handled, if one waits. -/
theorem agendaAttends_handleNext (time : Nat) (progress : Dispatch.Progress)
    {crowd : Crowded φ μ} (h : AgendaAttends progress.agenda crowd) :
    let result := (Dispatch.handleNext time progress).run (serveAmid system provider) crowd
    AgendaAttends result.1.agenda result.2 := by
  obtain ⟨⟨table, watches, watch, hlistens, hall⟩, hedits⟩ := h.disturbed system
  have hread := hlistens.serve_nextChange system provider
  rw [Dispatch.handleNext, Script.run_ask, serveAmid]
  dsimp only at hread ⊢
  rw [hread]
  cases hnext : watch.next? with
  | none => exact ⟨⟨table, watches, watch, hlistens, hall⟩, hedits⟩
  | some next =>
    obtain ⟨change, rest⟩ := next
    have hlistens' := hlistens.next hnext
    cases change with
    | applied key =>
      refine ⟨⟨table, _, rest, hlistens', fun other hother => ?_⟩, hedits⟩
      obtain ⟨hne, hdue⟩ := (Agenda.due?_schedule_eq_none_iff _ _ _ _).mp hother
      exact finished_or_announces_of_next hnext (by simp) (by simp [Change.word?, hne])
        (hall other hdue)
    | deleted key =>
      refine ⟨⟨table, _, rest, hlistens', fun other hother => ?_⟩, hedits⟩
      by_cases hsame : key = other
      · obtain rfl := hsame
        exact finished_or_announces_of_deleted hlistens hnext
      · have hdue : progress.agenda.due? other = none := by
          have hforgotten := progress.agenda.due?_forget key other
          rw [if_neg hsame] at hforgotten
          rw [← hforgotten]
          exact hother
        exact finished_or_announces_of_next hnext (by simp) (by simp [Change.word?, hsame])
          (hall other hdue)
    | resync =>
      -- all objects are listed, so nothing has to be known of the agenda before
      exact agendaAttends_scheduleObjects (p := fun _ => False) system time progress
        ⟨⟨table, _, rest, hlistens', fun _ => False.elim⟩, hedits⟩

end Site

/-! ## Runs -/

/-- What a run loop holds between two of its steps. -/
structure RunLoop (φ μ : Type) where
  site : Site φ μ
  progress : Dispatch.Progress

namespace RunLoop

variable {φ μ : Type}

/-- A step of the run loop, or anything else between two of them. The steps come with what the
other clients write before each of their requests. -/
inductive Turn (φ μ : Type) where
  /-- Another client writes. -/
  | client (edit : Edit)
  /-- Something happens to the files or at the provider. -/
  | elsewhere (files : φ → φ) (memory : μ → μ)
  /-- The next change of the store is handled. -/
  | change (time : Nat) (amid : List (List Edit))
  /-- There is a pass for every object that is due. -/
  | batch (now : Int64) (time : Nat) (amid : List (List Edit))

section

variable (system : FileSystem φ) (provider : Provider μ) (config : EngineConfig)

def work (loop : RunLoop φ μ) (amid : List (List Edit))
    (script : Dispatch.Progress → Work Dispatch.Progress) : RunLoop φ μ :=
  let (progress, site, _) := (script loop.progress).run (Site.serveAmid system provider)
    (loop.site, amid.map (·.map Edit.operation))
  ⟨site, progress⟩

def turn (loop : RunLoop φ μ) : Turn φ μ → RunLoop φ μ
  | .client edit => { loop with site := loop.site.perform system edit.operation }
  | .elsewhere files memory => { loop with
    site := { loop.site with files := files loop.site.files, memory := memory loop.site.memory } }
  | .change time amid => loop.work system provider amid (Dispatch.handleNext time)
  | .batch now time amid => loop.work system provider amid (Dispatch.runDue config now time)

/-- Begins a run loop at a store in memory: it opens a watch and then lists the store. -/
def launch (store : MemoryStore) (files : φ) (memory : μ) (time : Nat) (amid : List (List Edit)) :
    Except Error (RunLoop φ μ) :=
  let (watch, store) := (Store.memory store).watch
  let (answer, site, _) := (Dispatch.start time).run (Site.serveAmid system provider)
    (⟨store, watch, files, memory⟩, amid.map (·.map Edit.operation))
  answer.map fun progress => ⟨site, progress⟩

end

/-- Each object that is not on the agenda is attended to. -/
def Attends (loop : RunLoop φ μ) : Prop :=
  loop.site.Attends fun key => loop.progress.agenda.due? key = none

variable (system : FileSystem φ) (provider : Provider μ) (config : EngineConfig)

/-- A turn of the loop leaves no object unattended. -/
theorem Attends.turn {loop : RunLoop φ μ} (h : loop.Attends) (turn : Turn φ μ) :
    (loop.turn system provider config turn).Attends := by
  have hamid (amid : List (List Edit)) : Site.AgendaAttends loop.progress.agenda
      (loop.site, amid.map (·.map Edit.operation)) := ⟨h, amid, rfl⟩
  cases turn with
  | client edit => exact Site.Attends.perform system h edit
  | elsewhere files memory => exact Site.Attends.congr h rfl rfl
  | change time amid =>
    exact (Site.agendaAttends_handleNext system provider time loop.progress (hamid amid)).1
  | batch now time amid =>
    exact (Site.agendaAttends_runDue system provider config now time loop.progress (hamid amid)).1

/-- No turns of the loop leave an object unattended. -/
theorem Attends.turns {loop : RunLoop φ μ} (h : loop.Attends) (turns : List (Turn φ μ)) :
    (turns.foldl (RunLoop.turn system provider config) loop).Attends := by
  induction turns generalizing loop with
  | nil => exact h
  | cons turn rest ih => exact ih (h.turn system provider config turn)

/-- A run loop always begins, and attends to every object from then on. -/
theorem attends_launch (store : MemoryStore) (hkeyed : store.table.Keyed) (files : φ) (memory : μ)
    (time : Nat) (amid : List (List Edit)) :
    ∃ loop, launch system provider store files memory time amid = .ok loop ∧ loop.Attends := by
  have hlistens : (⟨.memory ⟨store.table, store.watches.opened⟩, store.watches.length, files,
      memory⟩ : Site φ μ).Listens store.table store.watches.opened .fresh :=
    ⟨rfl, by simp [Watches.opened], hkeyed, fun key h => by cases h⟩
  refine ⟨_, rfl, ?_⟩
  exact (Site.agendaAttends_scheduleObjects (p := fun _ => False) system time
    ⟨.empty, [.started _]⟩ ⟨⟨_, _, _, hlistens, fun _ => False.elim⟩, amid, rfl⟩).1

/-- Without edits a step is a run at the site alone. -/
theorem work_nil (loop : RunLoop φ μ) (script : Dispatch.Progress → Work Dispatch.Progress) :
    loop.work system provider [] script =
      ⟨((script loop.progress).run (Site.serve system provider) loop.site).2,
        ((script loop.progress).run (Site.serve system provider) loop.site).1⟩ := by
  rw [work, List.map_nil, Site.run_serveAmid_nil]

/-- What the run loop does at an instant is some of its steps, one after the other. -/
theorem exists_turns_of_settle (now : Int64) (time steps : Nat) (loop : RunLoop φ μ) :
    ∃ turns : List (Turn φ μ),
      let result := (Dispatch.settle config now time steps loop.progress).run
        (Site.serve system provider) loop.site
      turns.foldl (turn system provider config) loop = ⟨result.2, result.1⟩ := by
  induction steps generalizing loop with
  | zero => exact ⟨[], rfl⟩
  | succ steps ih =>
    rw [Dispatch.settle, Script.run_ask]
    rcases hread : Site.serve system provider .nextChange loop.site with ⟨_ | change, site⟩
    · obtain rfl := Site.eq_of_serve_nextChange system provider hread
      dsimp only
      split
      · obtain ⟨turns, hturns⟩ := ih (loop.turn system provider config (.batch now time []))
        refine ⟨.batch now time [] :: turns, ?_⟩
        rw [turn, work_nil] at hturns
        rw [List.foldl_cons, turn, work_nil, Script.run_bind]
        exact hturns
      · exact ⟨[], rfl⟩
    · have hhandle : (Dispatch.handleNext time loop.progress).run (Site.serve system provider)
          loop.site = (Dispatch.handle time loop.progress change).run
            (Site.serve system provider) site := by
        rw [Dispatch.handleNext, Script.run_ask, hread]
      obtain ⟨turns, hturns⟩ := ih (loop.turn system provider config (.change time []))
      refine ⟨.change time [] :: turns, ?_⟩
      rw [turn, work_nil, hhandle] at hturns
      rw [List.foldl_cons, turn, work_nil, hhandle, Script.run_bind]
      exact hturns

/-- No object is forgotten. A run loop begins at a store in memory that operations have filled,
and from then on, whatever other clients write before its requests and between its steps, each
object that is there and is not a completed deletion request is on the agenda, or was declared by
a change that is still to be read and that no removal follows, or changes were dropped and the
next thing to be read is that all objects are to be listed. -/
theorem every_object_attended (history : List Operation) (watches : Watches) (files : φ)
    (memory : μ) (time : Nat) (amid : List (List Edit)) :
    ∃ loop, launch system provider ⟨Table.empty.after history, watches⟩ files memory time amid =
        .ok loop ∧
      ∀ turns : List (Turn φ μ),
        let reached := turns.foldl (turn system provider config) loop
        ∀ key object, reached.site.table.get? key = some object →
          object.status ≠ .deletion .completed →
          (reached.progress.agenda.due? key).isSome ∨
            ∃ watch, reached.site.store.watches[reached.site.watch]? = some watch ∧
              ((∃ before after, watch.pending = before ++ .applied key :: after ∧
                  .deleted key ∉ after) ∨
                watch.lagged = true ∧
                  watch.next? = some (.resync, { watch with lagged := false })) := by
  obtain ⟨loop, hlaunch, hattends⟩ := attends_launch system provider
    ⟨Table.empty.after history, watches⟩ (Table.keyed_empty.after history) files memory time amid
  refine ⟨loop, hlaunch, fun turns => ?_⟩
  intro reached key object hobject hopen
  obtain ⟨table, watches, watch, hlistens, hall⟩ :=
    hattends.turns system provider config turns
  cases hdue : reached.progress.agenda.due? key with
  | some due => exact .inl rfl
  | none =>
    have hwatch : reached.site.store.watches[reached.site.watch]? = some watch := by
      rw [hlistens.store_eq]
      exact hlistens.watch_eq
    rw [hlistens.table_eq] at hobject
    refine .inr ⟨watch, hwatch, ?_⟩
    -- the object is off the agenda, so it is finished or still to be announced
    rcases hall key hdue with hfinished | hword | hlagged
    · exact absurd (hfinished object hobject) hopen
    · exact .inl (exists_of_lastWord? hword)
    · exact .inr ⟨hlagged, by rw [Watch.next?, if_pos hlagged]⟩

/-- A group that is declared while the run loop runs is attended to. -/
theorem every_object_attended_privateGroup :
    let turns : List (Turn Disk Simulator.State) :=
      [.client (.apply "private" (Site.privateGroup "first"))]
    ∃ loop, launch Disk.system (Simulator.provider .default) ⟨.empty, []⟩ .empty .fresh 0 [] =
        .ok loop ∧
      let reached := turns.foldl (turn Disk.system (Simulator.provider .default) .default) loop
      ∃ object, reached.site.table.get? Site.privateKey = some object ∧
        object.status ≠ .deletion .completed ∧
        ((reached.progress.agenda.due? Site.privateKey).isSome ∨
          ∃ watch, reached.site.store.watches[reached.site.watch]? = some watch ∧
            ((∃ before after, watch.pending = before ++ .applied Site.privateKey :: after ∧
                .deleted Site.privateKey ∉ after) ∨
              watch.lagged = true ∧
                watch.next? = some (.resync, { watch with lagged := false }))) := by
  intro turns
  obtain ⟨loop, hlaunch, hall⟩ := every_object_attended Disk.system
    (Simulator.provider .default) .default [] [] .empty .fresh 0 []
  refine ⟨loop, hlaunch, ?_⟩
  have htable : loop.site.table = .empty := by
    cases hlaunch
    rfl
  have hobject : (loop.site.perform Disk.system
      (.apply "private" (Site.privateGroup "first"))).table.get? Site.privateKey =
        some (.fresh "private" (Site.privateGroup "first")) := by
    have hblank : Text.isBlank "private" = false := by decide
    rw [Site.table_perform, htable]
    simp [Operation.onTable, Table.applied, Table.apply, hblank, Table.get?, Table.empty,
      Site.privateGroup, Site.privateKey, Manifest.kind]
  have hopen : (Declaration.fresh "private" (Site.privateGroup "first")).status ≠
      .deletion .completed := by decide
  exact ⟨_, hobject, hopen, hall turns _ _ hobject hopen⟩

end RunLoop

end Reconciler
