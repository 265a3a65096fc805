import Reconciler.Dispatch.Loop
import Reconciler.Proofs.Dispatch.Agenda
import Reconciler.Proofs.Dispatch.Attention

/-!
# Batches of passes

A pass attends to all objects but its own, and to its own when it says that no pass is left to do
(`PassAttends`). So after a batch of passes each object is on the agenda or attended to, when it
was so before.
-/

set_option autoImplicit false

namespace Reconciler

namespace Dispatch

variable (config : EngineConfig) (time : Nat) (key : Key)

/-- The run loop after a pass has reported. -/
def Progress.reported (progress : Progress) (report : Report) : Progress :=
  let agenda := match (report.settled config key).1 with
    | none => progress.agenda
    | some delay => progress.agenda.schedule key (time + delay.milliseconds)
  Progress.tell { progress with agenda } (report.settled config key).2

/-- A run of passes is its first pass and the run of the others, which starts from its report. -/
theorem runAll_cons (now : Int64) (progress : Progress) (rest : List Key) :
    runAll config now time progress (key :: rest) = (pass config now key).bind fun report =>
      runAll config now time (progress.reported config time key report) rest := rfl

variable {config time key}

/-- What is not on the agenda after a report was not there before, and if it is the object of the
report then no pass is left to do. -/
theorem due?_reported {progress : Progress} {report : Report} {other : Key}
    (h : (progress.reported config time key report).agenda.due? other = none) :
    progress.agenda.due? other = none ∧ (key = other → report.next = .ok none) := by
  simp only [Progress.reported, Progress.tell, Report.settled] at h
  cases hnext : report.next with
  | error error =>
    rw [hnext] at h
    obtain ⟨hne, hdue⟩ := (Agenda.due?_schedule_eq_none_iff _ _ _ _).mp h
    exact ⟨hdue, fun hsame => absurd hsame hne⟩
  | ok delay =>
    rw [hnext] at h
    cases delay with
    | none => exact ⟨h, fun _ => rfl⟩
    | some delay =>
      obtain ⟨hne, hdue⟩ := (Agenda.due?_schedule_eq_none_iff _ _ _ _).mp h
      exact ⟨hdue, fun hsame => absurd hsame hne⟩

/-- A pass that was successful and leaves nothing to do has completed a deletion request. -/
theorem completed_of_succeeded {outcome : Outcome Status} {changed : Bool}
    (h : (succeeded config key outcome changed).next = .ok none) :
    outcome.status = .deletion .completed := by
  by_cases hcompleted : outcome.status = .deletion .completed
  · exact hcompleted
  · simp [succeeded, hcompleted] at h

end Dispatch

namespace Site

variable {φ μ : Type} (system : FileSystem φ) (provider : Provider μ) (config : EngineConfig)
  {p : Key → Prop} {crowd : Crowded φ μ} {key : Key}

/-! ## Passes -/

/-- What a pass leaves of a crowd: every object but its own is attended to, and its own as well
when no pass is left to do. -/
def PassAttends (p : Key → Prop) (key : Key) (result : Dispatch.Report × Crowded φ μ) : Prop :=
  AttendsAmid p result.2 ∧
    (result.1.next = .ok none → AttendsAmid (fun other => p other ∨ other = key) result.2)

/-- A commit for another object keeps every object attended to. -/
theorem attends_operate_updateStatus {site : Site φ μ} (h : site.Attends p) (hkey : ¬ p key)
    (expected : UInt64) (status : Status) :
    (site.operate system (·.updateStatus key expected status)).2.Attends p ∧
      ∀ version, (site.operate system (·.updateStatus key expected status)).1 = .ok version →
        status = .deletion .completed →
        (site.operate system (·.updateStatus key expected status)).2.Attends
          fun other => p other ∨ other = key := by
  obtain ⟨table, watches, watch, hlistens, hall⟩ := h
  rw [hlistens.operate system (·.updateStatus key expected status) rfl]
  cases hresult : table.updateStatus key expected status with
  | error error =>
    simp only [MemoryStore.updateStatus, hresult]
    refine ⟨.retable hlistens hlistens.keyed (fun _ => id) hall, fun version h => ?_⟩
    cases h
  | ok result =>
    obtain ⟨version, after⟩ := result
    have hget := Table.get?_of_updateStatus hresult
    have hoffered : table.offered key expected status = after := by rw [Table.offered, hresult]
    have hkeyed := hoffered ▸ hlistens.keyed.offered key expected status
    -- a commit declares nothing, and it leaves all objects but its own as they are
    have hnone : ∀ other, table.get? other = none → after.get? other = none := fun other h => by
      rw [hget]
      split
      · next hsame => rw [hsame, h]; rfl
      · exact h
    have hothers : ∀ other, p other → after.Finished other ∨ watch.Announces other := by
      intro other hother
      have hne : key ≠ other := fun h => hkey (h ▸ hother)
      refine (hall other hother).imp_left fun hfinished object hobject => ?_
      rw [hget, if_neg hne] at hobject
      exact hfinished object hobject
    simp only [MemoryStore.updateStatus, hresult]
    refine ⟨.retable hlistens hkeyed hnone hothers, fun _ _ hcompleted => ?_⟩
    refine .retable hlistens hkeyed hnone ?_
    rintro other (hother | rfl)
    · exact hothers other hother
    · refine .inl fun object hobject => ?_
      rw [hget, if_pos rfl] at hobject
      obtain ⟨_, -, rfl⟩ := Option.map_eq_some_iff.mp hobject
      exact hcompleted

/-- What concludes a pass. An object whose status is not committed anew may only be left alone if
it was finished before. -/
theorem passAttends_conclude (h : AttendsAmid p crowd) (hkey : ¬ p key) (object : Declaration)
    (hfinished : object.status = .deletion .completed →
      AttendsAmid (fun other => p other ∨ other = key) crowd)
    (result : Except Error (Except Failure (Outcome Status))) :
    PassAttends p key
      ((Dispatch.conclude config key object result).run (serveAmid system provider) crowd) := by
  rcases result with error | failure | outcome
  · exact ⟨h, fun hnext => by cases hnext⟩
  · exact ⟨h, fun hnext => by cases hnext⟩
  simp only [Dispatch.conclude, Dispatch.commit]
  split
  · next hsame =>
    exact ⟨h, fun hnext => hfinished (hsame ▸ Dispatch.completed_of_succeeded hnext)⟩
  · obtain ⟨hattends, hedits⟩ := h.disturbed system
    obtain ⟨hafter, hcompleted⟩ := attends_operate_updateStatus system hattends hkey
      object.version outcome.status
    have hserve : serveAmid system provider (.commit key object.version outcome.status) crowd =
        (((disturbed system crowd).operate system
          (·.updateStatus key object.version outcome.status)).1,
        (((disturbed system crowd).operate system
          (·.updateStatus key object.version outcome.status)).2, crowd.2.tail)) := rfl
    rw [Script.run_ask, hserve]
    dsimp only
    split
    · next version hanswer =>
      refine ⟨⟨hafter, hedits⟩, fun hnext => ⟨?_, hedits⟩⟩
      exact hcompleted version hanswer (Dispatch.completed_of_succeeded hnext)
    · split
      · exact ⟨⟨hafter, hedits⟩, fun hnext => by cases hnext⟩
      · exact ⟨⟨hafter, hedits⟩, fun hnext => by cases hnext⟩

/-- A pass attends to all objects but its own, and to its own when no pass is left to do. -/
theorem passAttends_pass (now : Int64) (h : AttendsAmid p crowd) (hkey : ¬ p key) :
    PassAttends p key
      ((Dispatch.pass config now key).run (serveAmid system provider) crowd) := by
  have hread := h.disturbed system
  have hget : serveAmid system provider (.get key) crowd =
      (.ok ((disturbed system crowd).table.get? key),
        (disturbed system crowd, crowd.2.tail)) := rfl
  rw [Dispatch.pass, Script.run_ask, hget]
  cases hobject : (disturbed system crowd).table.get? key with
  | none =>
    exact ⟨hread, fun _ => ⟨hread.1.or_finished (Table.finished_of_get?_none hobject), hread.2⟩⟩
  | some object =>
    have hrun : ∀ {q}, AttendsAmid q (disturbed system crowd, crowd.2.tail) →
        AttendsAmid q ((Dispatch.engine config now object).run (serveAmid system provider)
          (disturbed system crowd, crowd.2.tail)).2 := fun hq =>
      (Dispatch.asks_engine config now object).run_invariant _
        (fun request _ hrequest hcrowd => hcrowd.serve system provider request hrequest) hq
    have hconclude := passAttends_conclude system provider config (hrun hread) hkey
      object (fun hstatus => hrun ⟨hread.1.or_finished (fun current hcurrent => by
        rw [hobject] at hcurrent
        cases hcurrent
        exact hstatus), hread.2⟩)
      ((Dispatch.engine config now object).run (serveAmid system provider)
          (disturbed system crowd, crowd.2.tail)).1
    exact (Script.run_bind (serveAmid system provider) (Dispatch.engine config now object)
      (Dispatch.conclude config key object) _).symm ▸ hconclude

/-! ## Batches -/

/-- Each object that is not on an agenda is attended to. -/
def AgendaAttends (agenda : Agenda) (crowd : Crowded φ μ) : Prop :=
  AttendsAmid (fun key => agenda.due? key = none) crowd

/-- Passes over objects that were taken off the agenda put back what has passes left to do. -/
theorem agendaAttends_runAll (now : Int64) (time : Nat) (keys : List Key)
    (progress : Dispatch.Progress) {crowd : Crowded φ μ}
    (h : AttendsAmid (fun key => progress.agenda.due? key = none ∧ key ∉ keys) crowd) :
    let result := (Dispatch.runAll config now time progress keys).run (serveAmid system provider)
      crowd
    AgendaAttends result.1.agenda result.2 := by
  -- By induction on the keys: the first of them is on the agenda after its pass, or finished.
  induction keys generalizing progress crowd with
  | nil => exact h.imp fun key hkey => ⟨hkey, List.not_mem_nil⟩
  | cons key rest ih =>
    have hkey : ¬(progress.agenda.due? key = none ∧ key ∉ key :: rest) := fun hkey =>
      hkey.2 List.mem_cons_self
    obtain ⟨hothers, hdone⟩ := passAttends_pass system provider config now h hkey
    rw [Dispatch.runAll_cons, Script.run_bind]
    refine ih _ ?_
    by_cases hnext :
        ((Dispatch.pass config now key).run (serveAmid system provider) crowd).1.next = .ok none
    · refine (hdone hnext).imp fun other hother => ?_
      by_cases hsame : other = key
      · exact .inr hsame
      · refine .inl ⟨(Dispatch.due?_reported hother.1).1, ?_⟩
        rw [List.mem_cons, not_or]
        exact ⟨hsame, hother.2⟩
    · refine hothers.imp fun other hother => ?_
      obtain ⟨hdue, hkey⟩ := Dispatch.due?_reported hother.1
      refine ⟨hdue, ?_⟩
      rw [List.mem_cons, not_or]
      exact ⟨fun hsame => hnext (hkey hsame.symm), hother.2⟩

/-- A batch of passes over all that is due. -/
theorem agendaAttends_runDue (now : Int64) (time : Nat) (progress : Dispatch.Progress)
    {crowd : Crowded φ μ} (h : AgendaAttends progress.agenda crowd) :
    let result := (Dispatch.runDue config now time progress).run (serveAmid system provider) crowd
    AgendaAttends result.1.agenda result.2 :=
  agendaAttends_runAll system provider config now time _ _
    (h.imp fun _ hkey => Agenda.due?_of_takeDue hkey.2 hkey.1)

end Site

end Reconciler
