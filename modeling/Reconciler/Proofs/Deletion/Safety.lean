import Reconciler.Proofs.Site
import Reconciler.Proofs.Site.Requests
import Reconciler.Proofs.Store.Table

/-!
# Deletion safety

A pass of the dispatcher asks the provider to delete a resource only for a created deletion
request, only the target of that request, and only while no declared object blocks it; with a
blocker it asks nothing of the provider and changes nothing. So it is at every moment of every
run, whatever clients do to the store between the passes and whatever the provider answers.
-/

set_option autoImplicit false

namespace Reconciler

/-- Whether the object under a key asks for the deletion of a target that nothing blocks. -/
def Justified (key : Key) (target : Target) (table : Table) : Prop :=
  ∃ object spec, table.get? key = some object ∧ object.manifest = .deletion spec ∧
    object.status = .deletion .created ∧ (spec.kind, spec.identifier) = target ∧
    ∀ other declaration, table.get? other = some declaration → ¬ Blocks target declaration

/-- What happens at a site: a pass of the dispatcher, or anything else between two passes. -/
inductive Turn (φ μ : Type) where
  | pass (now : Int64) (key : Key)
  /-- A client makes an operation on the store. -/
  | client (operation : Operation)
  /-- Something happens to the files or at the provider. -/
  | elsewhere (files : φ → φ) (memory : μ → μ)

namespace Site

variable {φ μ : Type} (system : FileSystem φ) (provider : Provider μ) (config : EngineConfig)

def turn (site : Site φ μ) : Turn φ μ → Site φ μ
  | .pass now key => (site.pass system provider config now key).2
  | .client operation => site.perform system operation
  | .elsewhere files memory =>
    { site with files := files site.files, memory := memory site.memory }

/-- What the passes of a run ask, each request with the key of its pass and the site as it is at
that moment. -/
def history : List (Turn φ μ) → Site φ μ → List (Key × Request × Site φ μ)
  | [], _ => []
  | .pass now key :: rest, site =>
    (site.requests system provider config now key).map (key, ·) ++
      history rest (site.turn system provider config (.pass now key))
  | event :: rest, site => history rest (site.turn system provider config event)

/-- A delete call of a pass is justified by the store as it is when the call is made. -/
theorem justified_of_mem_requests (now : Int64) (key : Key) (site : Site φ μ)
    {kind : ResourceKind} {identifier : String} {moment : Site φ μ}
    (h : (.call (.delete kind identifier), moment) ∈
      site.requests system provider config now key) :
    moment.store = site.store ∧ Justified key (kind, identifier) moment.table := by
  obtain ⟨object, hobject, hpermits, hstore⟩ := call_cases system provider config now key site h
  refine ⟨hstore, ?_⟩
  have htable : moment.table = site.table := congrArg Store.table hstore
  unfold Permits at hpermits
  split at hpermits
  · exact absurd hpermits.2 (by simp [Call.isDeletion])
  · next spec state hmanifest hstatus =>
    obtain ⟨htarget, hdeletes⟩ := hpermits
    obtain ⟨rfl, hfree⟩ := hdeletes rfl
    have htarget' : (spec.kind, spec.identifier) = (kind, identifier) := htarget.symm
    refine ⟨object, spec, by rw [htable, hobject], hmanifest, hstatus, htarget', ?_⟩
    intro other declaration hother
    rw [htable] at hother
    rw [← htarget']
    exact hfree declaration ((Table.mem_toList_iff _ _).mpr ⟨other, hother⟩)
  · exact hpermits.elim

/-- Every delete call of a run is justified by the store as it is when the call is made. -/
theorem justified_of_mem_history (turns : List (Turn φ μ)) (site : Site φ μ) {key : Key}
    {kind : ResourceKind} {identifier : String} {moment : Site φ μ}
    (h : (key, .call (.delete kind identifier), moment) ∈
      site.history system provider config turns) :
    Justified key (kind, identifier) moment.table := by
  -- By induction on the turns: a request of the run is one of its first pass or comes later.
  induction turns generalizing site with
  | nil => simp [history] at h
  | cons event rest ih =>
    cases event with
    | client operation => exact ih _ h
    | elsewhere files memory => exact ih _ h
    | pass now passKey =>
      rw [history, List.mem_append, List.mem_map] at h
      rcases h with ⟨entry, hentry, heq⟩ | h
      · simp only [Prod.mk.injEq] at heq
        obtain ⟨rfl, rfl⟩ := heq
        exact (justified_of_mem_requests system provider config now _ site hentry).2
      · exact ih _ h

/-- The engine of a created request that the guard refuses only looks at the objects. -/
theorem engine_refused (now : Int64) (site : Site φ μ) {object : Declaration}
    {spec : DeletionSpec} {error : Error} (hmanifest : object.manifest = .deletion spec)
    (hstatus : object.status = .deletion .created)
    (hcheck : Guard.check (spec.kind, spec.identifier) site.table.toList = .error error) :
    (Dispatch.engine config now object).run (serve system provider) site =
        (.ok (.error (config.fail error)), site) ∧
      (Dispatch.engine config now object).trace (serve system provider) site =
        [(.list, site)] := by
  have hpass := Deletion.pass_of_check_error config spec hcheck
  refine ⟨?_, ?_⟩
  · rw [Dispatch.engine_deletion config now hmanifest hstatus, Script.run_ask, serve_list]
    dsimp only
    rw [hpass]
    rfl
  · rw [Dispatch.engine_deletion config now hmanifest hstatus, Script.trace_ask, serve_list]
    dsimp only
    rw [hpass]
    rfl

/-- With a blocker, a pass over a created request asks the provider nothing and changes nothing
at the site. -/
theorem run_pass_blocked (now : Int64) (key : Key) (site : Site φ μ) {object : Declaration}
    {spec : DeletionSpec} (hobject : site.table.get? key = some object)
    (hmanifest : object.manifest = .deletion spec) (hstatus : object.status = .deletion .created)
    {other : Key} {declaration : Declaration}
    (hother : site.table.get? other = some declaration)
    (hblocks : Blocks (spec.kind, spec.identifier) declaration) :
    (∀ call moment, (.call call, moment) ∉ site.requests system provider config now key) ∧
      (site.pass system provider config now key).2 = site ∧
      (site.pass system provider config now key).1.next = .ok (some config.onBlocked) := by
  have hfound : Guard.check (spec.kind, spec.identifier) site.table.toList ≠ .ok () := by
    rw [Ne, Guard.check_eq_ok_iff]
    intro hfree
    exact hfree declaration ((Table.mem_toList_iff _ _).mpr ⟨other, hother⟩) hblocks
  cases hcheck : Guard.check (spec.kind, spec.identifier) site.table.toList with
  | ok _ => exact absurd hcheck hfound
  | error error =>
    have hblocked := Guard.isBlocked_of_check hcheck
    obtain ⟨hrun, htrace⟩ :=
      engine_refused system provider config now site hmanifest hstatus hcheck
    refine ⟨?_, ?_, ?_⟩
    · intro call moment hmem
      rw [requests_of_get? system provider config now hobject, htrace] at hmem
      simp only [List.cons_append, List.nil_append, List.mem_cons] at hmem
      rcases hmem with hmem | hmem | hmem
      · cases hmem
      · cases hmem
      · obtain ⟨status, hcommit⟩ := Dispatch.mem_trace_conclude hmem
        cases hcommit
    · rw [pass_of_get? system provider config now hobject, hrun]
      rfl
    · rw [pass_of_get? system provider config now hobject, hrun]
      simp only [Dispatch.conclude, Script.run_done, EngineConfig.fail, hblocked, if_true]

/-- Deletion safety. A delete call of a pass, and of any pass of a run, is for the target of a
created deletion request under the key of the pass, and no object blocks it at that moment. A
pass over a created request that is blocked makes no call, changes nothing, and waits for the
delay of blocked deletions. -/
theorem deletions_wait_for_blockers (site : Site φ μ) :
    (∀ now key kind identifier moment,
      (.call (.delete kind identifier), moment) ∈ site.requests system provider config now key →
        moment.store = site.store ∧ Justified key (kind, identifier) moment.table) ∧
    (∀ now key object spec, site.table.get? key = some object →
      object.manifest = .deletion spec → object.status = .deletion .created →
      (∃ other declaration, site.table.get? other = some declaration ∧
        Blocks (spec.kind, spec.identifier) declaration) →
      (∀ call moment, (.call call, moment) ∉ site.requests system provider config now key) ∧
        (site.pass system provider config now key).2 = site ∧
        (site.pass system provider config now key).1.next = .ok (some config.onBlocked)) ∧
    (∀ turns key kind identifier moment,
      (key, .call (.delete kind identifier), moment) ∈
        site.history system provider config turns →
      Justified key (kind, identifier) moment.table) := by
  refine ⟨?_, ?_, ?_⟩
  · intro now key kind identifier moment h
    exact justified_of_mem_requests system provider config now key site h
  · rintro now key object spec hobject hmanifest hstatus ⟨other, declaration, hother, hblocks⟩
    exact run_pass_blocked system provider config now key site hobject hmanifest hstatus hother
      hblocks
  · intro turns key kind identifier moment h
    exact justified_of_mem_history system provider config turns site h

/-! ## A request with and without a blocker -/

def dropRequest : Declaration :=
  { key := ⟨.deletion, "drop-db1"⟩
    version := 2
    manifest := .deletion ⟨.cluster, "db1"⟩
    status := .deletion .created }

def memberOfTarget : Declaration :=
  .fresh "db1-a" (.resource .dbInstance ⟨"db1-a", "db1", "aurora-mysql", "large", none, none⟩)

def freeSite : Site Disk Simulator.State :=
  inMemory ⟨.ofList [dropRequest], []⟩ .fresh

def blockedSite : Site Disk Simulator.State :=
  inMemory ⟨.ofList [memberOfTarget, dropRequest], []⟩ .fresh

/-- The only object of the free site is its request. -/
theorem get?_freeSite (key : Key) :
    freeSite.table.get? key = if dropRequest.key = key then some dropRequest else none := by
  show (Table.empty.put dropRequest).get? key = _
  rw [Table.get?_put, Table.get?_empty]

/-- A pass over the request of the free site asks for the deletion of its cluster. -/
theorem call_mem_requests_freeSite :
    (.call (.delete .cluster "db1"), freeSite) ∈
      freeSite.requests Disk.system (Simulator.provider .default) .default 0 dropRequest.key := by
  have hobject : freeSite.table.get? dropRequest.key = some dropRequest := by
    rw [get?_freeSite, if_pos rfl]
  have hcheck : Guard.check (.cluster, "db1") freeSite.table.toList = .ok () := by
    refine (Guard.check_eq_ok_iff _ _).mpr fun declaration hmem hblocks => ?_
    obtain ⟨key, hkey⟩ := (Table.mem_toList_iff _ _).mp hmem
    rw [get?_freeSite] at hkey
    split at hkey
    · cases hkey
      exact Guard.not_blocks_of_deletion rfl hblocks
    · cases hkey
  rw [requests_of_get? _ _ _ _ hobject, Dispatch.engine_deletion _ _ rfl rfl, Script.trace_ask,
    serve_list]
  simp only [Deletion.pass, Deletion.calls, hcheck]
  exact .tail _ (.tail _ (.head _))

/-- Without the instance the provider is asked to delete the cluster, and with it nothing
happens. -/
theorem deletions_wait_for_blockers_sample :
    Justified dropRequest.key (.cluster, "db1") freeSite.table ∧
      (blockedSite.pass Disk.system (Simulator.provider .default) .default 0
        dropRequest.key).2 = blockedSite := by
  have hobject : blockedSite.table.get? dropRequest.key = some dropRequest := by
    show ((Table.empty.put memberOfTarget).put dropRequest).get? dropRequest.key = _
    rw [Table.get?_put, if_pos rfl]
  have hother : blockedSite.table.get? memberOfTarget.key = some memberOfTarget := by
    show ((Table.empty.put memberOfTarget).put dropRequest).get? memberOfTarget.key = _
    rw [Table.get?_put, if_neg (by decide), Table.get?_put, if_pos rfl]
  have hblocks : Blocks (.cluster, "db1") memberOfTarget :=
    .instanceOf ⟨"db1-a", "db1", "aurora-mysql", "large", none, none⟩ rfl
  have hsafe := deletions_wait_for_blockers Disk.system (Simulator.provider .default) .default
  refine ⟨?_, ?_⟩
  · refine (hsafe freeSite).2.2 [.client (.get dropRequest.key), .pass 0 dropRequest.key]
      dropRequest.key .cluster "db1" freeSite ?_
    exact List.mem_append_left _ (List.mem_map_of_mem call_mem_requests_freeSite)
  · exact ((hsafe blockedSite).2.1 0 _ _ _ hobject rfl rfl ⟨_, _, hother, hblocks⟩).2.1

end Site

end Reconciler
