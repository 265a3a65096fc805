import Reconciler.Proofs.Site.Deletion
import Reconciler.Proofs.Site.Run

/-!
# What a deletion request was asked for

A request gets past its created state by one pass, which asks the provider to delete what the
request names at that time, while nothing blocks it. The request keeps its state when it is
applied again, with whatever target. So an executing or completed request speaks of the target
that was asked for exactly as long as no other one is applied (`executing_iff_asked`).
-/

set_option autoImplicit false

namespace Reconciler

namespace Deletion

variable {σ : Type} {config : EngineConfig} {spec : DeletionSpec} {objects : List Declaration}
  {provider : Provider σ} {s : σ}

/-- Past its created state a request does not go back. -/
theorem carried_of_asked {state : DeletionState} (h : state = .executing ∨ state = .completed) :
    carried state ((pass allRemovers config spec state objects).run provider s).1 = .executing ∨
      carried state ((pass allRemovers config spec state objects).run provider s).1 =
        .completed := by
  rcases h with rfl | rfl
  · rw [run_pass_executing]
    rcases Calls.found? (provider (.describe spec.kind spec.identifier) s).1 with _ | _ | _
    · exact .inl rfl
    · exact .inr rfl
    · exact .inl rfl
  · exact .inr rfl

/-- A created request gets on exactly when nothing blocks it and its target is as good as
deleted. -/
theorem carried_created :
    carried .created ((pass allRemovers config spec .created objects).run provider s).1 =
        .executing ∧
      Guard.check (spec.kind, spec.identifier) objects = .ok () ∧
      Calls.gone? (provider (.delete spec.kind spec.identifier) s).1 = .ok () ∨
    carried .created ((pass allRemovers config spec .created objects).run provider s).1 =
        .created ∧
      ¬ (Guard.check (spec.kind, spec.identifier) objects = .ok () ∧
        Calls.gone? (provider (.delete spec.kind spec.identifier) s).1 = .ok ()) := by
  cases hcheck : Guard.check (spec.kind, spec.identifier) objects with
  | error error =>
    rw [pass_of_check_error config spec hcheck]
    exact .inr ⟨rfl, fun h => by cases h.1⟩
  | ok _ =>
    rw [run_pass_created config spec provider s hcheck]
    cases hgone : Calls.gone? (provider (.delete spec.kind spec.identifier) s).1 with
    | error error => exact .inr ⟨rfl, fun h => by cases h.2⟩
    | ok _ => exact .inl ⟨rfl, rfl, rfl⟩

end Deletion

namespace Site

variable {φ μ : Type}

/-- A pass over a created request that nothing blocks asks for the deletion of its target. -/
theorem delete_mem_requests (system : FileSystem φ) (provider : Provider μ)
    (config : EngineConfig) (now : Int64) {key : Key} {site : Site φ μ} {object : Declaration}
    {spec : DeletionSpec} (hobject : site.table.get? key = some object)
    (hmanifest : object.manifest = .deletion spec) (hstatus : object.status = .deletion .created)
    (hcheck : Guard.check (spec.kind, spec.identifier) site.table.toList = .ok ()) :
    (.call (.delete spec.kind spec.identifier), site) ∈
      site.requests system provider config now key := by
  rw [requests_of_get? system provider config now hobject,
    Dispatch.engine_deletion config now hmanifest hstatus, Script.trace_ask, serve_list]
  simp only [Deletion.pass, Deletion.calls, hcheck]
  exact .tail _ (.tail _ (.head _))

namespace Run

variable (run : Run φ μ) (name : String)

/-- Event number `m` is a pass that finds a request in its created state, with nothing that blocks
its target, asks the provider to delete the target, and takes it for deleted. -/
structure Asks (asked : DeletionSpec) (m : Nat) : Prop where
  requested : ∃ now, run.events m = .pass now ⟨.deletion, name⟩ ∧
    (.call (.delete asked.kind asked.identifier), run.siteAt m) ∈
      (run.siteAt m).requests run.system run.provider run.config now ⟨.deletion, name⟩
  justified : Justified ⟨.deletion, name⟩ (asked.kind, asked.identifier) (run.siteAt m).table
  accepted : Calls.gone?
    (run.provider (.delete asked.kind asked.identifier) (run.siteAt m).memory).1 = .ok ()

/-- The request is declared from event number `m` on until before event number `n`. -/
def Stays (m n : Nat) : Prop :=
  ∀ k, m < k → k ≤ n → (run.objectAt ⟨.deletion, name⟩ k).isSome

/-- What a request names before event number `n` when it named `asked` at event number `m`: the
target that was applied last. -/
inductive LastApplied (asked : DeletionSpec) (m n : Nat) : DeletionSpec → Prop where
  | asked (h : ∀ k, m < k → k < n → ∀ spec,
      run.events k ≠ .client (.apply name (.deletion spec))) : LastApplied asked m n asked
  | later (spec : DeletionSpec) (k : Nat) (hm : m < k) (hn : k < n)
      (happly : run.events k = .client (.apply name (.deletion spec)))
      (h : ∀ j, k < j → j < n → ∀ other,
        run.events j ≠ .client (.apply name (.deletion other))) : LastApplied asked m n spec

/-- Since the request was declared it was asked for. -/
def AskedSince (n : Nat) : Prop :=
  ∃ m asked, m < n ∧ run.Asks name asked m ∧ run.Stays name m n

/-- Since the request was declared it was asked for, and names `spec` now. -/
def AskedFor (n : Nat) (spec : DeletionSpec) : Prop :=
  ∃ m asked, m < n ∧ run.Asks name asked m ∧ run.Stays name m n ∧
    run.LastApplied name asked m n spec

/-- What is known of a declared request: it is past its created state exactly if it was asked for
since it was declared. -/
structure Known (n : Nat) (object : Declaration) (spec : DeletionSpec) (state : DeletionState) :
    Prop where
  manifest : object.manifest = .deletion spec
  status : object.status = .deletion state
  named : Text.isBlank name = false
  asked (h : state = .executing ∨ state = .completed) : run.AskedFor name n spec
  past (h : run.AskedSince name n) : state = .executing ∨ state = .completed

variable {run name} {n m : Nat} {asked spec : DeletionSpec} {state : DeletionState}
  {object : Declaration}

/-! ## One event -/

/-- What was applied last stays so over an event that applies nothing to the request. -/
theorem LastApplied.succ (h : run.LastApplied name asked m n spec)
    (hevent : ∀ other, run.events n ≠ .client (.apply name (.deletion other))) :
    run.LastApplied name asked m (n + 1) spec := by
  have hlater : ∀ {k}, (∀ j, k < j → j < n → ∀ other,
      run.events j ≠ .client (.apply name (.deletion other))) →
      ∀ j, k < j → j < n + 1 → ∀ other,
        run.events j ≠ .client (.apply name (.deletion other)) := by
    intro k h j hk hj
    rcases Nat.lt_succ_iff_lt_or_eq.mp hj with hlt | rfl
    · exact h j hk hlt
    · exact hevent
  cases h with
  | asked h => exact .asked (hlater h)
  | later _ k hm hn happly h => exact .later spec k hm (Nat.lt_succ_of_lt hn) happly (hlater h)

/-- A request that stays declared over one event more has stayed until then. -/
theorem Stays.succ (h : run.Stays name m n)
    (hnext : (run.objectAt ⟨.deletion, name⟩ (n + 1)).isSome) : run.Stays name m (n + 1) := by
  intro k hm hk
  rcases Nat.lt_or_eq_of_le hk with hlt | rfl
  · exact h k hm (Nat.le_of_lt_succ hlt)
  · exact hnext

/-- A request that was asked for stays so while it is declared and nothing is applied to it. -/
theorem AskedFor.succ (h : run.AskedFor name n spec)
    (hnext : (run.objectAt ⟨.deletion, name⟩ (n + 1)).isSome)
    (hevent : ∀ other, run.events n ≠ .client (.apply name (.deletion other))) :
    run.AskedFor name (n + 1) spec := by
  obtain ⟨m, asked, hm, hasks, hstays, hlast⟩ := h
  exact ⟨m, asked, Nat.lt_succ_of_lt hm, hasks, hstays.succ hnext, hlast.succ hevent⟩

/-- A request that was asked for since it was declared was asked for by the last event or before
it. -/
theorem AskedSince.of_succ (h : run.AskedSince name (n + 1)) :
    (∃ asked, run.Asks name asked n) ∨ run.AskedSince name n := by
  obtain ⟨m, asked, hm, hasks, hstays⟩ := h
  rcases Nat.lt_succ_iff_lt_or_eq.mp hm with hlt | rfl
  · exact .inr ⟨m, asked, hlt, hasks, fun k hk hn => hstays k hk (Nat.le_succ_of_le hn)⟩
  · exact .inl ⟨asked, hasks⟩

/-- An event that is no pass over the request does not ask for anything. -/
theorem AskedSince.of_succ_of_ne (h : run.AskedSince name (n + 1))
    (hevent : ∀ now, run.events n ≠ .pass now ⟨.deletion, name⟩) : run.AskedSince name n := by
  rcases h.of_succ with ⟨asked, ⟨now, hpass, -⟩, -, -⟩ | h
  · exact absurd hpass (hevent now)
  · exact h

/-- A request that was asked for since it was declared is declared. -/
theorem AskedSince.isSome (h : run.AskedSince name n) :
    (run.objectAt ⟨.deletion, name⟩ n).isSome := by
  obtain ⟨m, asked, hm, -, hstays⟩ := h
  exact hstays n hm (Nat.le_refl n)

/-- A pass over an object that is not there does not declare it. -/
theorem objectAt_succ_of_pass_none {now : Int64} {key : Key} (hevent : run.events n = .pass now key)
    (hobject : run.objectAt key n = none) : run.objectAt key (n + 1) = none := by
  have hget : (run.siteAt n).table.get? key = none := hobject
  rw [objectAt, siteAt, hevent, Event.turn, turn, pass, Dispatch.pass, Script.run_ask, serve_get,
    hget]
  exact hobject

/-- A pass over a request keeps what it names, and carries its state on as the engine says. -/
theorem objectAt_succ_of_pass {now : Int64} (hevent : run.events n = .pass now ⟨.deletion, name⟩)
    (hobject : run.objectAt ⟨.deletion, name⟩ n = some object)
    (hmanifest : object.manifest = .deletion spec) (hstatus : object.status = .deletion state) :
    ∃ current, run.objectAt ⟨.deletion, name⟩ (n + 1) = some current ∧
      current.manifest = .deletion spec ∧
      current.status = .deletion (Deletion.carried state
        ((Deletion.pass Deletion.allRemovers run.config spec state
          (run.siteAt n).table.toList).run run.provider (run.siteAt n).memory).1) := by
  obtain ⟨store, hstore⟩ := run.exists_memory n
  have htable : (run.siteAt n).table = store.table := by rw [table, hstore]; rfl
  have hget : store.table.get? ⟨.deletion, name⟩ = some object := by rw [← htable]; exact hobject
  obtain ⟨after, current, hafter, -, hcurrent, hmanifest', hstatus'⟩ :=
    pass_deletion run.system run.provider run.config now hstore hget rfl hmanifest hstatus rfl
  refine ⟨current, ?_, hmanifest'.trans hmanifest, ?_⟩
  · rw [objectAt, siteAt, hevent, Event.turn, turn, hafter]
    exact hcurrent
  · rw [hstatus', htable]

/-- A pass that finds the request created with nothing that blocks its target, and whose delete
call counts as done, asks for the target. -/
theorem asks_of_check {now : Int64} (hevent : run.events n = .pass now ⟨.deletion, name⟩)
    (hobject : run.objectAt ⟨.deletion, name⟩ n = some object)
    (hmanifest : object.manifest = .deletion spec) (hstatus : object.status = .deletion .created)
    (hcheck : Guard.check (spec.kind, spec.identifier) (run.siteAt n).table.toList = .ok ())
    (hgone : Calls.gone? (run.provider (.delete spec.kind spec.identifier)
      (run.siteAt n).memory).1 = .ok ()) : run.Asks name spec n := by
  refine ⟨⟨now, hevent, delete_mem_requests _ _ _ now hobject hmanifest hstatus hcheck⟩,
    ⟨object, spec, hobject, hmanifest, hstatus, rfl, fun other declaration hother => ?_⟩, hgone⟩
  exact (Guard.check_eq_ok_iff _ _).mp hcheck declaration
    ((Table.mem_toList_iff _ _).mpr ⟨other, hother⟩)

/-- A request that is asked for is in its created state, blocked by nothing, and its delete call
counts as done. -/
theorem Asks.check (h : run.Asks name asked n)
    (hobject : run.objectAt ⟨.deletion, name⟩ n = some object)
    (hmanifest : object.manifest = .deletion spec) (hstatus : object.status = .deletion state) :
    state = .created ∧
      Guard.check (spec.kind, spec.identifier) (run.siteAt n).table.toList = .ok () ∧
      Calls.gone? (run.provider (.delete spec.kind spec.identifier)
        (run.siteAt n).memory).1 = .ok () := by
  obtain ⟨-, ⟨found, other, hfound, hother, hcreated, htarget, hfree⟩, haccepted⟩ := h
  cases hfound.symm.trans hobject
  cases hother.symm.trans hmanifest
  cases hcreated.symm.trans hstatus
  obtain ⟨hkind, hidentifier⟩ := Prod.mk.inj htarget
  rw [← hkind, ← hidentifier] at haccepted
  refine ⟨rfl, (Guard.check_eq_ok_iff _ _).mpr fun declaration hmem => ?_, haccepted⟩
  obtain ⟨key, hkey⟩ := (Table.mem_toList_iff _ _).mp hmem
  rw [htarget]
  exact hfree key declaration hkey

/-! ## What is known of a request -/

/-- A pass over the request keeps what is known of it. -/
theorem Known.passed {now : Int64} (h : run.Known name n object spec state)
    (hobject : run.objectAt ⟨.deletion, name⟩ n = some object)
    (hevent : run.events n = .pass now ⟨.deletion, name⟩) :
    ∃ current next, run.objectAt ⟨.deletion, name⟩ (n + 1) = some current ∧
      run.Known name (n + 1) current spec next := by
  obtain ⟨current, hcurrent, hmanifest, hstatus⟩ :=
    objectAt_succ_of_pass hevent hobject h.manifest h.status
  have hsome : (run.objectAt ⟨.deletion, name⟩ (n + 1)).isSome := by rw [hcurrent]; rfl
  refine ⟨current, _, hcurrent, hmanifest, hstatus, h.named, ?_, ?_⟩
  · intro hpast
    -- only the pass that leaves the created state asks, and it asks for the target named then
    cases state with
    | noState => rcases hpast with hpast | hpast <;> cases hpast
    | created =>
      rcases Deletion.carried_created with ⟨-, hcheck, hgone⟩ | ⟨hnext, -⟩
      · refine ⟨n, spec, Nat.lt_succ_self n,
          asks_of_check hevent hobject h.manifest h.status hcheck hgone, ?_, .asked ?_⟩
        · intro k hm hk
          obtain rfl : k = n + 1 := by omega
          exact hsome
        · omega
      · rw [hnext] at hpast
        rcases hpast with hpast | hpast <;> cases hpast
    | executing | completed =>
      refine (h.asked (by simp)).succ hsome fun other heq => ?_
      cases hevent.symm.trans heq
  · intro hsince
    rcases hsince.of_succ with ⟨asked, hasks⟩ | hbefore
    · obtain ⟨rfl, hcheck, hgone⟩ := hasks.check hobject h.manifest h.status
      rcases Deletion.carried_created with ⟨hnext, -⟩ | ⟨-, hnot⟩
      · exact .inl hnext
      · exact absurd ⟨hcheck, hgone⟩ hnot
    · exact Deletion.carried_of_asked (h.past hbefore)

/-- A request that is declared anew was not asked for yet. -/
theorem known_of_declared {manifest : Manifest} (hkind : manifest.kind = .deletion)
    (hname : Text.isBlank name = false)
    (hevent : run.events n = .client (.apply name manifest))
    (hobject : run.objectAt ⟨.deletion, name⟩ n = none) :
    ∃ spec, run.Known name (n + 1) (.fresh name manifest) spec .noState := by
  cases manifest with
  | resource kind spec => cases hkind
  | deletion spec =>
    refine ⟨spec, rfl, rfl, hname, fun hpast => ?_, fun hsince => ?_⟩
    · rcases hpast with hpast | hpast <;> cases hpast
    have hbefore := hsince.of_succ_of_ne fun now heq => by cases hevent.symm.trans heq
    have hsome := hbefore.isSome
    rw [hobject] at hsome
    cases hsome

/-- A request that is applied again keeps its state, whatever it names from then on. -/
theorem Known.replaced {manifest : Manifest} (h : run.Known name n object spec state)
    (hkind : manifest.kind = .deletion) (hevent : run.events n = .client (.apply name manifest))
    (hnext : (run.objectAt ⟨.deletion, name⟩ (n + 1)).isSome) :
    ∃ other, run.Known name (n + 1) (Table.replaced object manifest) other state := by
  cases manifest with
  | resource kind spec => cases hkind
  | deletion other =>
    refine ⟨other, rfl, h.status, h.named, fun hpast => ?_, fun hsince => ?_⟩
    · obtain ⟨m, asked, hm, hasks, hstays, -⟩ := h.asked hpast
      exact ⟨m, asked, Nat.lt_succ_of_lt hm, hasks, hstays.succ hnext,
        .later other n hm (Nat.lt_succ_self n) hevent (by omega)⟩
    · exact h.past (hsince.of_succ_of_ne fun now heq => by cases hevent.symm.trans heq)

/-- An event that neither visits the request nor applies anything to it keeps what is known of
it. -/
theorem Known.kept (h : run.Known name n object spec state)
    (hnext : (run.objectAt ⟨.deletion, name⟩ (n + 1)).isSome)
    (hpass : ∀ now, run.events n ≠ .pass now ⟨.deletion, name⟩)
    (happly : ∀ other, run.events n ≠ .client (.apply name (.deletion other))) :
    run.Known name (n + 1) object spec state :=
  ⟨h.manifest, h.status, h.named, fun hpast => (h.asked hpast).succ hnext happly,
    fun hsince => h.past (hsince.of_succ_of_ne hpass)⟩

/-- What is known of a request holds of every declared one. -/
theorem exists_known (hobject : run.objectAt ⟨.deletion, name⟩ n = some object) :
    ∃ spec state, run.Known name n object spec state := by
  -- by what the event does to the request, which is declared by the first one that stores it
  induction n generalizing object with
  | zero => simp [objectAt, siteAt, table, Store.table, MemoryStore.empty] at hobject
  | succ n ih =>
    have hstep := run.step_succ ⟨.deletion, name⟩ n
    have hnext : (run.objectAt ⟨.deletion, name⟩ (n + 1)).isSome := by rw [hobject]; rfl
    generalize hbefore : run.objectAt ⟨.deletion, name⟩ n = before at hstep
    generalize hafter : run.objectAt ⟨.deletion, name⟩ (n + 1) = after at hstep
    generalize hevent : run.events n = event at hstep
    rw [hobject] at hafter
    cases hstep with
    | passed now =>
      cases before with
      | none =>
        rw [objectAt_succ_of_pass_none hevent hbefore] at hobject
        cases hobject
      | some earlier =>
        obtain ⟨spec, state, hknown⟩ := ih hbefore
        obtain ⟨current, next, hcurrent, hknown⟩ := hknown.passed hbefore hevent
        cases hobject.symm.trans hcurrent
        exact ⟨spec, next, hknown⟩
    | declared manifest hkind hname =>
      cases hafter
      obtain ⟨spec, hknown⟩ := known_of_declared hkind hname hevent hbefore
      exact ⟨spec, .noState, hknown⟩
    | replaced manifest hkind hname earlier =>
      cases hafter
      obtain ⟨spec, state, hknown⟩ := ih hbefore
      obtain ⟨other, hknown⟩ := hknown.replaced hkind hevent hnext
      exact ⟨other, state, hknown⟩
    | removed => cases hafter
    | kept _ hpass happly =>
      obtain ⟨spec, state, hknown⟩ := ih (hbefore.trans hafter.symm)
      refine ⟨spec, state, hknown.kept hnext (fun now heq => hpass now (hevent ▸ heq))
        fun other heq => ?_⟩
      have hblank := happly (.deletion other) rfl (hevent ▸ heq)
      rw [hknown.named] at hblank
      cases hblank

/-- A request that stays declared until an event is declared until every earlier one. -/
theorem Stays.of_le (h : run.Stays name m n) {k : Nat} (hk : k ≤ n) : run.Stays name m k :=
  fun j hm hj => h j hm (Nat.le_trans hj hk)

/-- Once a request was asked for, no later pass asks again while it is declared. -/
theorem Asks.not_later {k : Nat} {other : DeletionSpec} (h : run.Asks name asked m) (hm : m < k)
    (hstays : run.Stays name m k) : ¬ run.Asks name other k := by
  intro hother
  have hsince : run.AskedSince name k := ⟨m, asked, hm, h, hstays⟩
  obtain ⟨object, hobject⟩ := Option.isSome_iff_exists.mp hsince.isSome
  obtain ⟨spec, state, hknown⟩ := exists_known hobject
  obtain ⟨rfl, -⟩ := hother.check hobject hknown.manifest hknown.status
  rcases hknown.past hsince with hpast | hpast <;> cases hpast

/-- A pass asks for one target. -/
theorem Asks.target_unique {other : DeletionSpec} (h : run.Asks name asked m)
    (hother : run.Asks name other m) : other = asked := by
  obtain ⟨-, ⟨object, spec, hobject, hmanifest, -, htarget, -⟩, -⟩ := h
  obtain ⟨-, ⟨found, spec', hfound, hmanifest', -, htarget', -⟩, -⟩ := hother
  cases hfound.symm.trans hobject
  cases hmanifest'.symm.trans hmanifest
  obtain ⟨hkind, hidentifier⟩ := Prod.mk.inj (htarget'.symm.trans htarget)
  cases other
  cases asked
  simp only at hkind hidentifier
  rw [hkind, hidentifier]

/-- Since a request was declared, at most one pass has asked for its target. -/
theorem Asks.unique {k : Nat} {other : DeletionSpec} (h : run.Asks name asked m) (hm : m < n)
    (hstays : run.Stays name m n) (hother : run.Asks name other k) (hk : k < n)
    (hstays' : run.Stays name k n) : k = m ∧ other = asked := by
  rcases Nat.lt_trichotomy m k with hlt | rfl | hlt
  · exact absurd hother (h.not_later hlt (hstays.of_le (Nat.le_of_lt hk)))
  · exact ⟨rfl, h.target_unique hother⟩
  · exact absurd h (hother.not_later hlt (hstays'.of_le (Nat.le_of_lt hm)))

/-- A declared request is executing or completed exactly if, since it was declared, a pass found
nothing that blocks its target and asked the provider to delete it. No other pass did. What the
request names now is what was asked for, or what was applied last since then. -/
theorem executing_iff_asked (run : Run φ μ) {name : String} {n : Nat} {object : Declaration}
    (hobject : run.objectAt ⟨.deletion, name⟩ n = some object) :
    ∃ spec state, object.manifest = .deletion spec ∧ object.status = .deletion state ∧
      (state = .executing ∨ state = .completed ↔ ∃ m asked, m < n ∧ run.Asks name asked m ∧
        run.Stays name m n ∧ run.LastApplied name asked m n spec ∧
        ∀ k other, k < n → run.Asks name other k → run.Stays name k n →
          k = m ∧ other = asked) := by
  obtain ⟨spec, state, hknown⟩ := exists_known hobject
  refine ⟨spec, state, hknown.manifest, hknown.status, fun hpast => ?_, ?_⟩
  · obtain ⟨m, asked, hm, hasks, hstays, hlast⟩ := hknown.asked hpast
    exact ⟨m, asked, hm, hasks, hstays, hlast,
      fun k other hk hother hstays' => hasks.unique hm hstays hother hk hstays'⟩
  · rintro ⟨m, asked, hm, hasks, hstays, -⟩
    exact hknown.past ⟨m, asked, hm, hasks, hstays⟩

/-- A request that is applied for another target once it is executing. -/
def retargetedRun : Run Disk Simulator.State :=
  { system := Disk.system
    provider := Simulator.provider .default
    config := .default
    files := .empty
    memory := .fresh
    events := fun n => match n with
      | 0 => .client (.apply "drop" (.deletion ⟨.subnetGroup, "a"⟩))
      | 3 => .client (.apply "drop" (.deletion ⟨.subnetGroup, "b"⟩))
      | _ => .pass 0 ⟨.deletion, "drop"⟩ }

/-- In the run of the example the request names its first target until the last event. -/
theorem manifest_retargetedRun {m : Nat} (hm : m < 4) {object : Declaration}
    (h : retargetedRun.objectAt ⟨.deletion, "drop"⟩ m = some object) :
    object.manifest = .deletion ⟨.subnetGroup, "a"⟩ := by
  match m, hm with
  | 0, _ => cases h
  | 1, _ | 2, _ | 3, _ =>
    cases h
    rfl

/-- A request is executing after its first target was asked for, though it names another target
now. -/
theorem executing_iff_asked_retargetedRun :
    ∃ object, retargetedRun.objectAt ⟨.deletion, "drop"⟩ 4 = some object ∧
      object.manifest = .deletion ⟨.subnetGroup, "b"⟩ ∧
      object.status = .deletion .executing ∧
      (∃ m asked, m < 4 ∧ retargetedRun.Asks "drop" asked m) ∧
      ∀ m < 4, ¬ retargetedRun.Asks "drop" ⟨.subnetGroup, "b"⟩ m := by
  have hobject : retargetedRun.objectAt ⟨.deletion, "drop"⟩ 4 =
      some ⟨⟨.deletion, "drop"⟩, 4, .deletion ⟨.subnetGroup, "b"⟩, .deletion .executing⟩ := rfl
  obtain ⟨spec, state, hmanifest, hstatus, hiff⟩ := executing_iff_asked retargetedRun hobject
  refine ⟨_, hobject, rfl, rfl, ?_, fun m hm hasks => ?_⟩
  · cases hstatus
    obtain ⟨m, asked, hm, hasks, -⟩ := hiff.mp (.inl rfl)
    exact ⟨m, asked, hm, hasks⟩
  · obtain ⟨found, other, hfound, hother, -, htarget, -⟩ := hasks.justified
    cases (manifest_retargetedRun hm hfound).symm.trans hother
    exact absurd htarget (by decide)

end Run

end Site

end Reconciler
