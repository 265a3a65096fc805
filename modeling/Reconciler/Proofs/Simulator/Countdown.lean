import Mathlib.Data.Nat.Init
import Reconciler.Proofs.Simulator.Failing

/-!
# Countdowns

A cluster or an instance that was created or changed is settled after a number of looks, and one
that is deleted is gone after a number of looks. The looks that are answered from the tables are
all that counts: whatever else happens in a run between the start of a countdown and its end, the
resource is in the phase that the looks since the start lead to (`countdowns_are_exact`).
-/

set_option autoImplicit false

namespace Reconciler.Simulator

/-! ## Phases after a number of looks -/

/-- The phase after a number of looks, or nothing when the resource is gone by then. -/
def Phase.lookTimes (phase : Phase) : Nat → Option Phase
  | 0 => some phase
  | count + 1 => (phase.lookTimes count).bind look

/-- The phases of a resource that is on its way to being settled, with their status. -/
inductive Underway : (Nat → Phase) → String → Prop where
  | creating : Underway .creating "creating"
  | modifying : Underway .modifying "modifying"

namespace Underway

variable {underway : Nat → Phase} {status : String}

/-- A resource on its way shows its status. -/
theorem text (h : Underway underway status) (left : Nat) : (underway left).text = status := by
  cases h <;> rfl

/-- A resource on its way is not settled. -/
theorem ne_settled (h : Underway underway status) (left : Nat) : underway left ≠ .settled := by
  cases h <;> simp

/-- A look brings a resource one step further on its way, and settles it at the last one. -/
theorem look (h : Underway underway status) (left : Nat) :
    (underway left).look = some (if left ≤ 1 then .settled else underway (left - 1)) := by
  cases h <;> rfl

/-- A resource on its way to being settled is not going away. -/
theorem goneIn?_eq_none (h : Underway underway status) (left : Nat) :
    (underway left).goneIn? = none := by
  cases h <;> rfl

/-- The phase that a number of looks out of a countdown leads to. -/
theorem lookTimes (h : Underway underway status) (polls count : Nat) :
    (underway polls).lookTimes count =
      some (if count < max 1 polls then underway (polls - count) else .settled) := by
  induction count with
  | zero =>
    have hzero : 0 < max 1 polls := by omega
    simp only [Phase.lookTimes, hzero, if_true, Nat.sub_zero]
  | succ count ih =>
    rw [Phase.lookTimes, ih, Option.bind_some]
    by_cases hbefore : count < max 1 polls
    · rw [if_pos hbefore, h.look]
      by_cases hlast : polls - count ≤ 1
      · have hdone : ¬ count + 1 < max 1 polls := by omega
        rw [if_pos hlast, if_neg hdone]
      · have hmore : count + 1 < max 1 polls := by omega
        rw [if_neg hlast, if_pos hmore, Nat.sub_sub]
    · have hdone : ¬ count + 1 < max 1 polls := by omega
      rw [if_neg hbefore, if_neg hdone]
      rfl

end Underway

/-- The phase that a number of looks out of a deletion leads to, before the last of them. -/
theorem Phase.lookTimes_deleting {polls count : Nat} (h : count < max 1 polls) :
    (Phase.deleting polls).lookTimes count = some (.deleting (polls - count)) := by
  induction count with
  | zero => rfl
  | succ count ih =>
    have hmore : ¬ polls - count ≤ 1 := by omega
    rw [lookTimes, ih (by omega), Option.bind_some]
    simp only [look, hmore, if_false, Nat.sub_sub]

/-- What is under deletion stays so until it is gone. -/
theorem Phase.deleting_of_lookTimes {polls count : Nat} {next : Phase}
    (h : (Phase.deleting polls).lookTimes count = some next) : ∃ left, next = .deleting left := by
  induction count generalizing next with
  | zero =>
    cases h
    exact ⟨polls, rfl⟩
  | succ count ih =>
    obtain ⟨before, hbefore, hlook⟩ := Option.bind_eq_some_iff.mp h
    obtain ⟨left, rfl⟩ := ih hbefore
    by_cases hlast : left ≤ 1
    · simp [look, hlast] at hlook
    · simp only [look, hlast, if_false, Option.some.injEq] at hlook
      exact ⟨left - 1, hlook.symm⟩

/-! ## Writes that are accepted -/

section

variable {config : SimulatorConfig} {tables : Tables} {kind : ResourceKind} {identifier : String}

/-- A creation that is accepted puts the resource in. -/
theorem find?_of_create_ok (hlive : config.dryRun = false) {request : kind.Creation}
    {reply : kind.Snapshot}
    (h : (serve config tables (.create kind request)).1 = .ok reply) :
    ∃ resource, (serve config tables (.create kind request)).2.find? kind
      (kind.createdIdentifier request) = some (resource, firstPhase config kind) := by
  obtain ⟨spec, rfl⟩ := exists_creation kind request
  by_cases hfree : tables.find? kind (kind.identifier spec) = none ∧ Supplied tables kind spec
  · obtain ⟨after, hserved, hthere⟩ := serve_create_accepted hlive kind hfree.1 hfree.2
    rw [hserved, kind.createdIdentifier_creation]
    exact ⟨_, hthere⟩
  · obtain ⟨_, hserved⟩ := @serve_create_refused config _ kind _ hfree
    rw [hserved] at h
    cases h

/-- A change is accepted exactly when the resource is settled. -/
theorem modify_ok_iff (hlive : config.dryRun = false) {request : kind.Change} :
    (∃ reply, (serve config tables (.modify kind request)).1 = .ok reply) ↔
      ∃ resource, tables.find? kind (kind.changedIdentifier request) =
        some (resource, .settled) := by
  constructor
  · rintro ⟨reply, hreply⟩
    refine Classical.byContradiction fun hunsettled => ?_
    obtain ⟨error, hserved⟩ := @serve_modify_refused config _ kind _ (not_exists.mp hunsettled)
    rw [hserved] at hreply
    cases hreply
  · rintro ⟨resource, hsettled⟩
    exact exists_reply_modify_of_settled hlive hsettled

/-- A deletion is accepted exactly when the resource is there and not in use. -/
theorem delete_ok_iff (hlive : config.dryRun = false) :
    (serve config tables (.delete kind identifier)).1 = .ok () ↔
      tables.inUse kind identifier = false ∧ (tables.find? kind identifier).isSome := by
  by_cases h : tables.inUse kind identifier = false ∧ (tables.find? kind identifier).isSome
  · obtain ⟨⟨resource, phase⟩, hthere⟩ := Option.isSome_iff_exists.mp h.2
    obtain ⟨after, hserved, -⟩ := serve_delete_of_free hlive h.1 hthere
    exact iff_of_true (by rw [hserved]) h
  · obtain ⟨error, hserved⟩ := @serve_delete_refused config _ _ _ h
    exact iff_of_false (by simp [hserved]) h

end

/-! ## Runs -/

section

variable (config : SimulatorConfig) (events : Nat → Event) (kind : ResourceKind)
  (identifier : String)

/-- Event number `n` is a call that is answered with a reply. -/
structure Accepts (n : Nat) (call : Call) : Prop where
  serves : Serves config events n call
  accepted : ∃ reply, (provider config call (stateAt config events n)).1 = .ok reply

/-- A call that starts the countdown to a resource being settled, and its status until then. -/
inductive Begins : Call → String → Prop where
  | creation (request : kind.Creation) (h : kind.createdIdentifier request = identifier) :
      Begins (.create kind request) "creating"
  | change (request : kind.Change) (h : kind.changedIdentifier request = identifier) :
      Begins (.modify kind request) "modifying"

/-- A call that ends the time for which the last creation or change of a resource counts. -/
inductive Supersedes : Call → Prop where
  | change (request : kind.Change) (h : kind.changedIdentifier request = identifier) :
      Supersedes (.modify kind request)
  | deletion : Supersedes (.delete kind identifier)

end

variable {config : SimulatorConfig} {events : Nat → Event} {kind : ResourceKind}
  {identifier : String} {n : Nat}

/-- A call that is served is answered from the tables. -/
theorem Serves.provider_eq {call : Call} (h : Serves config events n call) :
    (provider config call (stateAt config events n)).1 =
      (serve config (tablesAt config events n) call).1 := by
  rw [provider_of_calm config call h.calm, tablesAt]

/-- A call that is accepted is answered with a reply by the tables. -/
theorem Accepts.serve_ok {call : Call} (h : Accepts config events n call) :
    ∃ reply, (serve config (tablesAt config events n) call).1 = .ok reply := by
  rw [← h.serves.provider_eq]
  exact h.accepted

/-- A call that is served with a reply is accepted. -/
theorem Serves.accepts {call : Call} (h : Serves config events n call)
    (hreply : ∃ reply, (serve config (tablesAt config events n) call).1 = .ok reply) :
    Accepts config events n call := by
  refine ⟨h, ?_⟩
  rw [h.provider_eq]
  exact hreply

/-! ### One event -/

/-- An event leaves a resource in its phase, or in the next one if it is a look at it, unless it is
a change or a deletion that is accepted; and a resource under deletion is not affected by these
either. -/
theorem find?_tablesAt_succ {resource : kind.Snapshot} {phase : Phase}
    (hthere : (tablesAt config events n).find? kind identifier = some (resource, phase))
    (hstays : (∃ left, phase = .deleting left) ∧ kind.lingers = true ∨
      ∀ call, Accepts config events n call → ¬ Supersedes kind identifier call) :
    (tablesAt config events (n + 1)).find? kind identifier =
      (if looksAt config events (kind, identifier) n then phase.look else some phase).map
        (resource, ·) := by
  rcases serves_or_unchanged config events n with ⟨call, hserves⟩ | ⟨hnone, hsame⟩
  · have hmoves := moves_succ hserves kind identifier
    have hlooks : looksAt config events (kind, identifier) n = true ↔
        call = .describe kind identifier := hserves.looksAt_iff
    generalize (tablesAt config events (n + 1)).find? kind identifier = after at hmoves
    generalize hbefore : (tablesAt config events n).find? kind identifier = before at hmoves
    rw [hthere] at hbefore
    cases hmoves with
    | kept h =>
      have hunseen : looksAt config events (kind, identifier) n = false :=
        hserves.looksAt_of_write fun htarget =>
          (h htarget).resolve_right fun habsent => nomatch hbefore.trans habsent
      rw [hunseen, ← hbefore]
      rfl
    | looked hlook =>
      cases hbefore
      rw [hlooks.mpr rfl, if_pos rfl, hlook]
      rfl
    | vanished hlook =>
      cases hbefore
      rw [hlooks.mpr rfl, if_pos rfl, hlook]
      rfl
    | created => cases hbefore
    | @modified _ request hname hlive =>
      cases hbefore
      rcases hstays with ⟨⟨left, hleft⟩, -⟩ | hstays
      · cases hleft
      · have haccepts := hserves.accepts ((modify_ok_iff hlive).mpr ⟨_, hname ▸ hthere⟩)
        exact absurd (.change request hname) (hstays _ haccepts)
    | deleted hlive hfree =>
      cases hbefore
      -- a cluster or an instance that is deleted a second time stays in its phase
      rcases hstays with ⟨⟨left, rfl⟩, hlingers⟩ | hstays
      · rw [hserves.looksAt_of_write fun _ => rfl, leftAfter, if_pos hlingers]
        rfl
      · have hserved := (delete_ok_iff hlive).mpr ⟨hfree, by rw [hthere]; rfl⟩
        exact absurd .deletion (hstays _ (hserves.accepts ⟨(), hserved⟩))
  · rw [looksAt_of_not_serves hnone, hsame, hthere]
    rfl

/-- What is not under deletion is not so after an event either, unless a deletion is accepted. -/
theorem goneIn?_tablesAt_succ {resource : kind.Snapshot} {phase : Phase}
    (hthere : (tablesAt config events n).find? kind identifier = some (resource, phase))
    (hstays : phase.goneIn? = none)
    (hundeleted : ¬ Accepts config events n (.delete kind identifier)) :
    ∃ resource phase, (tablesAt config events (n + 1)).find? kind identifier =
      some (resource, phase) ∧ phase.goneIn? = none := by
  rcases serves_or_unchanged config events n with ⟨call, hserves⟩ | ⟨-, hsame⟩
  · have hmoves := moves_succ hserves kind identifier
    generalize (tablesAt config events (n + 1)).find? kind identifier = after at hmoves
    generalize hbefore : (tablesAt config events n).find? kind identifier = before at hmoves
    rw [hthere] at hbefore
    cases hmoves with
    | kept => exact ⟨resource, phase, hbefore.symm, hstays⟩
    | looked hlook =>
      cases hbefore
      refine ⟨_, _, rfl, ?_⟩
      rw [Phase.goneIn?_look hlook, hstays]
      rfl
    | vanished hlook =>
      cases hbefore
      rw [Phase.goneIn?_of_last hlook] at hstays
      cases hstays
    | created => cases hbefore
    | modified =>
      cases hbefore
      exact ⟨_, _, rfl, by cases kind <;> rfl⟩
    | deleted hlive hfree =>
      have hserved := (delete_ok_iff hlive).mpr ⟨hfree, by rw [hthere]; rfl⟩
      exact absurd (hserves.accepts ⟨(), hserved⟩) hundeleted
  · rw [hsame]
    exact ⟨resource, phase, hthere, hstays⟩

/-! ### Many events -/

variable {k : Nat}

/-- A resource is in the phase that the looks at it lead to, as long as no change or deletion of it
is accepted; and under deletion until it is gone, whatever happens. -/
theorem find?_of_lookTimes (hk : k ≤ n) {resource : kind.Snapshot} {phase : Phase}
    (hstart : (tablesAt config events k).find? kind identifier = some (resource, phase))
    (hstays : (∃ left, phase = .deleting left) ∧ kind.lingers = true ∨
      ∀ m, k ≤ m → m < n → ∀ call, Accepts config events m call →
        ¬ Supersedes kind identifier call)
    {next : Phase}
    (hnext : phase.lookTimes (looksBetween config events (kind, identifier) k n) = some next) :
    (tablesAt config events n).find? kind identifier = some (resource, next) := by
  -- on the events since the start, for all phases, because a look goes back to the one before
  induction n, hk using Nat.le_induction generalizing next with
  | base =>
    rw [looksBetween_self] at hnext
    cases hnext
    exact hstart
  | succ n hk ih =>
    have hbefore {now : Phase}
        (hnow : phase.lookTimes (looksBetween config events (kind, identifier) k n) = some now) :
        (tablesAt config events (n + 1)).find? kind identifier =
          (if looksAt config events (kind, identifier) n then now.look else some now).map
            (resource, ·) := by
      have hthere := ih (hstays.imp_right fun hquiet m hkm hm => hquiet m hkm (by omega)) hnow
      refine find?_tablesAt_succ hthere (hstays.imp ?_ fun hquiet => hquiet n hk (by omega))
      rintro ⟨⟨left, rfl⟩, hlingers⟩
      exact ⟨Phase.deleting_of_lookTimes hnow, hlingers⟩
    rw [looksBetween_succ hk] at hnext
    cases hlooks : looksAt config events (kind, identifier) n with
    | false =>
      rw [hlooks] at hnext
      rw [hbefore hnext, hlooks]
      rfl
    | true =>
      rw [hlooks] at hnext
      obtain ⟨now, hnow, hlook⟩ := Option.bind_eq_some_iff.mp hnext
      rw [hbefore hnow, hlooks, if_pos rfl, hlook]
      rfl

/-- Since its creation a resource is not under deletion until a deletion is accepted. -/
theorem not_deleting_of_created (hk : k ≤ n)
    (hstart : ∃ resource phase, (tablesAt config events k).find? kind identifier =
      some (resource, phase) ∧ phase.goneIn? = none)
    (hundeleted : ∀ m, k ≤ m → m < n → ¬ Accepts config events m (.delete kind identifier)) :
    ∃ resource phase, (tablesAt config events n).find? kind identifier =
      some (resource, phase) ∧ phase.goneIn? = none := by
  induction n, hk using Nat.le_induction with
  | base => exact hstart
  | succ n hk ih =>
    obtain ⟨resource, phase, hthere, hstays⟩ := ih fun m hkm hm => hundeleted m hkm (by omega)
    exact goneIn?_tablesAt_succ hthere hstays (hundeleted n hk (by omega))

/-! ## The countdowns -/

/-- The status that the description of a cluster or an instance shows. -/
def status? : (kind : ResourceKind) → kind.Snapshot → Option String
  | .cluster, cluster => some cluster.status
  | .dbInstance, existing => some existing.status
  | _, _ => none

/-- A cluster or an instance shows the status of its phase. -/
theorem status?_shown (hlingers : kind.lingers = true) (resource : kind.Snapshot) (phase : Phase) :
    status? kind (shown kind resource phase) = some phase.text := by
  cases kind with
  | cluster | dbInstance => rfl
  | parameterGroup | clusterParameterGroup | subnetGroup => cases hlingers

section

variable (config : SimulatorConfig) (events : Nat → Event) (kind : ResourceKind)
  (identifier : String)

/-- Event number `n`, a look at a resource, is answered with a description that shows a status. -/
def Reports (n : Nat) (status : String) : Prop :=
  ∃ snapshot, (provider config (.describe kind identifier) (stateAt config events n)).1 =
    .ok snapshot ∧ status? kind snapshot = some status

/-- Event number `n`, a look at a resource, does not find it, and the resource is gone by then. -/
def Vanishes (n : Nat) : Prop :=
  (∃ error, error.isNotFound = true ∧
    (provider config (.describe kind identifier) (stateAt config events n)).1 = .error error) ∧
  (tablesAt config events (n + 1)).find? kind identifier = none

/-- Event number `n` is the first deletion that is accepted since the creation of a resource. -/
def FirstDeletion (n : Nat) : Prop :=
  Accepts config events n (.delete kind identifier) ∧
    ∃ c < n, (∃ request, kind.createdIdentifier request = identifier ∧
      Accepts config events c (.create kind request)) ∧
      ∀ m, c < m → m < n → ¬ Accepts config events m (.delete kind identifier)

end

/-- A look that finds a resource reports the phase that the resource is in by then. -/
theorem reports_of_look (hlingers : kind.lingers = true)
    (hserves : Serves config events n (.describe kind identifier)) {resource : kind.Snapshot}
    {phase next : Phase}
    (hthere : (tablesAt config events n).find? kind identifier = some (resource, phase))
    (hlook : phase.look = some next) : Reports config events kind identifier n next.text := by
  obtain ⟨_, hserved, -⟩ := @serve_describe_of_some config _ _ _ _ _ _ hthere hlook
  refine ⟨shown kind resource next, ?_, status?_shown hlingers resource next⟩
  rw [hserves.provider_eq, hserved]

/-- A look at a resource in its last phase finds it gone. -/
theorem vanishes_of_look (hserves : Serves config events n (.describe kind identifier))
    {resource : kind.Snapshot} {phase : Phase}
    (hthere : (tablesAt config events n).find? kind identifier = some (resource, phase))
    (hlook : phase.look = none) : Vanishes config events kind identifier n := by
  obtain ⟨error, after, herror, hserved, hgone⟩ :=
    @serve_describe_of_last config _ _ _ _ _ hthere hlook
  refine ⟨⟨error, herror, ?_⟩, ?_⟩
  · rw [hserves.provider_eq, hserved]
  · rw [tablesAt_succ_of_serves hserves, hserved]
    exact hgone

/-- A creation or a change that is accepted puts a resource on its way to being settled. -/
theorem underway_of_begins (hlive : config.dryRun = false) (hlingers : kind.lingers = true)
    {call : Call} {status : String} (hbegins : Begins kind identifier call status)
    (haccepts : Accepts config events n call) :
    ∃ resource underway, Underway underway status ∧
      (tablesAt config events (n + 1)).find? kind identifier =
        some (resource, underway config.readyAfter.toNat) := by
  obtain ⟨reply, hserved⟩ := haccepts.serve_ok
  rw [tablesAt_succ_of_serves haccepts.serves]
  cases hbegins with
  | creation request hname =>
    obtain ⟨resource, hthere⟩ := find?_of_create_ok hlive hserved
    refine ⟨resource, .creating, .creating, ?_⟩
    rw [← hname, hthere]
    cases kind with
    | cluster | dbInstance => rfl
    | parameterGroup | clusterParameterGroup | subnetGroup => cases hlingers
  | change request hname =>
    obtain ⟨resource, hsettled⟩ := (modify_ok_iff hlive).mp ⟨reply, hserved⟩
    refine ⟨changed kind resource request, .modifying, .modifying, ?_⟩
    rw [← hname, find?_serve_modify_of_settled hlive hsettled]
    cases kind with
    | cluster | dbInstance => rfl
    | parameterGroup | clusterParameterGroup | subnetGroup => cases hlingers

/-- The first deletion that is accepted starts the countdown to being gone. -/
theorem deleting_of_first (hlive : config.dryRun = false) (hlingers : kind.lingers = true)
    (hfirst : FirstDeletion config events kind identifier n) :
    ∃ resource, (tablesAt config events (n + 1)).find? kind identifier =
      some (resource, .deleting config.deleteAfter.toNat) := by
  obtain ⟨haccepts, c, hc, ⟨request, hname, hcreated⟩, hundeleted⟩ := hfirst
  have hstart : ∃ resource phase, (tablesAt config events (c + 1)).find? kind identifier =
      some (resource, phase) ∧ phase.goneIn? = none := by
    obtain ⟨resource, _, hunderway, hthere⟩ :=
      underway_of_begins hlive hlingers (.creation request hname) hcreated
    exact ⟨resource, _, hthere, hunderway.goneIn?_eq_none _⟩
  obtain ⟨resource, phase, hthere, hstays⟩ :=
    not_deleting_of_created hc hstart fun m hcm hm => hundeleted m (by omega) hm
  obtain ⟨reply, hserved⟩ := haccepts.serve_ok
  obtain ⟨hfree, -⟩ := (delete_ok_iff hlive).mp hserved
  obtain ⟨after, hafter, hleft⟩ := serve_delete_of_free hlive hfree hthere
  rw [tablesAt_succ_of_serves haccepts.serves, hafter, hleft, leftAfter, if_pos hlingers]
  refine ⟨resource, ?_⟩
  cases phase with
  | settled | creating _ | modifying _ => rfl
  | deleting _ => cases hstays

section

variable {underway : Nat → Phase} {status : String} {resource : kind.Snapshot} {polls count : Nat}

/-- The look that ends a countdown shows that the resource is available, and so do those after
it. -/
theorem Underway.reports (h : Underway underway status) (hlingers : kind.lingers = true)
    (hserves : Serves config events n (.describe kind identifier))
    (hthere : (tablesAt config events n).find? kind identifier =
      some (resource, if count < max 1 polls then underway (polls - count) else .settled)) :
    Reports config events kind identifier n
      (if count + 1 < max 1 polls then status else available) := by
  have hlook := h.lookTimes polls (count + 1)
  rw [Phase.lookTimes, h.lookTimes, Option.bind_some] at hlook
  have hreports := reports_of_look hlingers hserves hthere hlook
  by_cases hmore : count + 1 < max 1 polls
  · rw [if_pos hmore, h.text] at hreports
    rw [if_pos hmore]
    exact hreports
  · rw [if_neg hmore] at hreports ⊢
    exact hreports

/-- A change is accepted once the countdown is over. -/
theorem Underway.accepts_iff (h : Underway underway status) (hlive : config.dryRun = false)
    {request : kind.Change} (hname : kind.changedIdentifier request = identifier)
    (hserves : Serves config events n (.modify kind request))
    (hthere : (tablesAt config events n).find? kind identifier =
      some (resource, if count < max 1 polls then underway (polls - count) else .settled)) :
    Accepts config events n (.modify kind request) ↔ max 1 polls ≤ count := by
  have hsettled : Accepts config events n (.modify kind request) ↔
      ∃ resource, (tablesAt config events n).find? kind identifier =
        some (resource, .settled) := by
    rw [← hname, ← modify_ok_iff hlive]
    exact ⟨Accepts.serve_ok, hserves.accepts⟩
  rw [hsettled, hthere]
  by_cases hmore : count < max 1 polls
  · rw [if_pos hmore]
    refine iff_of_false ?_ (Nat.not_le.mpr hmore)
    rintro ⟨other, heq⟩
    exact h.ne_settled _ (Prod.mk.inj (Option.some.inj heq)).2
  · rw [if_neg hmore]
    exact iff_of_true ⟨resource, rfl⟩ (Nat.not_lt.mp hmore)

end

/-- Countdowns are exact. A cluster or an instance that was created or changed shows that it is
being created or changed at the looks before the one that the settings name, and that it is
available from that one on; a change of it is accepted from then on and refused before. This holds
until it is changed again or deleted. Once it is deleted, the looks before the one that the settings
name show that it is being deleted, and that one finds it gone. Only looks at the resource count
that are answered from the tables, and nothing that happens between them makes a difference, such
as other calls, calls that fail, injected errors and further deletions. -/
theorem countdowns_are_exact (config : SimulatorConfig) (hlive : config.dryRun = false)
    (events : Nat → Event) (kind : ResourceKind) (hlingers : kind.lingers = true)
    (identifier : String) :
    (∀ j call status, Begins kind identifier call status → Accepts config events j call →
      ∀ i, j < i →
        (∀ m, j < m → m < i → ∀ other, Accepts config events m other →
          ¬ Supersedes kind identifier other) →
        let looks := looksBetween config events (kind, identifier) (j + 1) i
        (Serves config events i (.describe kind identifier) →
          Reports config events kind identifier i
            (if looks + 1 < max 1 config.readyAfter.toNat then status else available)) ∧
        ∀ request, kind.changedIdentifier request = identifier →
          Serves config events i (.modify kind request) →
            (Accepts config events i (.modify kind request) ↔
              max 1 config.readyAfter.toNat ≤ looks)) ∧
    (∀ j, FirstDeletion config events kind identifier j →
      ∀ i, j < i → Serves config events i (.describe kind identifier) →
        let looks := looksBetween config events (kind, identifier) (j + 1) i
        (looks + 1 < max 1 config.deleteAfter.toNat →
          Reports config events kind identifier i "deleting") ∧
        (looks + 1 = max 1 config.deleteAfter.toNat →
          Vanishes config events kind identifier i)) := by
  constructor
  · intro j call status hbegins haccepts i hi hquiet looks
    obtain ⟨resource, underway, hunderway, hstart⟩ :=
      underway_of_begins hlive hlingers hbegins haccepts
    have hthere := find?_of_lookTimes hi hstart
      (.inr fun m hjm hm => hquiet m hjm hm) (hunderway.lookTimes _ _)
    constructor
    · intro hserves
      exact hunderway.reports hlingers hserves hthere
    · intro request hname hserves
      exact hunderway.accepts_iff hlive hname hserves hthere
  · intro j hfirst i hi hserves looks
    obtain ⟨resource, hstart⟩ := deleting_of_first hlive hlingers hfirst
    -- nothing but looks moves a resource under deletion, so the calls in between do not matter
    have hthere (hbefore : looks < max 1 config.deleteAfter.toNat) :
        (tablesAt config events i).find? kind identifier =
          some (resource, .deleting (config.deleteAfter.toNat - looks)) :=
      find?_of_lookTimes hi hstart (.inl ⟨⟨_, rfl⟩, hlingers⟩) (Phase.lookTimes_deleting hbefore)
    constructor
    · intro hmore
      have hleft : ¬ config.deleteAfter.toNat - looks ≤ 1 := by omega
      exact reports_of_look hlingers hserves (hthere (by omega)) (if_neg hleft)
    · intro hlast
      have hleft : config.deleteAfter.toNat - looks ≤ 1 := by omega
      exact vanishes_of_look hserves (hthere (by omega)) (if_pos hleft)

/-- A cluster that is looked at until it is available, with an injected error and a change that
comes too early, and is then deleted twice and looked at until it is gone. -/
def busyCluster : List Event :=
  [.call clusterRequest, .call (.describe .cluster "db1"),
   .failNext (.provider "cluster" "Throttling"), .call (.describe .cluster "db1"),
   .call (.modify .cluster ⟨"db1", some "8.1", none, none⟩),
   .call (.describe .cluster "db1"), .call (.describe .cluster "db1"),
   .call (.delete .cluster "db1"), .call (.delete .cluster "db1"),
   .call (.describe .cluster "db1"), .call (.describe .cluster "db1")]

/-- The creation of the busy cluster is accepted. -/
theorem accepts_busyCluster : Accepts .default (replay busyCluster) 0 clusterRequest :=
  ⟨⟨rfl, rfl⟩, ⟨_, rfl⟩⟩

/-- No call before the deletion supersedes the creation of the busy cluster. -/
theorem quiet_busyCluster {m : Nat} (hm : m < 7) {call : Call}
    (haccepts : Accepts .default (replay busyCluster) m call) :
    ¬ Supersedes .cluster "db1" call := by
  intro hsupersedes
  have hevent := haccepts.serves.event
  match m with
  | 0 | 1 | 2 | 3 | 5 | 6 =>
    cases hevent
    all_goals cases hsupersedes
  | 4 =>
    cases hevent
    obtain ⟨reply, hreply⟩ := haccepts.accepted
    cases hreply

/-- The busy cluster is available at its third served look and gone at the second one after its
deletion, whatever comes between. -/
theorem countdowns_are_exact_busyCluster :
    Reports .default (replay busyCluster) .cluster "db1" 5 "creating" ∧
    Reports .default (replay busyCluster) .cluster "db1" 6 available ∧
    ¬ Accepts .default (replay busyCluster) 4 (.modify .cluster ⟨"db1", some "8.1", none, none⟩) ∧
    Reports .default (replay busyCluster) .cluster "db1" 9 "deleting" ∧
    Vanishes .default (replay busyCluster) .cluster "db1" 10 := by
  obtain ⟨hsettles, hgoes⟩ :=
    countdowns_are_exact .default rfl (replay busyCluster) .cluster rfl "db1"
  have hbegun := hsettles 0 _ _ (.creation _ rfl) accepts_busyCluster
  have hfirst : FirstDeletion .default (replay busyCluster) .cluster "db1" 7 := by
    refine ⟨⟨⟨rfl, rfl⟩, ⟨(), rfl⟩⟩, 0, by decide, ⟨_, rfl, accepts_busyCluster⟩, ?_⟩
    intro m _ hm haccepts
    exact quiet_busyCluster hm haccepts .deletion
  refine ⟨?_, ?_, ?_, ?_, ?_⟩
  · exact (hbegun 5 (by decide) fun m _ hm _ => quiet_busyCluster (by omega)).1 ⟨rfl, rfl⟩
  · exact (hbegun 6 (by decide) fun m _ hm _ => quiet_busyCluster (by omega)).1 ⟨rfl, rfl⟩
  · have hmodify := (hbegun 4 (by decide) fun m _ hm _ => quiet_busyCluster (by omega)).2
      ⟨"db1", some "8.1", none, none⟩ rfl ⟨rfl, rfl⟩
    rw [hmodify]
    decide
  · exact (hgoes 7 hfirst 9 (by decide) ⟨rfl, rfl⟩).1 (by decide)
  · exact (hgoes 7 hfirst 10 (by decide) ⟨rfl, rfl⟩).2 (by decide)

end Reconciler.Simulator
