import Reconciler.Proofs.Simulator.Run

/-!
# Instances and their clusters

An instance comes in only while its cluster is there, with the same engine, and keeps the cluster
from being deleted from then on. What it does not stop is a deletion that is under way when it
comes in: the instance keeps its cluster from that moment on exactly if the cluster was not
going away then, or has not been looked at as often since as it takes to be gone
(`housed_iff_looks`).
-/

set_option autoImplicit false

namespace Reconciler.Simulator

/-- There is a cluster with an identifier and an engine. -/
def Housed (tables : Tables) (cluster engine : String) : Prop :=
  ∃ resource phase, tables.find? .cluster cluster = some (resource, phase) ∧
    resource.engine = engine

section

variable (config : SimulatorConfig) (events : Nat → Event) (identifier cluster engine : String)

/-- An instance of a cluster is there before event number `n`. -/
def Member (n : Nat) : Prop :=
  ∃ existing phase, (tablesAt config events n).find? .dbInstance identifier =
    some (existing, phase) ∧ existing.cluster = cluster ∧ existing.engine = engine

/-- Event number `k` creates an instance in a cluster, which is in a phase at that time. -/
structure Admits (phase : Phase) (k : Nat) : Prop where
  served : ∃ spec : InstanceSpec, spec.id = identifier ∧ spec.cluster = cluster ∧
    spec.engine = engine ∧ Serves config events k (.create .dbInstance spec.creation)
  absent : (tablesAt config events k).find? .dbInstance identifier = none
  housed : ∃ resource, (tablesAt config events k).find? .cluster cluster =
    some (resource, phase) ∧ resource.engine = engine

/-- What has become of a cluster since event number `k`, when it was in a phase. -/
inductive Tenure (phase : Phase) (k n : Nat) : Prop where
  | kept (resource : ClusterSnapshot) (now : Phase)
      (hthere : (tablesAt config events n).find? .cluster cluster = some (resource, now))
      (hengine : resource.engine = engine)
      (hnow : now.goneIn? =
        phase.goneIn?.map (· - looksBetween config events (.cluster, cluster) k n))
      (hfewer : ∀ left, phase.goneIn? = some left →
        looksBetween config events (.cluster, cluster) k n < left)
      (hhoused : ∀ m, k < m → m ≤ n → Housed (tablesAt config events m) cluster engine)
  | lost (left : Nat) (hleft : phase.goneIn? = some left)
      (hlooks : left ≤ looksBetween config events (.cluster, cluster) k n) (m : Nat) (hk : k < m)
      (hm : m ≤ n) (hlost : ¬ Housed (tablesAt config events m) cluster engine)

end

variable {config : SimulatorConfig} {events : Nat → Event} {identifier cluster engine : String}
  {k n : Nat}

/-! ## One event -/

/-- An instance that is there after an event was there before it, or came in with it. -/
theorem member_or_admits (h : Member config events identifier cluster engine (n + 1)) :
    Member config events identifier cluster engine n ∨
      ∃ phase, Admits config events identifier cluster engine phase n := by
  obtain ⟨existing, phase, hthere, hcluster, hengine⟩ := h
  rcases serves_or_unchanged config events n with ⟨call, hserves⟩ | ⟨-, hsame⟩
  · have hmoves := moves_succ hserves .dbInstance identifier
    generalize hbefore : (tablesAt config events n).find? .dbInstance identifier = before at hmoves
    rw [hthere] at hmoves
    generalize hafter : some (existing, phase) = after at hmoves
    cases hmoves with
    | kept => exact .inl ⟨existing, phase, hbefore.trans hafter.symm, hcluster, hengine⟩
    | looked | modified =>
      cases hafter
      exact .inl ⟨_, _, hbefore, hcluster, hengine⟩
    | vanished => cases hafter
    | @created spec hname _ hsupplied =>
      cases hafter
      obtain ⟨⟨resource, clusterPhase, hhoused, hsame⟩, -⟩ := hsupplied
      subst hname hcluster hengine
      exact .inr ⟨clusterPhase, ⟨spec, rfl, rfl, rfl, hserves⟩, hbefore, resource, hhoused, hsame⟩
    | deleted =>
      obtain ⟨rfl, -⟩ := eq_of_leftAfter hafter.symm
      exact .inl ⟨_, _, hbefore, hcluster, hengine⟩
  · rw [hsame] at hthere
    exact .inl ⟨existing, phase, hthere, hcluster, hengine⟩

/-- A cluster with an instance is in use. -/
theorem Member.inUse (h : Member config events identifier cluster engine n) :
    (tablesAt config events n).inUse .cluster cluster = true := by
  obtain ⟨existing, phase, hthere, hcluster, -⟩ := h
  exact (Tables.inUse_iff .cluster cluster).mpr
    ⟨.dbInstance, identifier, existing, phase, hthere, hcluster⟩

/-- A cluster with an instance stays in an event, and a look brings it closer to being gone if it
is going away, unless the look is the last one. -/
theorem cluster_succ (hused : (tablesAt config events n).inUse .cluster cluster = true)
    {resource : ClusterSnapshot} {now : Phase}
    (hthere : (tablesAt config events n).find? .cluster cluster = some (resource, now)) :
    (∃ later next, (tablesAt config events (n + 1)).find? .cluster cluster = some (later, next) ∧
      later.engine = resource.engine ∧ next.goneIn? =
        now.goneIn?.map (· - (looksAt config events (.cluster, cluster) n).toNat)) ∨
    (tablesAt config events (n + 1)).find? .cluster cluster = none ∧
      looksAt config events (.cluster, cluster) n = true ∧ now.goneIn? = some 1 := by
  rcases serves_or_unchanged config events n with ⟨call, hserves⟩ | ⟨hnone, hsame⟩
  · have hmoves := moves_succ hserves .cluster cluster
    have hlooks : looksAt config events (.cluster, cluster) n = true ↔
        call = .describe .cluster cluster := hserves.looksAt_iff
    generalize hafter : (tablesAt config events (n + 1)).find? .cluster cluster = after at hmoves
    generalize hbefore : (tablesAt config events n).find? .cluster cluster = before at hmoves
    rw [hthere] at hbefore
    cases hmoves with
    | kept h =>
      have hunseen : looksAt config events (.cluster, cluster) n = false :=
        hserves.looksAt_of_write fun htarget =>
          (h htarget).resolve_right fun habsent => nomatch hbefore.trans habsent
      exact .inl ⟨resource, now, hbefore.symm, rfl, by simp [hunseen]⟩
    | looked hlook =>
      cases hbefore
      rw [hlooks.mpr rfl]
      exact .inl ⟨_, _, rfl, rfl, Phase.goneIn?_look hlook⟩
    | vanished hlook =>
      cases hbefore
      exact .inr ⟨rfl, hlooks.mpr rfl, Phase.goneIn?_of_last hlook⟩
    | created => cases hbefore
    | modified =>
      cases hbefore
      exact .inl ⟨_, _, rfl, rfl, rfl⟩
    | deleted _ hfree =>
      -- the cluster is in use, so no deletion of it is accepted
      rw [hused] at hfree
      cases hfree
  · have hunseen : looksAt config events (.cluster, cluster) n = false :=
      looksAt_of_not_serves hnone
    exact .inl ⟨resource, now, hsame ▸ hthere, rfl, by simp [hunseen]⟩

/-! ## Since an instance came in -/

/-- A cluster has its tenure from the event on that creates an instance in it. -/
theorem Tenure.of_admits {phase : Phase}
    (h : Admits config events identifier cluster engine phase n) :
    Tenure config events cluster engine phase n (n + 1) := by
  obtain ⟨⟨spec, -, -, -, hserves⟩, -, resource, hthere, hengine⟩ := h
  have hsame : (tablesAt config events (n + 1)).find? .cluster cluster =
      some (resource, phase) := by
    rw [tablesAt_succ_of_serves hserves, find?_serve_of_ne _ _ _ (by simp [Call.target])]
    exact hthere
  have hlooks : looksBetween config events (.cluster, cluster) n (n + 1) = 0 := by
    have hunseen : looksAt config events (.cluster, cluster) n = false :=
      hserves.looksAt_of_write fun _ => rfl
    rw [looksBetween_succ (Nat.le_refl n), looksBetween_self, hunseen]
    rfl
  refine .kept resource phase hsame hengine ?_ ?_ ?_
  · simp [hlooks]
  · intro left hleft
    rw [hlooks]
    exact Phase.goneIn?_pos hleft
  · intro m hk hm
    obtain rfl : m = n + 1 := by omega
    exact ⟨resource, phase, hsame, hengine⟩

/-- The tenure of a cluster goes on while the instance is there. -/
theorem Tenure.succ {phase : Phase} (hk : k ≤ n)
    (hmember : Member config events identifier cluster engine n)
    (h : Tenure config events cluster engine phase k n) :
    Tenure config events cluster engine phase k (n + 1) := by
  cases h with
  | kept resource now hthere hengine hnow hfewer hhoused =>
    have hsucc : looksBetween config events (.cluster, cluster) k (n + 1) =
        looksBetween config events (.cluster, cluster) k n +
          (looksAt config events (.cluster, cluster) n).toNat := looksBetween_succ hk _
    rcases cluster_succ hmember.inUse hthere with
      ⟨later, next, hlater, hsame, hnext⟩ | ⟨hgone, hlook, hlast⟩
    · have hcount : next.goneIn? =
          phase.goneIn?.map (· - looksBetween config events (.cluster, cluster) k (n + 1)) := by
        rw [hnext, hnow, hsucc, Option.map_map]
        congr 1
        funext left
        simp only [Function.comp]
        omega
      refine .kept later next hlater (hsame.trans hengine) hcount ?_ ?_
      · intro left hleft
        simp only [hleft, Option.map_some] at hcount
        have hpos := Phase.goneIn?_pos hcount
        omega
      · intro m hkm hm
        rcases Nat.lt_or_eq_of_le hm with hlt | rfl
        · exact hhoused m hkm (Nat.le_of_lt_succ hlt)
        · exact ⟨later, next, hlater, hsame.trans hengine⟩
    · -- the cluster is gone with this look, which is as many as there were left
      rw [hlast] at hnow
      obtain ⟨left, hleft, hone⟩ := Option.map_eq_some_iff.mp hnow.symm
      refine .lost left hleft ?_ (n + 1) (by omega) (Nat.le_refl _) ?_
      · rw [hsucc, hlook, Bool.toNat_true]
        omega
      · rintro ⟨later, next, hlater, -⟩
        rw [hgone] at hlater
        cases hlater
  | lost left hleft hlooks m hkm hm hlost =>
    refine .lost left hleft ?_ m hkm (Nat.le_succ_of_le hm) hlost
    rw [looksBetween_succ hk]
    omega

/-- Through its tenure a cluster is there exactly if it was not going away, or has not been looked
at often enough since. -/
theorem Tenure.iff {phase : Phase} (h : Tenure config events cluster engine phase k n) :
    (∀ m, k < m → m ≤ n → Housed (tablesAt config events m) cluster engine) ↔
      ∀ left, phase.goneIn? = some left →
        looksBetween config events (.cluster, cluster) k n < left := by
  cases h with
  | kept _ _ _ _ _ hfewer hhoused => exact iff_of_true hhoused hfewer
  | lost left hleft hlooks m hk hm hlost =>
    refine iff_of_false (fun h => hlost (h m hk hm)) fun h => ?_
    have := h left hleft
    omega

/-- An instance that is there was created in its cluster at some event, and has been there since. -/
theorem exists_admits (hmember : Member config events identifier cluster engine n) :
    ∃ k phase, k < n ∧ Admits config events identifier cluster engine phase k ∧
      (∀ m, k < m → m ≤ n → Member config events identifier cluster engine m) ∧
      Tenure config events cluster engine phase k n := by
  induction n with
  | zero =>
    obtain ⟨existing, phase, hthere, -⟩ := hmember
    rw [find?_tablesAt_zero] at hthere
    cases hthere
  | succ n ih =>
    rcases member_or_admits hmember with hbefore | ⟨phase, hadmits⟩
    · obtain ⟨k, phase, hk, hadmits, hstays, htenure⟩ := ih hbefore
      refine ⟨k, phase, Nat.lt_succ_of_lt hk, hadmits, fun m hkm hm => ?_,
        htenure.succ (Nat.le_of_lt hk) hbefore⟩
      rcases Nat.lt_or_eq_of_le hm with hlt | rfl
      · exact hstays m hkm (Nat.le_of_lt_succ hlt)
      · exact hmember
    · refine ⟨n, phase, Nat.lt_succ_self n, hadmits, fun m hkm hm => ?_, .of_admits hadmits⟩
      obtain rfl : m = n + 1 := by omega
      exact hmember

/-- An instance was let in while its cluster was there. It has had that cluster ever since exactly
if the cluster was not going away at the time, or has been looked at fewer times since than it
takes to be gone. -/
theorem housed_iff_looks (config : SimulatorConfig) (events : Nat → Event) {n : Nat}
    {identifier : String} {existing : InstanceSnapshot} {now : Phase}
    (hthere : (tablesAt config events n).find? .dbInstance identifier = some (existing, now)) :
    ∃ k phase, k < n ∧
      Admits config events identifier existing.cluster existing.engine phase k ∧
      (∀ m, k < m → m ≤ n →
        Member config events identifier existing.cluster existing.engine m) ∧
      ((∀ m, k < m → m ≤ n →
          Housed (tablesAt config events m) existing.cluster existing.engine) ↔
        ∀ left, phase.goneIn? = some left →
          looksBetween config events (.cluster, existing.cluster) k n < left) := by
  have hmember : Member config events identifier existing.cluster existing.engine n :=
    ⟨existing, now, hthere, rfl, rfl⟩
  obtain ⟨k, phase, hk, hadmits, hstays, htenure⟩ := exists_admits hmember
  exact ⟨k, phase, hk, hadmits, hstays, htenure.iff⟩

/-- An instance that is created in a cluster under deletion, which is looked at until it is
gone. -/
def orphanedInstance : List Event :=
  [.call (.create .cluster ⟨"db1", "aurora-mysql", none, "admin", "secret", [], none, none⟩),
   .call (.delete .cluster "db1"),
   .call (.create .dbInstance ⟨"db1-a", "db1", "aurora-mysql", "db.r6g.large", none, none⟩),
   .call (.describe .cluster "db1"),
   .call (.describe .cluster "db1")]

/-- The cluster of the orphaned instance is gone. -/
theorem not_housed_orphanedInstance :
    ¬ Housed (tablesAt .default (replay orphanedInstance) 5) "db1" "aurora-mysql" := by
  rintro ⟨resource, phase, hthere, -⟩
  cases hthere

/-- The orphaned instance came in while its cluster was going away, and enough looks have come
since. -/
theorem housed_iff_looks_orphanedInstance :
    ∃ k phase, k < 5 ∧
      Admits .default (replay orphanedInstance) "db1-a" "db1" "aurora-mysql" phase k ∧
      ∃ left, phase.goneIn? = some left ∧
        left ≤ looksBetween .default (replay orphanedInstance) (.cluster, "db1") k 5 := by
  have hthere : (tablesAt .default (replay orphanedInstance) 5).find? .dbInstance "db1-a" =
      some (newInstance ⟨"db1-a", "db1", "aurora-mysql", "db.r6g.large", none, none⟩,
        .creating 3) := rfl
  obtain ⟨k, phase, hk, hadmits, -, hiff⟩ :=
    housed_iff_looks .default (replay orphanedInstance) hthere
  refine ⟨k, phase, hk, hadmits, Classical.byContradiction fun hnone => ?_⟩
  have hhoused := hiff.mpr fun left hleft =>
    Nat.lt_of_not_le fun hlooks => hnone ⟨left, hleft, hlooks⟩
  exact not_housed_orphanedInstance (hhoused 5 hk (Nat.le_refl 5))

end Reconciler.Simulator
