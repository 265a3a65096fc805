import Reconciler.Proofs.Site

/-!
# Rounds of passes

A round is one pass over each of some keys, in any order. When a pass takes its own key one round
further and leaves the others where they are, rounds take every key as many rounds further.
-/

set_option autoImplicit false

namespace Reconciler

/-- The passes of a round in order, each with its key and its time. -/
abbrev Round : Type := List (Key × Int64)

namespace Site

variable {φ μ : Type} (system : FileSystem φ) (provider : Provider μ) (config : EngineConfig)

def passes (visits : List (Key × Int64)) (site : Site φ μ) : Site φ μ :=
  visits.foldl (fun site visit => (site.pass system provider config visit.2 visit.1).2) site

/-- Passes are made one after the other. -/
theorem passes_cons (visit : Key × Int64) (rest : List (Key × Int64)) (site : Site φ μ) :
    site.passes system provider config (visit :: rest) =
      (site.pass system provider config visit.2 visit.1).2.passes system provider config rest :=
  rfl

/-- Passes in a row are made after those before them. -/
theorem passes_append (first second : List (Key × Int64)) (site : Site φ μ) :
    site.passes system provider config (first ++ second) =
      (site.passes system provider config first).passes system provider config second :=
  List.foldl_append

/-! ## One round further -/

section

variable {system provider config} {keys : List Key} {Sound : Site φ μ → Prop}
  {At : Nat → Key → Site φ μ → Prop}

/-- What a pass does to a site at which every key has been through a number of rounds: it takes
its own key one round further, and the other keys stay where they are. -/
def Advances (system : FileSystem φ) (provider : Provider μ) (config : EngineConfig)
    (keys : List Key) (Sound : Site φ μ → Prop) (At : Nat → Key → Site φ μ → Prop) : Prop :=
  ∀ round key now site, key ∈ keys → Sound site → (∀ other ∈ keys, At round other site) →
    Sound (site.pass system provider config now key).2 ∧
      At (round + 1) key (site.pass system provider config now key).2 ∧
      ∀ other ∈ keys, other ≠ key → ∀ rounds, At rounds other site →
        At rounds other (site.pass system provider config now key).2

/-- What is left of a round takes the keys whose passes are still to come one round further. -/
theorem Advances.visits (hpass : Advances system provider config keys Sound At)
    (hmono : ∀ round key site, At (round + 1) key site → At round key site) {round : Nat}
    (visits : Round) (hkeys : ∀ visit ∈ visits, visit.1 ∈ keys)
    (hnodup : (visits.map Prod.fst).Nodup) {site : Site φ μ} (hsound : Sound site)
    (hbefore : ∀ key ∈ keys, At round key site)
    (hafter : ∀ key ∈ keys, key ∉ visits.map Prod.fst → At (round + 1) key site) :
    Sound (site.passes system provider config visits) ∧
      ∀ key ∈ keys, At (round + 1) key (site.passes system provider config visits) := by
  induction visits generalizing site with
  | nil => exact ⟨hsound, fun key hkey => hafter key hkey (by simp)⟩
  | cons visit rest ih =>
    obtain ⟨hfirst, hrest⟩ := List.nodup_cons.mp hnodup
    obtain ⟨hsound', hnext, hothers⟩ := hpass round visit.1 visit.2 site
      (hkeys visit List.mem_cons_self) hsound hbefore
    rw [passes_cons]
    refine ih (fun visit h => hkeys visit (List.mem_cons_of_mem _ h)) hrest hsound' ?_ ?_
    · intro key hkey
      by_cases hsame : key = visit.1
      · rw [hsame]
        exact hmono _ _ _ hnext
      · exact hothers key hkey hsame round (hbefore key hkey)
    · intro key hkey hpassed
      by_cases hsame : key = visit.1
      · rw [hsame]
        exact hnext
      · refine hothers key hkey hsame (round + 1) (hafter key hkey ?_)
        rw [List.map_cons, List.mem_cons]
        exact not_or.mpr ⟨hsame, hpassed⟩

/-- Rounds in which every key has its pass take all keys as many rounds further. -/
theorem Advances.rounds (hpass : Advances system provider config keys Sound At)
    (hmono : ∀ round key site, At (round + 1) key site → At round key site)
    (hkeys : keys.Nodup) (rounds : List Round)
    (horder : ∀ visits ∈ rounds, (visits.map Prod.fst).Perm keys) {round : Nat}
    {site : Site φ μ} (hsound : Sound site) (hstart : ∀ key ∈ keys, At round key site) :
    Sound (site.passes system provider config rounds.flatten) ∧
      ∀ key ∈ keys,
        At (round + rounds.length) key (site.passes system provider config rounds.flatten) := by
  induction rounds generalizing site round with
  | nil => exact ⟨hsound, hstart⟩
  | cons visits rest ih =>
    have hperm := horder visits List.mem_cons_self
    obtain ⟨hsound', hnext⟩ := hpass.visits hmono visits
      (fun visit h => hperm.mem_iff.mp (List.mem_map_of_mem h)) (hperm.nodup_iff.mpr hkeys)
      hsound hstart (fun key hkey hnone => absurd (hperm.mem_iff.mpr hkey) hnone)
    obtain ⟨hlast, hall⟩ := ih (fun visits h => horder visits (List.mem_cons_of_mem _ h))
      hsound' hnext
    rw [List.flatten_cons, passes_append]
    refine ⟨hlast, fun key hkey => ?_⟩
    rw [List.length_cons, Nat.add_comm rest.length, ← Nat.add_assoc]
    exact hall key hkey

end

end Site

end Reconciler
