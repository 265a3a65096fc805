import Mathlib.Data.List.DropRight
import Reconciler.Proofs.Readiness

/-!
# Readiness over a series of looks

A series of looks begins with a resource that is not ready. What is known after each look is then
what exact integers make of the unbroken stretch of ready looks that the series has come to end
with (`observations_are_exact`). All that is carried from one look to the next is the stamp of that
stretch, and it is after zero. A time that saturates is therefore one at which the clock went back,
and a window that saturates is longer than the clock can run.
-/

set_option autoImplicit false

namespace Reconciler.Readiness

/-- A look at a resource. -/
structure Look where
  ready : Bool
  now : Int64

/-- What is known after each of some looks in a row, when the resource has been ready since a time
before them, zero when it was not ready. -/
def observations (window : Duration) (since : Int64) : List Look → List Readiness
  | [] => []
  | look :: rest =>
    let seen := observe since look.ready look.now window
    seen :: observations window seen.since rest

/-! ## Exact integers -/

/-- Readiness in exact integers. -/
structure Exact where
  since : Int
  settled : Bool
  deriving DecidableEq, Repr

def exact (readiness : Readiness) : Exact :=
  ⟨readiness.since.toInt, readiness.settled⟩

/-- The unbroken stretch of ready looks that a series ends with. -/
def stretch (looks : List Look) : List Look :=
  looks.rtakeWhile (·.ready)

/-- Readiness after a series of looks. The first look of the stretch gives the stamp. The last one
settles it when it is not the first and has reached the window. -/
def reckoned (window : Duration) (looks : List Look) : Exact :=
  match stretch looks with
  | [] => ⟨0, false⟩
  | first :: later =>
    let stamp := max first.now.toInt 1
    ⟨stamp, later.getLast?.any fun last =>
      (window.milliseconds : Int) ≤ max 0 (last.now.toInt - stamp)⟩

variable {window : Duration} {before : List Look} {look first : Look} {later : List Look}

/-- A look that does not find the resource ready ends the stretch. -/
theorem stretch_concat_unready (h : look.ready = false) : stretch (before ++ [look]) = [] :=
  List.rtakeWhile_concat_neg _ _ _ (by simp [h])

/-- A look that finds the resource ready carries the stretch on. -/
theorem stretch_concat_ready (h : look.ready = true) :
    stretch (before ++ [look]) = stretch before ++ [look] :=
  List.rtakeWhile_concat_pos _ _ _ h

/-- Without a stretch there is no stamp and nothing is settled. -/
theorem reckoned_of_stretch_nil (h : stretch before = []) :
    reckoned window before = ⟨0, false⟩ := by
  rw [reckoned, h]

/-- The stamp of a stretch is that of its first look. -/
theorem since_reckoned_of_stretch_cons (h : stretch before = first :: later) :
    (reckoned window before).since = max first.now.toInt 1 := by
  rw [reckoned, h]

/-- After a look that is not ready there is no stamp. -/
theorem reckoned_concat_unready (h : look.ready = false) :
    reckoned window (before ++ [look]) = ⟨0, false⟩ :=
  reckoned_of_stretch_nil (stretch_concat_unready h)

/-- The first look of a stretch gives the stamp. -/
theorem reckoned_concat_first (h : look.ready = true) (hbefore : stretch before = []) :
    reckoned window (before ++ [look]) = ⟨max look.now.toInt 1, false⟩ := by
  rw [reckoned, stretch_concat_ready h, hbefore]
  rfl

/-- A later look of a stretch keeps the stamp and settles when the window has passed since then. -/
theorem reckoned_concat_later (h : look.ready = true) (hbefore : stretch before = first :: later) :
    reckoned window (before ++ [look]) =
      ⟨max first.now.toInt 1,
        (window.milliseconds : Int) ≤ max 0 (look.now.toInt - max first.now.toInt 1)⟩ := by
  rw [reckoned, stretch_concat_ready h, hbefore, List.cons_append]
  simp only [List.getLast?_concat, Option.any_some]

/-- A stamp is not before zero. -/
theorem since_reckoned_nonneg (window : Duration) (looks : List Look) :
    0 ≤ (reckoned window looks).since := by
  cases hstretch : stretch looks with
  | nil =>
    have hsince : (reckoned window looks).since = 0 :=
      congrArg Exact.since (reckoned_of_stretch_nil hstretch)
    omega
  | cons first later =>
    rw [since_reckoned_of_stretch_cons hstretch]
    omega

/-! ## A look and a series of looks -/

/-- A look is exact when the stamp that is carried to it is. -/
theorem exact_observe {since : Int64} (hsince : since.toInt = (reckoned window before).since)
    (look : Look) :
    (observe since look.ready look.now window).exact = reckoned window (before ++ [look]) := by
  cases hready : look.ready with
  | false =>
    rw [reckoned_concat_unready hready, observe_unready]
    rfl
  | true =>
    cases hstretch : stretch before with
    | nil =>
      rw [reckoned_of_stretch_nil hstretch] at hsince
      obtain rfl : since = 0 := Int64.toInt_inj.mp hsince
      rw [reckoned_concat_first hready hstretch, observe_first, exact, toInt_stamp]
    | cons first later =>
      rw [since_reckoned_of_stretch_cons hstretch] at hsince
      have hpos : 0 < since.toInt := by omega
      rw [reckoned_concat_later hready hstretch, observe_later hpos, exact, hsince]

/-- Observations that start from what was reckoned for the looks before are exact from there on. -/
theorem map_exact_observations (window : Duration) (looks before : List Look) {since : Int64}
    (hsince : since.toInt = (reckoned window before).since) :
    (observations window since looks).map exact =
      (List.range looks.length).map fun n =>
        reckoned window (before ++ looks.take (n + 1)) := by
  induction looks generalizing before since with
  | nil => rfl
  | cons look rest ih =>
    have hlook := exact_observe hsince look
    have hrest := ih (before ++ [look]) (congrArg Exact.since hlook)
    rw [observations, List.map_cons, hlook, hrest, List.length_cons, List.range_succ_eq_map,
      List.map_cons, List.map_map]
    simp only [List.append_assoc, List.singleton_append, List.take_succ_cons, List.take_zero,
      Function.comp_def]

/-- Every series of looks at a resource that is not ready at first, at whatever times and for
whatever window, comes to what exact integers make of it at each look, and the time since when the
resource has been ready is never before zero. -/
theorem observations_are_exact (window : Duration) (looks : List Look) :
    (observations window 0 looks).map exact =
        (List.range looks.length).map (fun n => reckoned window (looks.take (n + 1))) ∧
      ∀ seen ∈ observations window 0 looks, 0 ≤ seen.since.toInt := by
  have hexact : (observations window 0 looks).map exact =
      (List.range looks.length).map (fun n => reckoned window (looks.take (n + 1))) :=
    map_exact_observations window looks [] rfl
  refine ⟨hexact, fun seen hseen => ?_⟩
  have hmem : seen.exact ∈ (observations window 0 looks).map exact := List.mem_map_of_mem hseen
  rw [hexact] at hmem
  obtain ⟨n, -, hn⟩ := List.mem_map.mp hmem
  have hsince : seen.since.toInt = (reckoned window (looks.take (n + 1))).since :=
    (congrArg Exact.since hn).symm
  rw [hsince]
  exact since_reckoned_nonneg window _

/-! ## From the earliest time to the latest -/

/-- The longest window that a clock can see through: its stamp is one at the earliest. -/
def longestWindow : Duration := ⟨9223372036854775806999999⟩

/-- The last look of the first stretch is one window after its stamp, and the clock then goes back
to before zero. -/
def farLooks : List Look :=
  [⟨true, Int64.minValue⟩, ⟨true, 0⟩, ⟨true, Int64.maxValue⟩, ⟨false, Int64.maxValue⟩,
    ⟨true, Int64.maxValue⟩, ⟨true, Int64.minValue⟩]

/-- The far looks are observed exactly, up to the last time of the clock. -/
theorem observations_are_exact_farLooks :
    (observations longestWindow 0 farLooks).map exact =
        [⟨1, false⟩, ⟨1, false⟩, ⟨1, true⟩, ⟨0, false⟩, ⟨9223372036854775807, false⟩,
          ⟨9223372036854775807, false⟩] ∧
      ⟨Int64.maxValue, false⟩ ∈ observations longestWindow 0 farLooks ∧
      0 ≤ Int64.maxValue.toInt := by
  have hexact := observations_are_exact longestWindow farLooks
  have hmem : ⟨Int64.maxValue, false⟩ ∈ observations longestWindow 0 farLooks := by decide
  exact ⟨hexact.1.trans (by decide), hmem, hexact.2 _ hmem⟩

end Reconciler.Readiness
