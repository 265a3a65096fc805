import Reconciler.Adapter
import Reconciler.Engine.Outcome
import Reconciler.Proofs.Trace

/-!
# Running provider calls

How a computation of provider calls runs against a provider, one lemma for each way to put such
computations together: it stops at the first error that it does not handle, and each call
is one question. The same goes for the calls of a run with their answers (`Calls.dialogueWith`),
and from there for the calls alone (`Calls.madeWith`). `Calls.Makes` says which calls a
computation may make at all, and `Pass.run_ofCalls` how a pass of an engine ends.
-/

set_option autoImplicit false

namespace Reconciler

/-- A call and the answer that it got. -/
abbrev Exchange : Type := (call : Call) × call.Answer

namespace Calls

variable {α β σ : Type} (provider : Provider σ)

/-! ## Which calls are made -/

/-- A computation that makes calls of one sort only, whatever is answered. -/
def Makes (p : Call → Prop) (calls : Calls α) : Prop :=
  Script.Asks p calls.run

variable {p : Call → Prop}

/-- A finished computation makes no calls. -/
theorem makes_pure (value : α) : Makes p (pure value) := trivial

/-- A failed computation makes no calls. -/
theorem makes_throw (error : Error) : Makes p (throw error : Calls α) := trivial

/-- A single call is all that its computation makes. -/
theorem makes_perform {call : Call} (h : p call) : Makes p (perform call) :=
  ⟨h, fun _ => trivial⟩

/-- Going on from a value makes the calls of what goes on. -/
theorem Makes.pure_bind {value : α} {f : α → Calls β} (h : Makes p (f value)) :
    Makes p (pure value >>= f) := h

/-- Calls of one sort followed by calls of that sort are calls of that sort. -/
theorem Makes.bind {calls : Calls α} {f : α → Calls β} (hcalls : Makes p calls)
    (hf : ∀ value, Makes p (f value)) : Makes p (calls >>= f) := by
  refine Script.Asks.bind hcalls fun result => ?_
  cases result with
  | ok value => exact hf value
  | error error => trivial

/-- Dropping the answer makes no other calls. -/
theorem Makes.discard {calls : Calls α} (h : Makes p calls) : Makes p (discard calls) :=
  Script.Asks.bind h fun result => by cases result <;> trivial

/-- Taking what is not found as absent makes no other calls. -/
theorem Makes.orAbsent {calls : Calls α} (h : Makes p calls) : Makes p calls.orAbsent := by
  refine Script.Asks.bind h fun result => ?_
  cases result <;> trivial

/-- Taking an absent target as deleted makes no other calls. -/
theorem Makes.absentIsDone {calls : Calls Unit} (h : Makes p calls) :
    Makes p calls.absentIsDone := by
  refine Script.Asks.bind h fun result => ?_
  cases result <;> trivial

/-! ## What a run comes to -/

/-- A finished computation answers its value and leaves the provider as it is. -/
@[simp]
theorem runWith_pure (value : α) (s : σ) :
    (pure value : Calls α).runWith provider s = (.ok value, s) := rfl

/-- A single call is answered by the provider. -/
@[simp]
theorem runWith_perform (call : Call) (s : σ) :
    (perform call).runWith provider s = provider call s := rfl

/-- A computation goes on with its value, and stops at its error. -/
theorem runWith_bind (calls : Calls α) (f : α → Calls β) (s : σ) :
    (calls >>= f).runWith provider s =
      match (calls.runWith provider s).1 with
      | .ok value => (f value).runWith provider (calls.runWith provider s).2
      | .error error => (.error error, (calls.runWith provider s).2) := by
  simp only [runWith, ExceptT.run_bind, Script.bind_eq, Script.run_bind]
  cases (Script.run provider calls.run s).1 <;> rfl

/-- A value that nobody asks for is dropped, an error is not. -/
theorem runWith_discard (calls : Calls α) (s : σ) :
    (discard calls).runWith provider s =
      ((calls.runWith provider s).1.map fun _ => (), (calls.runWith provider s).2) := by
  show (calls >>= fun _ => pure ()).runWith provider s = _
  rw [runWith_bind]
  cases (calls.runWith provider s).1 <;> rfl

/-- An answer in which what is not found is absent; every other error stays. -/
def found? (answer : Except Error α) : Except Error (Option α) :=
  match answer with
  | .ok value => .ok (some value)
  | .error error => if error.isNotFound then .ok none else .error error

/-- The answer passes through `found?`; the provider is left as the calls leave it. -/
theorem runWith_orAbsent (calls : Calls α) (s : σ) :
    calls.orAbsent.runWith provider s =
      (found? (calls.runWith provider s).1, (calls.runWith provider s).2) := by
  simp only [runWith, orAbsent, ExceptT.run_mk, Script.bind_eq, Script.run_bind]
  cases (Script.run provider calls.run s).1 <;> rfl

/-- A deletion that did not find what was to be deleted counts as done. -/
def gone? (answer : Except Error Unit) : Except Error Unit :=
  match answer with
  | .ok () => .ok ()
  | .error error => if error.isNotFound then .ok () else .error error

/-- The answer passes through `gone?`; the provider is left as the calls leave it. -/
theorem runWith_absentIsDone (calls : Calls Unit) (s : σ) :
    calls.absentIsDone.runWith provider s =
      (gone? (calls.runWith provider s).1, (calls.runWith provider s).2) := by
  simp only [runWith, absentIsDone, ExceptT.run_mk, Script.bind_eq, Script.run_bind]
  cases (Script.run provider calls.run s).1 <;> rfl

/-- A deletion that counts as done still does so when it is looked at again. -/
@[simp]
theorem gone?_gone? (answer : Except Error Unit) : gone? (gone? answer) = gone? answer := by
  cases answer with
  | ok value => rfl
  | error error => by_cases h : error.isNotFound = true <;> simp [gone?, h]

/-! ## What is said in a run -/

/-- The calls that are made when the calls run against a provider, each with its answer. -/
def dialogueWith (calls : Calls α) (s : σ) : List Exchange :=
  Script.dialogue provider calls.run s

/-- A finished computation asks nothing. -/
@[simp]
theorem dialogueWith_pure (value : α) (s : σ) :
    (pure value : Calls α).dialogueWith provider s = [] := rfl

/-- A single call is one question with its answer. -/
@[simp]
theorem dialogueWith_perform (call : Call) (s : σ) :
    (perform call).dialogueWith provider s = [⟨call, (provider call s).1⟩] := rfl

/-- A computation that stops at an error says no more. -/
theorem dialogueWith_bind (calls : Calls α) (f : α → Calls β) (s : σ) :
    (calls >>= f).dialogueWith provider s =
      calls.dialogueWith provider s ++
        match (calls.runWith provider s).1 with
        | .ok value => (f value).dialogueWith provider (calls.runWith provider s).2
        | .error _ => [] := by
  simp only [dialogueWith, runWith, ExceptT.run_bind, Script.bind_eq, Script.dialogue_bind]
  cases (Script.run provider calls.run s).1 <;> rfl

/-- What goes on without a call adds nothing to what was said. -/
theorem dialogueWith_bind_of_silent (calls : Calls α) {f : α → Calls β}
    (h : ∀ value s, (f value).dialogueWith provider s = []) (s : σ) :
    (calls >>= f).dialogueWith provider s = calls.dialogueWith provider s := by
  rw [dialogueWith_bind]
  split
  · rw [h, List.append_nil]
  · exact List.append_nil _

/-- Working on the value at the end asks nothing more. -/
theorem dialogueWith_bind_pure (calls : Calls α) (f : α → β) (s : σ) :
    (calls >>= fun value => pure (f value)).dialogueWith provider s =
      calls.dialogueWith provider s :=
  dialogueWith_bind_of_silent provider calls (fun _ _ => rfl) s

/-- Dropping the answer asks the same questions. -/
@[simp]
theorem dialogueWith_discard (calls : Calls α) (s : σ) :
    (discard calls).dialogueWith provider s = calls.dialogueWith provider s :=
  dialogueWith_bind_pure provider calls (fun _ => ()) s

/-- Taking what is not found as absent asks the same questions. -/
@[simp]
theorem dialogueWith_orAbsent (calls : Calls α) (s : σ) :
    calls.orAbsent.dialogueWith provider s = calls.dialogueWith provider s := by
  simp only [dialogueWith, orAbsent, ExceptT.run_mk, Script.bind_eq, Script.dialogue_bind]
  cases (Script.run provider calls.run s).1 with
  | ok value => exact List.append_nil _
  | error error => split <;> exact List.append_nil _

/-- What is said in a run without the answers is the calls that it makes. -/
@[simp]
theorem map_fst_dialogueWith (calls : Calls α) (s : σ) :
    (calls.dialogueWith provider s).map Sigma.fst = calls.madeWith provider s :=
  Script.map_fst_dialogue provider calls.run s

/-! ## Which calls a run makes -/

/-- A finished computation makes no call. -/
@[simp]
theorem madeWith_pure (value : α) (s : σ) :
    (pure value : Calls α).madeWith provider s = [] := rfl

/-- A single call is the only one that is made. -/
@[simp]
theorem madeWith_perform (call : Call) (s : σ) :
    (perform call).madeWith provider s = [call] := rfl

/-- A computation that stops at an error makes no more calls. -/
theorem madeWith_bind (calls : Calls α) (f : α → Calls β) (s : σ) :
    (calls >>= f).madeWith provider s =
      calls.madeWith provider s ++
        match (calls.runWith provider s).1 with
        | .ok value => (f value).madeWith provider (calls.runWith provider s).2
        | .error _ => [] := by
  simp only [← map_fst_dialogueWith, dialogueWith_bind, List.map_append]
  cases (calls.runWith provider s).1 <;> rfl

/-- Dropping the answer makes the same calls. -/
@[simp]
theorem madeWith_discard (calls : Calls α) (s : σ) :
    (discard calls).madeWith provider s = calls.madeWith provider s := by
  rw [← map_fst_dialogueWith, dialogueWith_discard, map_fst_dialogueWith]

/-- Taking what is not found as absent makes the same calls. -/
@[simp]
theorem madeWith_orAbsent (calls : Calls α) (s : σ) :
    calls.orAbsent.madeWith provider s = calls.madeWith provider s := by
  rw [← map_fst_dialogueWith, dialogueWith_orAbsent, map_fst_dialogueWith]

end Calls

namespace Adapter

variable {σ : Type} (provider : Provider σ) (kind : ResourceKind)

/-- Looking for a resource is one describe call. -/
theorem runWith_find (identifier : String) (s : σ) :
    (find kind identifier).runWith provider s =
      (Calls.found? (provider (.describe kind identifier) s).1,
        (provider (.describe kind identifier) s).2) := by
  rw [find, Calls.runWith_orAbsent, Calls.describe, Calls.runWith_perform]

/-- Finding a resource is one describe call. -/
theorem madeWith_find (identifier : String) (s : σ) :
    (find kind identifier).madeWith provider s = [.describe kind identifier] := by
  rw [find, Calls.madeWith_orAbsent, Calls.describe, Calls.madeWith_perform]

/-- An update makes the call for what has to change, and no call when nothing has to. -/
theorem madeWith_update (existing : kind.Snapshot) (spec : kind.Spec) (s : σ) :
    (update kind existing spec).madeWith provider s =
      (change? kind existing spec).toList.map (Call.modify kind) := by
  unfold update
  split
  · next hnone => rw [hnone, Calls.madeWith_pure, Option.toList_none, List.map_nil]
  · next change hsome =>
    rw [hsome, Calls.madeWith_discard, Calls.modify, Calls.madeWith_perform, Option.toList_some,
      List.map_singleton]

/-- Deleting a resource is one delete call. -/
theorem runWith_delete (identifier : String) (s : σ) :
    (delete kind identifier).runWith provider s =
      (Calls.gone? (provider (.delete kind identifier) s).1,
        (provider (.delete kind identifier) s).2) := by
  rw [delete, Calls.runWith_absentIsDone, Calls.delete, Calls.runWith_perform]

end Adapter

namespace Pass

variable {S σ : Type} (provider : Provider σ) (config : EngineConfig) (calls : Calls (Outcome S))

/-- A pass ends as its calls do, and an error gets its delay. -/
theorem run_ofCalls (s : σ) :
    (Pass.ofCalls config calls).run provider s =
      ((calls.runWith provider s).1.mapError config.fail, (calls.runWith provider s).2) := by
  rw [Pass.ofCalls, Script.run_bind]
  rfl

/-- A pass asks for its calls. -/
theorem asked_ofCalls (s : σ) :
    (Pass.ofCalls config calls).asked provider s = calls.madeWith provider s := by
  rw [Pass.ofCalls, Script.asked_bind]
  exact List.append_nil _

/-- What a pass says is what its calls say. -/
theorem dialogue_ofCalls (s : σ) :
    (Pass.ofCalls config calls).dialogue provider s = calls.dialogueWith provider s := by
  rw [Pass.ofCalls, Script.dialogue_bind]
  exact List.append_nil _

/-- A pass made of calls asks what its calls ask. -/
theorem asks_ofCalls {p : Call → Prop} {calls : Calls (Outcome S)} (h : calls.Makes p) :
    (Pass.ofCalls config calls).Asks p :=
  Script.Asks.bind h fun _ => trivial

end Pass

end Reconciler
