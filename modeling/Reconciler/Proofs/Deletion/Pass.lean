import Reconciler.Engine.Deletion
import Reconciler.Proofs.Calls

/-!
# Passes over a deletion request

What a pass comes to in each state of a request, one equation for each: it makes no call, one
delete call, or one describe call.
-/

set_option autoImplicit false

namespace Reconciler.Deletion

/-- The state after a pass: the one that it came to, or the one before it when it failed. -/
def carried (state : DeletionState) :
    Except Failure (Outcome DeletionState) → DeletionState
  | .ok outcome => outcome.status
  | .error _ => state

variable {σ : Type} (config : EngineConfig) (spec : DeletionSpec) (objects : List Declaration)
  (provider : Provider σ) (s : σ)

/-- A request that was never reconciled is created without a call. -/
theorem run_pass_noState :
    (pass allRemovers config spec .noState objects).run provider s =
      (.ok (.settle .created), s) := rfl

/-- A completed request stays completed without a call. -/
theorem run_pass_completed :
    (pass allRemovers config spec .completed objects).run provider s =
      (.ok (.settle .completed), s) := rfl

/-- A created request that nothing blocks asks for the deletion once. -/
theorem run_pass_created {objects : List Declaration}
    (hfree : Guard.check (spec.kind, spec.identifier) objects = .ok ()) :
    (pass allRemovers config spec .created objects).run provider s =
      (match Calls.gone? (provider (.delete spec.kind spec.identifier) s).1 with
        | .ok () => .ok (.settle .executing)
        | .error error => .error (config.fail error),
        (provider (.delete spec.kind spec.identifier) s).2) := by
  have hremove : ((Adapter.delete spec.kind spec.identifier).absentIsDone).runWith provider s =
      (Calls.gone? (provider (.delete spec.kind spec.identifier) s).1,
        (provider (.delete spec.kind spec.identifier) s).2) := by
    rw [Calls.runWith_absentIsDone, Adapter.runWith_delete, Calls.gone?_gone?]
  have hcalls : (calls allRemovers config spec .created objects) =
      (Adapter.delete spec.kind spec.identifier).absentIsDone >>= fun _ =>
        pure (.settle .executing) := by
    simp only [calls, hfree]
    rfl
  rw [pass, Pass.run_ofCalls, hcalls, Calls.runWith_bind, hremove]
  dsimp only
  cases Calls.gone? (provider (.delete spec.kind spec.identifier) s).1 <;> rfl

/-- An executing request looks for its target once. -/
theorem run_pass_executing :
    (pass allRemovers config spec .executing objects).run provider s =
      (match Calls.found? (provider (.describe spec.kind spec.identifier) s).1 with
        | .ok (some _) => .ok (.after .executing config.poll)
        | .ok none => .ok (.settle .completed)
        | .error error => .error (config.fail error),
        (provider (.describe spec.kind spec.identifier) s).2) := by
  have hcalls : (calls allRemovers config spec .executing objects) =
      Adapter.exists? spec.kind spec.identifier >>= fun remains =>
        if remains then pure (.after .executing config.poll)
        else pure (.settle .completed) := rfl
  rw [pass, Pass.run_ofCalls, hcalls, Calls.runWith_bind, Adapter.exists?, Calls.runWith_bind,
    Adapter.runWith_find]
  dsimp only
  cases Calls.found? (provider (.describe spec.kind spec.identifier) s).1 with
  | error error => rfl
  | ok found => cases found <;> rfl

end Reconciler.Deletion
