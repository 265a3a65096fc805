import Reconciler.Declaration
import Reconciler.Error

/-!
# The deletion guard

What keeps a resource from being deleted: an object that still declares it, and objects whose
spec refers to it. The guard looks at the objects as they are at one moment; every pass of a
deletion request that has not been carried out asks it again.
-/

set_option autoImplicit false

namespace Reconciler

/-- A reason why a resource may not be deleted. -/
inductive Blocker where
  /-- The object manages the resource. -/
  | declared (key : Key)
  /-- The spec of the object refers to the resource. -/
  | referenced (key : Key)
  deriving DecidableEq, Repr

namespace Blocker

def text : Blocker → String
  | .declared key => "still declared by " ++ key.text
  | .referenced key => "referenced by " ++ key.text

end Blocker

namespace Guard

def blockersOf (target : Target) (object : Declaration) : List Blocker :=
  (if object.manifest.manages? = some target then [.declared object.key] else []) ++
    if target ∈ object.manifest.dependencies then [.referenced object.key] else []

/-- The reasons that a list of objects gives, in the order of the list. -/
def blockers (target : Target) (objects : List Declaration) : List Blocker :=
  objects.flatMap (blockersOf target)

def check (target : Target) (objects : List Declaration) : Except Error Unit :=
  match blockers target objects with
  | [] => .ok ()
  | found =>
    let reasons := ", ".intercalate (found.map Blocker.text)
    .error (.stillReferenced s!"{target.1.text} {target.2} is {reasons}")

end Guard

end Reconciler
