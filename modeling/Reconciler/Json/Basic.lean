/-!
# JSON values

The values of a JSON text. Numbers come in two sorts: whole numbers of 64 bits, signed or
unsigned, which the typed readers use, and all others, which are kept as they were written
because no reader looks into them. An object keeps its members in the order of the text, so
a repeated member is still seen by whoever reads it.
-/

set_option autoImplicit false

namespace Reconciler

/-- A JSON value. -/
inductive Json where
  | null
  | bool (value : Bool)
  /-- A number without fraction or exponent that fits 64 bits, with or without a sign. -/
  | int (value : Int)
  /-- Any other number, as written. -/
  | real (literal : String)
  | str (value : String)
  | arr (items : List Json)
  | obj (members : List (String × Json))
  /-- A value of correct form without a meaning: half of a surrogate pair in a string, a
  number beyond all magnitudes, or an array or object below the deepest level. A reader that
  skips the value does not mind it. -/
  | unreadable
  deriving Repr, Inhabited, BEq

namespace Json

mutual

/-- Whether a value holds nothing unreadable at any depth. -/
def readable : Json → Bool
  | .arr items => readableItems items
  | .obj members => readableMembers members
  | .unreadable => false
  | _ => true
termination_by structural json => json

/-- Whether every item of an array is readable. -/
def readableItems : List Json → Bool
  | [] => true
  | item :: rest => readable item && readableItems rest
termination_by structural items => items

/-- Whether every member of an object is readable. -/
def readableMembers : List (String × Json) → Bool
  | [] => true
  | (_, value) :: rest => readable value && readableMembers rest
termination_by structural members => members

end

/-- The values of the members with a given name, in order. -/
def named (members : List (String × Json)) (name : String) : List Json :=
  members.filterMap fun member => if member.1 = name then some member.2 else none

/-- The first member of an object with a given name. -/
def member? (name : String) : Json → Option Json
  | .obj members => (named members name).head?
  | _ => none

def asText? : Json → Option String
  | .str value => some value
  | _ => none

/-- Whether a value is `null`. -/
def isNull : Json → Bool
  | .null => true
  | _ => false

/-- A string value, or `null` when there is none. -/
def ofText? (text : Option String) : Json :=
  text.elim .null .str

def ofTexts (texts : List String) : Json :=
  .arr (texts.map .str)

/-- A natural number, as a count or a size. -/
def ofNat (n : Nat) : Json :=
  .int n

end Json

end Reconciler
