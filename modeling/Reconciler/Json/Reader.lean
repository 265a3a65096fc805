import Reconciler.Json.Basic

/-!
# Typed readers

Readers that turn a JSON value into a value of a type, or refuse it. A record is read field
by field, either by name from an object or by position from an array; each field says what
stands for it when it is left off. A named member that no field asks for is skipped, a
surplus position is refused.
-/

set_option autoImplicit false

namespace Reconciler.Json

/-- Where a value under reading comes from. -/
inductive Origin where
  /-- Straight from a text whose reader was known when it was met. -/
  | text
  /-- From a copy that was taken before its reader was known. -/
  | copy
  deriving DecidableEq, Repr

/-- The value as a copy, which can only be taken when all of it is readable. -/
def copied? (json : Json) : Option Json :=
  if json.readable then some json else none

/-- A whole number in a range, ends included. -/
def toIntWithin? (low high : Int) : Json → Option Int
  | .int value => if low ≤ value ∧ value ≤ high then some value else none
  | _ => none

def toUInt32? (json : Json) : Option UInt32 :=
  (toIntWithin? 0 (UInt32.size - 1) json).map fun value => UInt32.ofNat value.toNat

def toUInt64? (json : Json) : Option UInt64 :=
  (toIntWithin? 0 (UInt64.size - 1) json).map fun value => UInt64.ofNat value.toNat

def toInt64? (json : Json) : Option Int64 :=
  (toIntWithin? Int64.minValue.toInt Int64.maxValue.toInt json).map Int64.ofInt

def toBool? : Json → Option Bool
  | .bool value => some value
  | _ => none

def toList? {α : Type} (read : Json → Option α) : Json → Option (List α)
  | .arr items => items.mapM read
  | _ => none

def toTexts? : Json → Option (List String) :=
  toList? asText?

def orNull {α : Type} (read : Json → Option α) : Json → Option (Option α)
  | .null => some none
  | json => (read json).map some

/-- One of a set of names: the plain name, or an object whose only member has that name and
no content. A copy takes an empty object for no content as well. -/
def toName? {α : Type} (origin : Origin) (named : String → Option α) : Json → Option α
  | .str name => named name
  | .obj [(name, .null)] => named name
  | .obj [(name, .obj [])] => if origin = .copy then named name else none
  | _ => none

inductive Fields where
  /-- All members of an object. -/
  | named (members : List (String × Json))
  /-- The items of an array that are left. -/
  | positional (items : List Json)

/-- A reader of some fields of a record. -/
abbrev Reader (α : Type) : Type := StateT Fields Option α

namespace Reader

variable {α : Type}

/-- Reads one field. `unnamed` stands for a member that is absent from an object, `beyond` for
a position beyond the end of an array; a member given twice is refused. -/
def field (name : String) (read : Json → Option α) (unnamed beyond : Option α) : Reader α :=
  fun fields => match fields with
    | .named members => match named members name with
      | [] => unnamed.map (·, fields)
      | [value] => (read value).map (·, fields)
      | _ => none
    | .positional [] => beyond.map (·, fields)
    | .positional (value :: rest) => (read value).map (·, .positional rest)

def required (name : String) (read : Json → Option α) : Reader α :=
  field name read none none

/-- A field that may be `null` or unnamed. -/
def optional (name : String) (read : Json → Option α) : Reader (Option α) :=
  field name (orNull read) (some none) none

def defaulted (name : String) (read : Json → Option α) (default : α) : Reader α :=
  field name read (some default) (some default)

/-- A field that may be `null` or left off. -/
def omittable (name : String) (read : Json → Option α) : Reader (Option α) :=
  field name (orNull read) (some none) (some none)

end Reader

def toRecord? {α : Type} (reader : Reader α) : Json → Option α
  | .obj members => (reader (.named members)).map (·.1)
  | .arr items => match reader (.positional items) with
    | some (value, .positional []) => some value
    | _ => none
  | _ => none

/-- Splits a tagged value into its tag and the record of its other fields. An object has its
tag in the named member, an array has it first. -/
def toTagged? (name : String) : Json → Option (String × Json)
  | .obj members => match Json.named members name with
    | [.str tag] => some (tag, .obj (members.filter (·.1 ≠ name)))
    | _ => none
  | .arr (.str tag :: rest) => some (tag, .arr rest)
  | _ => none

/-- The members of an object, with those left out whose value is absent. -/
def ofMembers (members : List (String × Option Json)) : Json :=
  .obj (members.filterMap fun member => member.2.map (member.1, ·))

end Reconciler.Json
