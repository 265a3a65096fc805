import Reconciler.Store.Table
import Reconciler.Json.Printer

/-!
# Store documents

The text in which a table is kept in a file: the version of the format and the objects in the
order of their keys. A document of another version is read all the same.
-/

set_option autoImplicit false

namespace Reconciler.Document

open Json

/-- The version of the format. -/
def version : String := "1.0"

def toJson (objects : List Declaration) : Json :=
  .obj [("version", .str version), ("objects", .arr (objects.map Declaration.toJson))]

def ofJson? : Json → Option (List Declaration) :=
  toRecord? do
    let _ ← Reader.required "version" asText?
    Reader.required "objects" (toList? Declaration.ofJson?)

def write (objects : List Declaration) : String :=
  (toJson objects).pretty

def read? (text : String) : Option (List Declaration) :=
  (parse? text).bind ofJson?

end Reconciler.Document
