import Reconciler.Provider.Call
import Reconciler.Text.Quoted

/-!
# Inspection texts

How a cluster spec, the request built from it and the simulator's settings are shown to a
reader. The master password is never shown; a fixed mark stands in its place.
-/

set_option autoImplicit false

namespace Reconciler.Inspect

open Text

def optional : Option String → String
  | none => "None"
  | some text => "Some(" ++ quote text ++ ")"

def list (texts : List String) : String :=
  "[" ++ ", ".intercalate (texts.map quote) ++ "]"

/-- What is shown in place of a secret. -/
def redacted : String := quote "<REDACTED>"

/-- A named record with its fields, each already in words. -/
def record (name : String) (fields : List (String × String)) : String :=
  name ++ " \x7b " ++ ", ".intercalate (fields.map fun field => field.1 ++ ": " ++ field.2) ++
    " \x7d"

def clusterSpec (spec : ClusterSpec) : String :=
  record "ClusterSpec" [
    ("id", quote spec.id),
    ("engine", quote spec.engine),
    ("engine_version", optional spec.engineVersion),
    ("master_username", quote spec.masterUsername),
    ("master_user_password", redacted),
    ("security_group_ids", list spec.securityGroups),
    ("subnet_group_name", optional spec.subnetGroup),
    ("parameter_group_name", optional spec.parameterGroup)]

def clusterCreation (request : ClusterCreation) : String :=
  record "CreateDbClusterInput" [
    ("identifier", quote request.identifier),
    ("engine", quote request.engine),
    ("engine_version", optional request.engineVersion),
    ("master_username", quote request.masterUsername),
    ("master_user_password", redacted),
    ("vpc_security_group_ids", list request.securityGroups),
    ("db_subnet_group_name", optional request.subnetGroup),
    ("db_cluster_parameter_group_name", optional request.parameterGroup)]

end Reconciler.Inspect
