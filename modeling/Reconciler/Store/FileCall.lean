import Reconciler.Script

/-!
# File system calls

The actions on files that a store on disk consists of, one call for each, so that a failure or
a stop can come between any two. A disk is a handler of these calls.
-/

set_option autoImplicit false

namespace Reconciler

/-- The reasons why an action on files fails. -/
inductive FileError where
  | missing
  | exists
  | notDirectory
  | isDirectory
  | invalidSource
  | invalidArgument
  /-- A path has a character that no name can have. -/
  | invalidName
  | nameTooLong
  /-- A directory is in use. -/
  | busy
  /-- The bytes of a file are no text. -/
  | invalidText
  /-- Any other reason, in the words of the system. -/
  | other (message : String)
  deriving DecidableEq, Repr

def FileError.message : FileError → String
  | .missing => "No such file or directory (os error 2)"
  | .exists => "File exists (os error 17)"
  | .notDirectory => "Not a directory (os error 20)"
  | .isDirectory => "Is a directory (os error 21)"
  | .invalidSource =>
    "the source path is neither a regular file nor a symlink to a regular file"
  | .invalidArgument => "Invalid argument (os error 22)"
  | .invalidName => "file name contained an unexpected NUL byte"
  | .nameTooLong => "File name too long (os error 36)"
  | .busy => "Device or resource busy (os error 16)"
  | .invalidText => "stream did not contain valid UTF-8"
  | .other message => message

/-- An action on files. -/
inductive FileCall where
  /-- Whether there is anything at a path. -/
  | exists (path : String)
  /-- Whether there is a file at a path. -/
  | isFile (path : String)
  /-- Makes a directory and all directories above it. -/
  | makeDirectories (path : String)
  /-- The text of a file. -/
  | readText (path : String)
  /-- Makes an empty file, or empties the one that is there. -/
  | create (path : String)
  /-- Adds a text to the end of a file. -/
  | append (path : String) (text : String)
  /-- Waits until all that was added to a file is in it. -/
  | flush (path : String)
  /-- Makes the contents of one file those of another. -/
  | copy (source target : String)
  /-- Moves a file in place of another. -/
  | rename (source target : String)
  deriving DecidableEq, Repr

abbrev FileCall.Answer : FileCall → Type
  | .exists _ => Bool
  | .isFile _ => Bool
  | .readText _ => Except FileError String
  | _ => Except FileError Unit

/-- A file system with a memory of type `σ`. -/
abbrev FileSystem (σ : Type) : Type :=
  Handler FileCall FileCall.Answer σ

/-- A computation that acts on files. -/
abbrev Files (α : Type) : Type :=
  Script FileCall FileCall.Answer α

namespace Files

/-- Asks for one action on files. -/
def act (call : FileCall) : Files call.Answer :=
  Script.question call

/-- Goes on after an action on files, or fails with an error made from its failure. -/
def require {α ε : Type} (action : Files (Except FileError α)) (refusal : FileError → ε) :
    ExceptT ε Files α :=
  ExceptT.mk (action.bind fun answer => .done (answer.mapError refusal))

end Files

end Reconciler
