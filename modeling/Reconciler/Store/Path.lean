/-!
# Paths

Paths as texts: the directories that a path lies in, the same path with another extension, and
the steps along a path. Repeated separators do not count, and single dots count only where they
tell a directory from a file.
-/

set_option autoImplicit false

namespace Reconciler.Path

/-- A path written backwards, without the separators and single dots at its end. -/
def settled : List Char → List Char
  | '/' :: rest => settled rest
  | '.' :: '/' :: rest => settled rest
  | chars => chars

/-- The directory that a path lies in: none for the root and the empty path, and the empty
path for a bare name. -/
def parent? (path : String) : Option String :=
  match settled path.toList.reverse with
  | [] => none
  | chars => match chars.dropWhile (· != '/') with
    | [] => some ""
    | rest => match settled rest with
      | [] => some "/"
      | up => some (String.ofList up.reverse)

/-- A path without its end is no longer than the path. -/
theorem length_settled_le (chars : List Char) : (settled chars).length ≤ chars.length := by
  fun_induction settled chars with
  | case1 rest ih => exact Nat.le_succ_of_le ih
  | case2 rest ih => simp only [List.length_cons]; omega
  | case3 => exact Nat.le_refl _

/-- A path without its end does not end in a separator. -/
theorem head_settled_ne (chars : List Char) : (settled chars).head? ≠ some '/' := by
  fun_induction settled chars with
  | case1 rest ih => exact ih
  | case2 rest ih => exact ih
  | case3 chars h =>
    intro head
    cases chars with
    | nil => simp at head
    | cons c rest => exact h rest (by simp_all)

/-- The directory that a path lies in has a shorter path. -/
theorem length_lt_of_parent? {path up : String} (h : parent? path = some up) :
    up.length < path.length := by
  have size : (settled path.toList.reverse).length ≤ path.length := by
    simpa [← String.length_toList] using length_settled_le path.toList.reverse
  have head := head_settled_ne path.toList.reverse
  unfold parent? at h
  split at h
  · cases h
  · rename_i chars some_chars
    cases chars : settled path.toList.reverse with
    | nil => exact absurd chars some_chars
    | cons c rest =>
      have other : c ≠ '/' := by simpa [chars] using head
      have cut : ((c :: rest).dropWhile (· != '/')).length ≤ rest.length := by
        simpa [other] using (List.dropWhile_suffix (· != '/')).length_le
      have up_le := length_settled_le ((c :: rest).dropWhile (· != '/'))
      rw [chars] at h size
      simp only [List.length_cons] at size
      split at h
      · cases h
        simp only [String.length_empty]
        omega
      · rename_i below some_below
        have nonempty : 0 < ((c :: rest).dropWhile (· != '/')).length :=
          List.length_pos_iff.mpr some_below
        split at h <;> cases h
        · simp only [show "/".length = 1 from rfl]
          omega
        · simp only [String.length_ofList, List.length_reverse]
          omega

/-- A path and the directories that it lies in, the innermost first, up to the root or to the
current directory. -/
def ancestors (path : String) : List String :=
  match h : parent? path with
  | none => []
  | some up =>
    have : up.length < path.length := length_lt_of_parent? h
    path :: ancestors up
termination_by path.length

/-- A name without its extension: what stands before its last dot, unless the dot is its first
character. -/
def stem (name : List Char) : List Char :=
  match name.reverse.dropWhile (· != '.') with
  | [] => name
  | ['.'] => name
  | _ :: before => before.reverse

/-- The path with another extension, or with one added when its last name has none. -/
def withExtension (path extension : String) : String :=
  let chars := settled path.toList.reverse
  let name := (chars.takeWhile (· != '/')).reverse
  if name = [] ∨ name = ['.'] ∨ name = ['.', '.'] then path
  else
    let directory := (chars.dropWhile (· != '/')).reverse
    String.ofList (directory ++ stem name) ++ "." ++ extension

def cut : List Char → List (List Char)
  | [] => [[]]
  | '/' :: rest => [] :: cut rest
  | c :: rest => match cut rest with
    | [] => [[c]]
    | name :: names => (c :: name) :: names

/-- A step along a path. -/
inductive Step where
  /-- To the same directory, by a single dot. -/
  | stay
  /-- To the directory above, by two dots. -/
  | up
  /-- To what has this name. -/
  | enter (name : String)
  deriving DecidableEq, Repr

def Step.ofChars (name : List Char) : Step :=
  if name = ['.'] then .stay
  else if name = ['.', '.'] then .up
  else .enter (String.ofList name)

def steps (path : String) : List Step :=
  ((cut path.toList).filter (· ≠ [])).map Step.ofChars

/-- Whether a path starts at the root. -/
def isAbsolute (path : String) : Bool :=
  path.toList.head? = some '/'

/-- Whether a path ends in a separator, so that it can lead to a directory only. -/
def asksDirectory (path : String) : Bool :=
  path.toList.getLast? = some '/'

/-- A path below a directory; an absolute path stays as it is. -/
def below (directory path : String) : String :=
  if isAbsolute path then path else directory ++ "/" ++ path

end Reconciler.Path
