import Reconciler.Json.Parser

/-!
# Writing JSON texts

Two ways to write a value: on one line, and spread over lines with two blanks for each level.
Both write the tokens of the value in the same order; the spread form adds white space only,
and leaves none in an empty array or object.
-/

set_option autoImplicit false

namespace Reconciler.Json

/-- A character of a string as it is written between quotes. -/
def escapeChar (c : Char) : List Char :=
  if c = '"' then ['\\', '"']
  else if c = '\\' then ['\\', '\\']
  else if c = '\x08' then ['\\', 'b']
  else if c = '\x0c' then ['\\', 'f']
  else if c = '\n' then ['\\', 'n']
  else if c = '\r' then ['\\', 'r']
  else if c = '\t' then ['\\', 't']
  else if c.toNat < 0x20 then
    ['\\', 'u', '0', '0', Nat.digitChar (c.toNat / 16), Nat.digitChar (c.toNat % 16)]
  else [c]

def textChars (value : String) : List Char :=
  '"' :: value.toList.flatMap escapeChar ++ ['"']

/-- A value that is neither an array nor an object, as written. -/
def scalarChars : Json → List Char
  | .bool true => ['t', 'r', 'u', 'e']
  | .bool false => ['f', 'a', 'l', 's', 'e']
  | .int value => intChars value
  | .real literal => literal.toList
  | .str value => textChars value
  | _ => ['n', 'u', 'l', 'l']

mutual

def tokens : Json → List Token
  | .arr items => .openArray :: itemTokens items ++ [.closeArray]
  | .obj members => .openObject :: memberTokens members ++ [.closeObject]
  | .str value => [.text (some value)]
  | .unreadable => [.text none]
  | scalar => [.scalar scalar]
termination_by structural json => json

def itemTokens : List Json → List Token
  | [] => []
  | item :: rest => tokens item ++ moreItemTokens rest
termination_by structural items => items

/-- The tokens of the items after the first. -/
def moreItemTokens : List Json → List Token
  | [] => []
  | item :: rest => .comma :: tokens item ++ moreItemTokens rest
termination_by structural items => items

def memberTokens : List (String × Json) → List Token
  | [] => []
  | (name, value) :: rest =>
    .text (some name) :: .colon :: tokens value ++ moreMemberTokens rest
termination_by structural members => members

/-- The tokens of the members after the first. -/
def moreMemberTokens : List (String × Json) → List Token
  | [] => []
  | (name, value) :: rest =>
    .comma :: .text (some name) :: .colon :: tokens value ++ moreMemberTokens rest
termination_by structural members => members

end

def lineBreak (level : Nat) : List Char :=
  '\n' :: List.replicate (2 * level) ' '

mutual

/-- A value spread over lines, inside the given level. -/
def spread (level : Nat) : Json → List Char
  | .arr [] => ['[', ']']
  | .arr (item :: rest) =>
    '[' :: lineBreak (level + 1) ++ spread (level + 1) item ++ spreadItems (level + 1) rest ++
      lineBreak level ++ [']']
  | .obj [] => ['{', '}']
  | .obj ((name, value) :: rest) =>
    '{' :: lineBreak (level + 1) ++ textChars name ++ [':', ' '] ++ spread (level + 1) value ++
      spreadMembers (level + 1) rest ++ lineBreak level ++ ['}']
  | scalar => scalarChars scalar
termination_by structural json => json

/-- The items after the first, each on a line of its own. -/
def spreadItems (level : Nat) : List Json → List Char
  | [] => []
  | item :: rest => ',' :: lineBreak level ++ spread level item ++ spreadItems level rest
termination_by structural items => items

/-- The members after the first, each on a line of its own. -/
def spreadMembers (level : Nat) : List (String × Json) → List Char
  | [] => []
  | (name, value) :: rest =>
    ',' :: lineBreak level ++ textChars name ++ [':', ' '] ++ spread level value ++
      spreadMembers level rest
termination_by structural members => members

end

mutual

def compactChars : Json → List Char
  | .arr [] => ['[', ']']
  | .arr (item :: rest) => '[' :: compactChars item ++ compactItems rest ++ [']']
  | .obj [] => ['{', '}']
  | .obj ((name, value) :: rest) =>
    '{' :: textChars name ++ ':' :: compactChars value ++ compactMembers rest ++ ['}']
  | scalar => scalarChars scalar
termination_by structural json => json

/-- The items after the first, each after a comma. -/
def compactItems : List Json → List Char
  | [] => []
  | item :: rest => ',' :: compactChars item ++ compactItems rest
termination_by structural items => items

/-- The members after the first, each after a comma. -/
def compactMembers : List (String × Json) → List Char
  | [] => []
  | (name, value) :: rest =>
    ',' :: textChars name ++ ':' :: compactChars value ++ compactMembers rest
termination_by structural members => members

end

def pretty (json : Json) : String :=
  String.ofList (spread 0 json)

def compact (json : Json) : String :=
  String.ofList (compactChars json)

end Reconciler.Json
