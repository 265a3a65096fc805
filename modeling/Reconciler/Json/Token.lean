import Reconciler.Json.Number

/-!
# JSON tokens

The words of a JSON text: brackets, commas, colons, strings and the other scalars. A text is
cut into tokens one character at a time, so cutting a text in two places is the same as
cutting it in one.
-/

set_option autoImplicit false

namespace Reconciler.Json

/-- A word of a JSON text. -/
inductive Token where
  | openArray
  | closeArray
  | openObject
  | closeObject
  | comma
  | colon
  /-- A string; nothing when it is unreadable. -/
  | text (value : Option String)
  /-- A number or one of the words `null`, `true` and `false`. -/
  | scalar (value : Json)
  deriving BEq, Repr, Inhabited

/-- A part of a string under reading: a character or half of a surrogate pair. -/
inductive TextPart where
  | char (c : Char)
  | half (unit : Nat)
  deriving DecidableEq, Repr

/-- Joins the parts of a string, which fails on a half without its other half. -/
def TextPart.join : List TextPart → Option (List Char)
  | [] => some []
  | .char c :: rest => (join rest).map (c :: ·)
  | .half high :: .half low :: rest =>
    if high < 0xdc00 ∧ 0xdc00 ≤ low then
      (join rest).map (Char.ofNat (0x10000 + (high - 0xd800) * 0x400 + (low - 0xdc00)) :: ·)
    else none
  | .half _ :: _ => none

/-- The part that a code unit written in hexadecimal stands for. -/
def TextPart.ofUnit (unit : Nat) : TextPart :=
  if 0xd800 ≤ unit ∧ unit < 0xe000 then .half unit else .char (Char.ofNat unit)

/-- Where the cutting of a text stands between two characters. -/
inductive Place where
  /-- Between two tokens. -/
  | blank
  /-- In a number or word, with its characters so far, the newest first. -/
  | word (seen : List Char)
  /-- In a string, with its parts so far, the newest first. -/
  | text (seen : List TextPart)
  /-- After a backslash in a string. -/
  | escape (seen : List TextPart)
  /-- In a code unit with this many hexadecimal digits to come. -/
  | hex (left : Nat) (unit : Nat) (seen : List TextPart)
  deriving DecidableEq, Repr

/-- A text cut so far: the tokens, the newest first, and the place reached. -/
structure Cut where
  tokens : List Token
  place : Place

def isSpace (c : Char) : Bool :=
  c == ' ' || c == '\n' || c == '\t' || c == '\r'

def isWordChar (c : Char) : Bool :=
  c.isAlphanum || c == '-' || c == '+' || c == '.'

/-- The value of a number or word. -/
def ofWord? (chars : List Char) : Option Json :=
  if chars = ['n', 'u', 'l', 'l'] then some .null
  else if chars = ['t', 'r', 'u', 'e'] then some (.bool true)
  else if chars = ['f', 'a', 'l', 's', 'e'] then some (.bool false)
  else ofNumber? chars

/-- The token that a character outside strings and words stands for. -/
def Token.ofMark? (c : Char) : Option Token :=
  if c = '[' then some .openArray
  else if c = ']' then some .closeArray
  else if c = '{' then some .openObject
  else if c = '}' then some .closeObject
  else if c = ',' then some .comma
  else if c = ':' then some .colon
  else none

/-- The character that a backslash with this letter stands for. -/
def escaped? (c : Char) : Option Char :=
  if c = '"' ∨ c = '\\' ∨ c = '/' then some c
  else if c = 'b' then some '\x08'
  else if c = 'f' then some '\x0c'
  else if c = 'n' then some '\n'
  else if c = 'r' then some '\r'
  else if c = 't' then some '\t'
  else none

/-- The value of a hexadecimal digit in either case. -/
def hexDigit? (c : Char) : Option Nat :=
  if c.isDigit then some (c.toNat - '0'.toNat)
  else if 'a' ≤ c ∧ c ≤ 'f' then some (c.toNat - 'a'.toNat + 10)
  else if 'A' ≤ c ∧ c ≤ 'F' then some (c.toNat - 'A'.toNat + 10)
  else none

namespace Cut

/-- The cut before the first character. -/
def start : Cut := ⟨[], .blank⟩

def between (tokens : List Token) (c : Char) : Option Cut :=
  if isSpace c then some ⟨tokens, .blank⟩
  else if c = '"' then some ⟨tokens, .text []⟩
  else if isWordChar c then some ⟨tokens, .word [c]⟩
  else (Token.ofMark? c).map fun token => ⟨token :: tokens, .blank⟩

/-- Ends a word, if the place is in one. -/
def settle (cut : Cut) : Option Cut :=
  match cut.place with
  | .word seen => (ofWord? seen.reverse).map fun value => ⟨.scalar value :: cut.tokens, .blank⟩
  | _ => some cut

def next (cut : Cut) (c : Char) : Option Cut :=
  match cut.place with
  | .blank => between cut.tokens c
  | .word seen =>
    if isWordChar c then some ⟨cut.tokens, .word (c :: seen)⟩
    else cut.settle.bind fun settled => between settled.tokens c
  | .text seen =>
    if c = '"' then
      some ⟨.text ((TextPart.join seen.reverse).map String.ofList) :: cut.tokens, .blank⟩
    else if c = '\\' then some ⟨cut.tokens, .escape seen⟩
    else if c.toNat < 0x20 then none
    else some ⟨cut.tokens, .text (.char c :: seen)⟩
  | .escape seen =>
    if c = 'u' then some ⟨cut.tokens, .hex 4 0 seen⟩
    else (escaped? c).map fun char => ⟨cut.tokens, .text (.char char :: seen)⟩
  | .hex left unit seen =>
    (hexDigit? c).map fun digit =>
      if left ≤ 1 then ⟨cut.tokens, .text (TextPart.ofUnit (unit * 16 + digit) :: seen)⟩
      else ⟨cut.tokens, .hex (left - 1) (unit * 16 + digit) seen⟩

def advance : Cut → List Char → Option Cut
  | cut, [] => some cut
  | cut, c :: rest => (cut.next c).bind fun reached => advance reached rest

/-- The tokens of a text that ends here, in order. -/
def finish (cut : Cut) : Option (List Token) :=
  cut.settle.bind fun settled =>
    match settled.place with
    | .blank => some settled.tokens.reverse
    | _ => none

/-- Reading two lists in a row is reading them as one. -/
theorem advance_append (cut : Cut) (front back : List Char) :
    cut.advance (front ++ back) = (cut.advance front).bind fun mid => mid.advance back := by
  induction front generalizing cut with
  | nil => rfl
  | cons c rest ih =>
    simp only [List.cons_append, advance]
    cases cut.next c with
    | none => rfl
    | some reached => simp [ih]

end Cut

/-- The tokens of a text; none when some character fits nowhere. -/
def tokenize? (chars : List Char) : Option (List Token) :=
  (Cut.start.advance chars).bind Cut.finish

end Reconciler.Json
