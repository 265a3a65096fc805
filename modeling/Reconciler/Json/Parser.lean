import Reconciler.Json.Token

/-!
# Reading JSON texts

The value of a list of tokens, found by a machine with a stack of open arrays and objects.
The machine takes one token at a time, so a reading can be cut at any token. The form of a
text is judged strictly: exactly one value, no trailing comma, names before values.
-/

set_option autoImplicit false

namespace Reconciler.Json

/-- An array or object that is still open. -/
inductive Frame where
  /-- An array with its items so far, the newest first. -/
  | array (items : List Json)
  /-- An object with its members so far, the newest first. -/
  | object (members : List (Option String × Json))
  /-- An object that waits for the value of the named member. -/
  | member (members : List (Option String × Json)) (name : Option String)

/-- What may come next. -/
inductive Expected where
  | value
  /-- An item, or the end of an array that has none. -/
  | itemOrClose
  /-- A name, or the end of an object that has no member. -/
  | nameOrClose
  | name
  | colon
  /-- A comma, or the end of the innermost array or object. -/
  | commaOrClose
  /-- Nothing: the value of the text is complete. -/
  | nothing (result : Json)

/-- A text read so far. -/
structure Reading where
  frames : List Frame
  expected : Expected

/-- The deepest level at which an array or object is still readable. -/
def deepest : Nat := 127

namespace Reading

/-- The reading before the first token. -/
def start : Reading := ⟨[], .value⟩

/-- Puts a complete value where the innermost open array or object waits for it. -/
def complete (value : Json) : List Frame → Option Reading
  | [] => some ⟨[], .nothing value⟩
  | .array items :: frames => some ⟨.array (value :: items) :: frames, .commaOrClose⟩
  | .member members name :: frames =>
    some ⟨.object ((name, value) :: members) :: frames, .commaOrClose⟩
  | .object _ :: _ => none

/-- Whether there are fewer open arrays and objects than levels. Only the innermost ones need to
be counted. -/
def hasRoom (frames : List Frame) : Bool :=
  (frames.take deepest).length < deepest

/-- Puts a closed array or object in its place; below the deepest level it is unreadable. -/
def close (value : Json) (frames : List Frame) : Option Reading :=
  complete (if hasRoom frames then value else .unreadable) frames

/-- The object with these members, given newest first; unreadable names spoil it. -/
def objectOf (members : List (Option String × Json)) : Json :=
  match members.reverse.mapM fun member => member.1.map (·, member.2) with
  | some named => .obj named
  | none => .unreadable

def openValue (frames : List Frame) : Token → Option Reading
  | .openArray => some ⟨.array [] :: frames, .itemOrClose⟩
  | .openObject => some ⟨.object [] :: frames, .nameOrClose⟩
  | .text (some value) => complete (.str value) frames
  | .text none => complete .unreadable frames
  | .scalar value => complete value frames
  | _ => none

def next (reading : Reading) (token : Token) : Option Reading :=
  match reading.expected, reading.frames, token with
  | .value, frames, token => openValue frames token
  | .itemOrClose, .array items :: frames, .closeArray => close (.arr items.reverse) frames
  | .itemOrClose, frames, token => openValue frames token
  | .nameOrClose, .object members :: frames, .closeObject => close (objectOf members) frames
  | .nameOrClose, .object members :: frames, .text name =>
    some ⟨.member members name :: frames, .colon⟩
  | .name, .object members :: frames, .text name =>
    some ⟨.member members name :: frames, .colon⟩
  | .colon, frames, .colon => some ⟨frames, .value⟩
  | .commaOrClose, .array items :: frames, .comma => some ⟨.array items :: frames, .value⟩
  | .commaOrClose, .array items :: frames, .closeArray => close (.arr items.reverse) frames
  | .commaOrClose, .object members :: frames, .comma =>
    some ⟨.object members :: frames, .name⟩
  | .commaOrClose, .object members :: frames, .closeObject => close (objectOf members) frames
  | _, _, _ => none

def advance : Reading → List Token → Option Reading
  | reading, [] => some reading
  | reading, token :: rest => (reading.next token).bind fun reached => advance reached rest

def finish (reading : Reading) : Option Json :=
  match reading.expected with
  | .nothing result => some result
  | _ => none

end Reading

def ofTokens? (tokens : List Token) : Option Json :=
  (Reading.start.advance tokens).bind Reading.finish

/-- The value of a JSON text; none when the text breaks the format. -/
def parse? (text : String) : Option Json :=
  (tokenize? text.toList).bind ofTokens?

end Reconciler.Json
