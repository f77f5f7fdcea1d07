import AccessGateway.Json.Token

/-!
# `AccessGateway.Json.Reader`: values from lexemes

`Json.read?` assembles a value from the lexemes of its text. The open arrays and objects form
a stack of `Frame`s, one lexeme is one step, and values may nest at most 127 deep. The reading
of a text is then a fold of `Construction.step` over its lexemes, and a statement about the
reader is a statement about one step and an induction on the lexemes.

A comma must be followed by an item and an empty array or object has none, so what may come
next depends on more than the innermost frame: `Stage` records it. Members keep the order and
the repetitions of the text, which a reading of records needs to see.
-/

set_option autoImplicit false

namespace AccessGateway.Json

/-- An array or object that is still open; its finished parts are kept in reverse. An object is a
`member` from its key on until the value of that key is complete. -/
inductive Frame where
  | array (done : List Json)
  | members (done : List (String × Json))
  | member (done : List (String × Json)) (key : String)

/-- What may come next. The first item or key of a container is a stage of its own, since only there
may the container end at once. -/
inductive Stage where
  | value
  | firstItem
  | firstKey
  | key
  | colon
  | separator
  | finished (value : Json)

/-- A value under construction: what may come next, and what is open, innermost first. -/
structure Construction where
  stage : Stage
  frames : List Frame

namespace Construction

/-- Nothing has been read yet: a value is due and nothing is open. -/
def start : Construction := ⟨.value, []⟩

/-- How many arrays and objects may be open at once. A text that nests deeper is refused, so that no
input exhausts the stack of the program. -/
def maxDepth : Nat := 127

/-- Opens an array or object, unless as many are open as may be. -/
def push (stage : Stage) (frame : Frame) (frames : List Frame) : Option Construction :=
  if frames.length < maxDepth then some ⟨stage, frame :: frames⟩ else none

/-- Hands a finished value to the innermost open array or object, behind which a comma or its end
must follow. Without an open one the value is the whole text, and nothing may follow. -/
def deliver (value : Json) : List Frame → Option Construction
  | [] => some ⟨.finished value, []⟩
  | .array done :: frames => some ⟨.separator, .array (value :: done) :: frames⟩
  | .member done key :: frames => some ⟨.separator, .members ((key, value) :: done) :: frames⟩
  | .members _ :: _ => none

/-- Takes a lexeme where a value is due: a container is opened, and a string or atom is a value by
itself. -/
def takeValue (frames : List Frame) : Token → Option Construction
  | .arrayStart => push .firstItem (.array []) frames
  | .objectStart => push .firstKey (.members []) frames
  | .text content => deliver (.str content) frames
  | .atom value => deliver value frames
  | _ => none

/-- Takes a lexeme where a key is due, which must be a string. -/
def takeKey : List Frame → Token → Option Construction
  | .members done :: frames, .text key => some ⟨.colon, .member done key :: frames⟩
  | _, _ => none

/-- Takes one lexeme. The cases are the stages; what fits none of them is refused, and so is
anything behind a complete value. -/
def step (c : Construction) (token : Token) : Option Construction :=
  match c.stage, c.frames, token with
  | .value, frames, token => takeValue frames token
  | .firstItem, .array done :: frames, .arrayEnd => deliver (.arr done.reverse) frames
  | .firstItem, frames, token => takeValue frames token
  | .firstKey, .members done :: frames, .objectEnd => deliver (.obj done.reverse) frames
  | .firstKey, frames, token => takeKey frames token
  | .key, frames, token => takeKey frames token
  | .colon, frames, .colon => some ⟨.value, frames⟩
  | .separator, .array done :: frames, .comma => some ⟨.value, .array done :: frames⟩
  | .separator, .array done :: frames, .arrayEnd => deliver (.arr done.reverse) frames
  | .separator, .members done :: frames, .comma => some ⟨.key, .members done :: frames⟩
  | .separator, .members done :: frames, .objectEnd => deliver (.obj done.reverse) frames
  | _, _, _ => none

/-- The value, once it is complete. A text that ends earlier is refused. -/
def result? (c : Construction) : Option Json :=
  match c.stage with
  | .finished value => some value
  | _ => none

end Construction

/-- Reads a text as one value with nothing but blanks around it. The lexemes of the whole text are
cut before the first is taken, so an error of either kind is the same refusal. -/
def read? (text : List Char) : Option Json := do
  let tokens ← lex .between text
  (← tokens.foldlM Construction.step Construction.start).result?

/-- Reads a text as a value whose objects are in key order, the last of two equal keys kept. -/
def readOrdered? (text : String) : Option Json := (read? text.toList).map ordered

end AccessGateway.Json
