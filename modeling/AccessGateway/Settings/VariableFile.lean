import AccessGateway.Settings.Environment

/-!
# `AccessGateway.Settings.VariableFile`: files of variables

A file of variables has lines `NAME=value`, with comments after `#`. Values may be quoted, may
then go over several lines, and may refer to variables by `$NAME`. Variables that are already
set are left alone. A faulty line ends the reading of a file; the lines before it count.

Lines are made first and read then. To make them it has to be known whether a line ends inside of
quotes, and `Inside` is the state of the automaton that goes over the characters for this. Whoever
reads the value of a line keeps a state of its own (`Part`), since names of variables are read on
the way. The two passes know nothing of each other.
-/

set_option autoImplicit false

namespace AccessGateway.VariableFile

/-! ### Lines -/

/-- What the end of a piece of text is inside of. A comment begins only behind a blank. -/
inductive Inside where
  | plain
  | blank
  | escape
  | single
  | singleEscape
  | double
  | doubleEscape
  deriving DecidableEq, Repr

/-- What a character outside of quotes leads into. -/
def Inside.after (c : Char) : Inside :=
  if c == '\\' then .escape
  else if c == '"' then .double
  else if c == '\'' then .single
  else .plain

/-- What a character leads into. A backslash takes the meaning from the character behind it, in
quotes of both kinds. -/
def Inside.next (c : Char) : Inside → Inside
  | .plain => if Text.isBlank c && c != '\n' && c != '\r' then .blank else .after c
  | .blank => .after c
  | .escape => .plain
  | .single => if c == '\\' then .singleEscape else if c == '\'' then .plain else .single
  | .singleEscape => .single
  | .double => if c == '\\' then .doubleEscape else if c == '"' then .plain else .double
  | .doubleEscape => .double

/-- What the end of a line is inside of, or how many characters come before a comment in it. -/
def lineEnd : Inside → Nat → List Char → Inside ⊕ Nat
  | inside, _, [] => .inl inside
  | inside, count, c :: rest =>
    if inside == .blank && c == '#' then .inr count else lineEnd (inside.next c) (count + 1) rest

/-- The lines of a text, each with its line feed. A last line without one is a line too. -/
def splitLines : List Char → List (List Char)
  | [] => []
  | c :: rest =>
    if c == '\n' then [c] :: splitLines rest
    else match splitLines rest with
      | [] => [[c]]
      | line :: lines => (c :: line) :: lines

/-- A line without its line feed, and without the carriage return in front of that. -/
def chomp (line : List Char) : List Char :=
  match Text.dropEnd? ['\n'] line with
  | some line => (Text.dropEnd? ['\r'] line).getD line
  | none => line

/-- Joins the lines over which a quoted value goes, from the text before them and what its end is
inside of; nothing stands for a value that is still open at the end of the text. -/
def joinLines : List Char → Inside → List (List Char) → List (Option (List Char))
  | _, inside, [] => if inside == .plain then [] else [none]
  | before, inside, line :: rest =>
    let joined := before ++ line
    if (Text.trimStart joined).head? == some '#' then joinLines [] .plain rest
    else
      match lineEnd inside 0 line with
      | .inl .plain => some (chomp joined) :: joinLines [] .plain rest
      | .inr count => some (before ++ line.take count) :: joinLines [] .plain rest
      | .inl inside => joinLines joined inside rest

/-! ### Entries -/

/-- What the reader of a value is inside of. Whether it is between double quotes is kept beside
it. -/
inductive Part where
  | text
  | escape
  | single
  | name (read : List Char)
  | braced (read : List Char)
  | ended

/-- Reads a value on, inside of double quotes or not, from the characters so far in reverse.
`find` gives the values of variables. -/
def readValue (find : String → String) :
    (quoted : Bool) → Part → List Char → List Char → Option (List Char)
  | quoted, part, read, [] =>
    match quoted, part with
    | true, _ | _, .single | _, .braced _ => none
    | _, .name name => some (read.reverse ++ (find (String.ofList name.reverse)).toList)
    | _, _ => some read.reverse
  | quoted, .ended, read, c :: rest =>
    if c == ' ' || c == '\t' then readValue find quoted .ended read rest
    else if c == '#' then some read.reverse
    else none
  | quoted, .escape, read, c :: rest =>
    if "\\'\"$ ".contains c then readValue find quoted .text (c :: read) rest
    else if c == 'n' then readValue find quoted .text ('\n' :: read) rest
    else none
  | quoted, .single, read, c :: rest =>
    if c == '\'' then readValue find quoted .text read rest
    else readValue find quoted .single (c :: read) rest
  | quoted, .name name, read, c :: rest =>
    if c.isAlphanum then readValue find quoted (.name (c :: name)) read rest
    else if c == '\x7b' && name.isEmpty then readValue find quoted (.braced []) read rest
    else
      let read := (find (String.ofList name.reverse)).toList.reverse ++ read
      if c == '$' then readValue find quoted (.name []) read rest
      else readValue find quoted .text (c :: read) rest
  | quoted, .braced name, read, c :: rest =>
    if c == '\x7d' then
      readValue find quoted .text ((find (String.ofList name.reverse)).toList.reverse ++ read) rest
    else readValue find quoted (.braced (c :: name)) read rest
  | quoted, .text, read, c :: rest =>
    if c == '$' then readValue find quoted (.name []) read rest
    else if c == '"' then readValue find (!quoted) .text read rest
    else if c == '\\' then readValue find quoted .escape read rest
    else if quoted then readValue find quoted .text (c :: read) rest
    else if c == '\'' then readValue find quoted .single read rest
    else if c == ' ' || c == '\t' then readValue find quoted .ended read rest
    else readValue find quoted .text (c :: read) rest

/-- A name at the start of a text, and what follows. A name begins with a letter or an
underscore. -/
def name? (text : List Char) : Option (List Char × List Char) :=
  match text with
  | c :: _ =>
    if c.isAlpha || c == '_' then
      let isNameChar (c : Char) : Bool := c.isAlphanum || c == '_' || c == '.'
      some (text.takeWhile isNameChar, text.dropWhile isNameChar)
    else none
  | [] => none

/-- What follows an equals sign. -/
def afterEquals? : List Char → Option (List Char)
  | '=' :: rest => some rest
  | _ => none

/-- The name that a line sets and the text of its value; the word `export` may stand before. -/
def assignment? (line : List Char) : Option (List Char × List Char) := do
  let (name, rest) ← name? line
  match afterEquals? (Text.trimStart rest) with
  | some value => return (name, Text.trimStart value)
  | none =>
    guard (name == "export".toList)
    let (name, rest) ← name? (Text.trimStart rest)
    return (name, Text.trimStart (← afterEquals? (Text.trimStart rest)))

/-- What the lines of a file have set so far: all variables, and those that the file gave a
value, the last one first. -/
structure State where
  env : Environment
  given : List (String × String)

/-- The value of a variable that a value refers to: that of the process, or else the one that the
file gave; nothing if there is neither. -/
def State.find (s : State) (name : String) : String :=
  ((s.env.value? name).orElse fun _ => s.given.lookup name).getD ""

/-- Whether nothing stands here but a comment. As a value this is the empty text. -/
def isVoid (text : List Char) : Bool := text.isEmpty || text.head? == some '#'

/-- Takes one line. A variable that is set keeps its value, but the file may still refer to what the
line gave it. -/
def State.take (s : State) (line : List Char) : Option State :=
  let line := Text.trim line
  if isVoid line then some s
  else do
    let (name, text) ← assignment? line
    let value ← if isVoid text then some [] else readValue s.find false .text [] text
    let name := String.ofList name
    let value := String.ofList value
    return ⟨s.env.setAbsent name value, (name, value) :: s.given⟩

/-- Takes lines up to a faulty one. A value that is still open at the end of the text is a faulty
line. -/
def State.takeAll : State → List (Option (List Char)) → State
  | s, some line :: rest =>
    match s.take line with
    | some s => s.takeAll rest
    | none => s
  | s, _ => s

/-- The characters of a file without a byte order mark. -/
def unmarked (text : List Char) : List Char :=
  match text with
  | '\ufeff' :: rest => rest
  | text => text

/-- The variables of a process after it has read a file of them. -/
def readInto (env : Environment) (content : String) : Environment :=
  let lines := joinLines [] .plain (splitLines (unmarked content.toList))
  (State.takeAll ⟨env, []⟩ lines).env

end AccessGateway.VariableFile
