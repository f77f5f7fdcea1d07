import AccessGateway.Json.Value
import AccessGateway.Text.Blank
import AccessGateway.Text.Decimal
import AccessGateway.Text.Hexadecimal
import AccessGateway.Text.Numeral

/-!
# `AccessGateway.Settings.Inline`: values of variables

The value of a variable is a text, but settings are typed. `Inline.read` takes it for a truth
value, a number, a quoted text, a list in brackets or a group in braces if all of it has that
form, and for the plain text otherwise.

The grammar is read from left to right, each function giving the value that it found and the text
behind it. Values, items and members call each other, so they are given fuel. Each call passes on
less fuel than it has, and each pair of calls goes over a character at least. `Inline.read` gives
three times as much as there are characters, which is more than a text can use up.
-/

set_option autoImplicit false

namespace AccessGateway.Inline

/-- The characters that end an unquoted value. Blanks do not, so a value may be of several words. -/
def isMark (c : Char) : Bool :=
  c == ',' || c == '[' || c == ']' || c == '\x7b' || c == '\x7d'

/-- The characters of an unquoted key. A dot is none of them. -/
def isKeyChar (c : Char) : Bool := c.isAlphanum || c == '_' || c == '-'

/-- Goes over blanks. -/
def skip (text : List Char) : List Char := text.dropWhile Text.isAsciiBlank

/-- The number of an unquoted value, or its text. A number with a dot in it is read as a decimal,
and a whole one has to be a word. -/
def plainValue (text : List Char) : Json :=
  match (if text.contains '.' then Text.decimal? text else none) with
  | some (m, e) => .decimal m e
  | none =>
    match Text.Numeral.readNat Text.Numeral.maxWord text with
    | .ok n => .num n
    | .error _ =>
      match Text.Numeral.readInt text with
      | .ok n => .num n
      | .error _ => .str (String.ofList text)

/-- The inside of a quoted text up to its closing quote, and what follows. A quote behind a
backslash does not close it. -/
def cutQuoted : (escaped : Bool) → (read : List Char) → List Char →
    Option (List Char × List Char)
  | _, _, [] => none
  | true, read, c :: rest => cutQuoted false (c :: read) rest
  | false, read, c :: rest =>
    if c == '"' then some (read.reverse, rest) else cutQuoted (c == '\\') (c :: read) rest

/-- The character of hexadecimal digits, if there is one. -/
def charOfDigits? (digits : List Char) : Option Char := do
  let code ← Text.hexNumber? digits
  if h : code.isValidChar then some (Char.ofNatAux code h) else none

/-- The characters that the inside of a quoted text stands for. A backslash in front of any other
character than these makes the text none. -/
def unescape : List Char → Option (List Char)
  | [] => some []
  | '\\' :: 'u' :: a :: b :: c :: d :: rest => do
    return (← charOfDigits? [a, b, c, d]) :: (← unescape rest)
  | '\\' :: 'U' :: a :: b :: c :: d :: e :: f :: g :: h :: rest => do
    return (← charOfDigits? [a, b, c, d, e, f, g, h]) :: (← unescape rest)
  | '\\' :: c :: rest => do
    let escaped ← [('"', '"'), ('\\', '\\'), ('/', '/'), ('b', '\x08'), ('f', '\x0c'),
      ('n', '\n'), ('r', '\r'), ('t', '\t')].lookup c
    return escaped :: (← unescape rest)
  | ['\\'] => none
  | c :: rest => do return c :: (← unescape rest)

/-- A quoted text behind its opening quote, and what follows. -/
def quoted (text : List Char) : Option (String × List Char) := do
  let (inside, rest) ← cutQuoted false [] text
  return (String.ofList (← unescape inside), rest)

/-- A key, quoted or of at least one letter, digit, dash or underscore, and what follows. -/
def key : List Char → Option (String × List Char)
  | '"' :: rest => quoted rest
  | text =>
    let word := text.takeWhile isKeyChar
    if word.isEmpty then none else some (String.ofList word, text.dropWhile isKeyChar)

mutual

/-- A value with the blanks around it, and what follows. -/
def value : Nat → List Char → Option (Json × List Char)
  | 0, _ => none
  | fuel + 1, text => do
    let (value, rest) ← bareValue fuel (skip text)
    return (value, skip rest)

/-- A value that begins here, and what follows. -/
def bareValue : Nat → List Char → Option (Json × List Char)
  | 0, _ => none
  | fuel + 1, text =>
    match text with
    | 't' :: 'r' :: 'u' :: 'e' :: rest => some (.bool true, rest)
    | 'f' :: 'a' :: 'l' :: 's' :: 'e' :: rest => some (.bool false, rest)
    | '\x7b' :: rest => members fuel [] rest
    | '[' :: rest => items fuel [] rest
    | '"' :: rest => (quoted rest).map fun (content, rest) => (.str content, rest)
    | '\'' :: c :: '\'' :: rest => some (.str (String.ofList [c]), rest)
    | '\'' :: _ => none
    | text =>
      some (plainValue (Text.trim (text.takeWhile fun c => !isMark c)),
        text.dropWhile fun c => !isMark c)

/-- The items of a list behind its opening bracket, and what follows; a comma may stand behind
the last one. -/
def items : Nat → List Json → List Char → Option (Json × List Char)
  | _, done, ']' :: rest => some (.arr done.reverse, rest)
  | 0, _, _ => none
  | fuel + 1, done, text => do
    let (item, rest) ← value fuel text
    match rest with
    | ',' :: rest => items fuel (item :: done) rest
    | ']' :: rest => some (.arr (item :: done).reverse, rest)
    | _ => none

/-- The members of a group behind its opening brace, and what follows; a comma may stand behind
the last one, and of two equal keys the last counts. -/
def members : Nat → List (String × Json) → List Char → Option (Json × List Char)
  | _, done, '\x7d' :: rest => some (Json.object done.reverse, rest)
  | 0, _, _ => none
  | fuel + 1, done, text => do
    let (name, rest) ← key (skip text)
    match skip rest with
    | '=' :: rest =>
      let (member, rest) ← value fuel rest
      match rest with
      | ',' :: rest => members fuel ((name, member) :: done) rest
      | '\x7d' :: rest => some (Json.object ((name, member) :: done).reverse, rest)
      | _ => none
    | _ => none

end

/-- The value of a text. What is left behind a value makes all of it a plain text. -/
def read (text : String) : Json :=
  let chars := text.toList
  match value (3 * chars.length + 3) chars with
  | some (value, []) => value
  | _ => .str text

end AccessGateway.Inline
