import AccessGateway.Yaml.Cursor
import AccessGateway.Yaml.Scalar

/-!
# `AccessGateway.Yaml.Word`: the extent of scalars

Where a scalar ends and which characters it has. A plain scalar goes on over lines that are
indented deeper than what it stands in; a quoted one goes on to its closing quote. The three
readers are structural on the text: each carries the place, the gap behind the last word and
the characters so far in reverse, and the gap is folded in when a further word comes.
-/

set_option autoImplicit false

namespace AccessGateway.Yaml

/-- A scalar that was read, where it ends, what follows, and whether the end was reached over a line
break. In that case a key may begin behind it. -/
structure Reading where
  content : List Char
  place : Place
  rest : List Char
  crossedLine : Bool

/-- The characters that structure a flow collection, and end a plain scalar in one. -/
def isFlowMark (c : Char) : Bool :=
  c == ',' || c == '[' || c == ']' || c == '\x7b' || c == '\x7d'

/-- Whether a colon inside of a flow collection stands before a character it cannot join. The text
is refused then. -/
def isStrayColon : List Char → Bool
  | ':' :: c :: _ => isFlowMark c || c == '?'
  | _ => false

/-- Whether a plain scalar ends before these characters: at a colon with a blank behind it, and in a
flow collection at its marks. -/
def endsPlain (inFlow : Bool) : List Char → Bool
  | ':' :: rest => startsBlank rest
  | c :: _ => inFlow && isFlowMark c
  | [] => true

/-- Whether a plain scalar ends at a word that follows a gap: outside of flow collections for
want of indentation, before the mark of a document, and before a comment. -/
def endsAfterGap (inFlow : Bool) (indent : Nat) (place : Place) (gap : Gap) (text : List Char) :
    Bool :=
  gap != .none &&
    ((gap.isBroken && !inFlow && place.column < indent) ||
      (place.column = 0 && startsMark text) || text.head? == some '#')

/-- Reads a plain scalar on, from the words read so far in reverse and the gap behind them. In
block context its further lines have at least `indent` columns before them. -/
def plain (inFlow : Bool) (indent : Nat) :
    Place → Gap → List Char → List Char → Option Reading
  | place, gap, read, [] => some ⟨read.reverse, place, [], gap.isBroken⟩
  | place, gap, read, c :: rest =>
    if isBlank c then
      if gap.isBroken && c == '\t' && place.column < indent then none
      else plain inFlow indent (place.along 1) (gap.addBlank c) read rest
    else if isBreak c then plain inFlow indent place.nextLine (gap.addBreak c) read rest
    else if endsAfterGap inFlow indent place gap (c :: rest) then
      some ⟨read.reverse, place, c :: rest, gap.isBroken⟩
    else if inFlow && isStrayColon (c :: rest) then none
    else if endsPlain inFlow (c :: rest) then
      some ⟨read.reverse, place, c :: rest, gap.isBroken⟩
    else plain inFlow indent (place.along 1) .none (c :: gap.onto read) rest

/-- Reads a scalar on up to its closing single quote; a quote inside is written twice. Nothing else
is an escape. -/
def singleQuoted : Place → Gap → List Char → List Char → Option Reading
  | _, _, _, [] => none
  | place, gap, read, '\'' :: '\'' :: rest =>
    singleQuoted (place.along 2) .none ('\'' :: gap.onto read) rest
  | place, gap, read, c :: rest =>
    if isBlank c then singleQuoted (place.along 1) (gap.addBlank c) read rest
    else if isBreak c then singleQuoted place.nextLine (gap.addBreak c) read rest
    else if place.column = 0 && startsMark (c :: rest) then none
    else if c == '\'' then some ⟨(gap.onto read).reverse, place.along 1, rest, false⟩
    else singleQuoted (place.along 1) .none (c :: gap.onto read) rest

/-- The character that an escape of one letter stands for. Some stand for breaks and blanks that
could not be written plainly. -/
def shortEscape? : Char → Option Char
  | '0' => some '\x00'
  | 'a' => some '\x07'
  | 'b' => some '\x08'
  | 't' | '\t' => some '\t'
  | 'n' => some '\n'
  | 'v' => some '\x0b'
  | 'f' => some '\x0c'
  | 'r' => some '\r'
  | 'e' => some '\x1b'
  | ' ' => some ' '
  | '"' => some '"'
  | '/' => some '/'
  | '\\' => some '\\'
  | 'N' => some '\u0085'
  | '_' => some '\u00a0'
  | 'L' => some '\u2028'
  | 'P' => some '\u2029'
  | _ => none

/-- The character of a code, if there is one: halves of surrogate pairs have none. -/
def charOfCode? (code : Nat) : Option Char :=
  if h : code.isValidChar then some (Char.ofNatAux code h) else none

/-- How many hexadecimal digits follow an escape letter; other letters have none. -/
def codeLength : Char → Nat
  | 'x' => 2
  | 'u' => 4
  | 'U' => 8
  | _ => 0

/-- What the reader of a double-quoted scalar is inside of: the text, an escape, or the digits of an
escape, of which some are still to come. -/
inductive Inside where
  | text
  | escape
  | code (left value : Nat)

/-- Reads a scalar on up to its closing double quote. An escaped line break joins the lines without
a space. -/
def doubleQuoted : Inside → Place → Gap → List Char → List Char → Option Reading
  | _, _, _, _, [] => none
  | .text, place, gap, read, c :: rest =>
    if isBlank c then doubleQuoted .text (place.along 1) (gap.addBlank c) read rest
    else if isBreak c then doubleQuoted .text place.nextLine (gap.addBreak c) read rest
    else if place.column = 0 && startsMark (c :: rest) then none
    else if c == '"' then some ⟨(gap.onto read).reverse, place.along 1, rest, false⟩
    else if c == '\\' then doubleQuoted .escape (place.along 1) .none (gap.onto read) rest
    else doubleQuoted .text (place.along 1) .none (c :: gap.onto read) rest
  | .escape, place, gap, read, c :: rest =>
    if isBreak c then doubleQuoted .text place.nextLine (.breaks none []) read rest
    else if codeLength c > 0 then
      doubleQuoted (.code (codeLength c) 0) (place.along 1) gap read rest
    else
      match shortEscape? c with
      | some escaped => doubleQuoted .text (place.along 1) gap (escaped :: read) rest
      | none => none
  | .code left value, place, gap, read, c :: rest =>
    match Text.hexValue? c with
    | none => none
    | some d =>
      if left > 1 then
        doubleQuoted (.code (left - 1) (value * 16 + d)) (place.along 1) gap read rest
      else
        match charOfCode? (value * 16 + d) with
        | some escaped => doubleQuoted .text (place.along 1) gap (escaped :: read) rest
        | none => none

end AccessGateway.Yaml
