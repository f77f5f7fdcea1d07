import AccessGateway.Yaml.Word

/-!
# `AccessGateway.Yaml.Token`: the lexemes of YAML text

`Yaml.lex` cuts a text into lexemes and makes its layout explicit: block collections begin and
end where the indentation says so. Whether a scalar is a key shows only at the colon behind it,
so the place of the last possible key is remembered, and the lexemes that open a key are put in
there. A key and its colon stand on one line, at most 1024 characters apart.

A `Lexer` is the state of this, and one round of `Lexer.run` passes over blanks, closes what the
new column ends, gives up keys that are too far behind, and takes one lexeme. Inside of a flow
collection layout means nothing, so no block is opened or closed there, but each has a
possible key of its own.

Directives, anchors, aliases, tags and block scalars are not read.
-/

set_option autoImplicit false

namespace AccessGateway.Yaml

/-- A lexeme of YAML text. Those that begin and end a block stand for indentation and for no
character. -/
inductive Token where
  | documentStart
  | documentEnd
  | blockSequence
  | blockMapping
  | blockEnd
  | entry
  | key
  | value
  | flowSequence
  | flowSequenceEnd
  | flowMapping
  | flowMappingEnd
  | comma
  | scalar (content : Scalar)
  deriving DecidableEq, Repr

/-- A place where a key may have begun: how many lexemes stand before it, where it is, and whether
the text is at fault if no colon follows. -/
structure PossibleKey where
  before : Nat
  place : Place
  required : Bool

/-- Where a lexer is, with what it has cut so far. -/
structure Lexer where
  place : Place
  /-- The lexemes so far, in reverse. -/
  tokens : List Token
  /-- How many lexemes there are. -/
  count : Nat
  /-- The columns of the open block collections, innermost first. -/
  indents : List Nat
  /-- The possible key of the collection that is being read. -/
  key : Option PossibleKey
  /-- The possible keys around the open flow collections, innermost first. -/
  outer : List (Option PossibleKey)
  /-- Whether a key may begin here. -/
  keyAllowed : Bool

namespace Lexer

/-- Nothing has been read yet. A key may begin at once. -/
def start : Lexer := ⟨.start, [], 0, [], none, [], true⟩

/-- Whether a flow collection is open. Each open one has an entry among the outer keys. -/
def inFlow (l : Lexer) : Bool := !l.outer.isEmpty

/-- Whether the innermost block collection is to the left of a column, or none is open. -/
def isDeeper (l : Lexer) (column : Nat) : Bool :=
  match l.indents with
  | [] => true
  | top :: _ => top < column

/-- Adds a lexeme behind all others. -/
def emit (l : Lexer) (token : Token) : Lexer :=
  { l with tokens := token :: l.tokens, count := l.count + 1 }

/-- Puts a lexeme in behind the first `before` lexemes. The list is in reverse, so the others stand
at its front. -/
def emitAt (l : Lexer) (before : Nat) (token : Token) : Lexer :=
  let after := l.count - before
  { l with
    tokens := l.tokens.take after ++ token :: l.tokens.drop after
    count := l.count + 1 }

/-- Goes a number of characters further on the line. -/
def along (l : Lexer) (count : Nat) : Lexer := { l with place := l.place.along count }

/-- Opens a block collection behind the first `before` lexemes, if none is open at the column
yet. -/
def openBlock (l : Lexer) (column before : Nat) (token : Token) : Lexer :=
  if !l.inFlow && l.isDeeper column then
    { l.emitAt before token with indents := column :: l.indents }
  else l

/-- How many block collections end when the text goes on at a column: those that begin to the right
of it. -/
def closing (column : Nat) (indents : List Nat) : Nat :=
  (indents.takeWhile fun top => column < top).length

/-- Ends the innermost block collections, each with a lexeme. -/
def closeBlocks (l : Lexer) (ended : Nat) : Lexer :=
  { l with
    tokens := List.replicate ended .blockEnd ++ l.tokens
    count := l.count + ended
    indents := l.indents.drop ended }

/-- Ends the block collections that do not reach a column; none ends inside of a flow collection. -/
def closeTo (l : Lexer) (column : Nat) : Lexer :=
  if l.inFlow then l else l.closeBlocks (closing column l.indents)

/-- Ends all block collections, as at the end of a document. -/
def closeAll (l : Lexer) : Lexer := if l.inFlow then l else l.closeBlocks l.indents.length

/-- Notes that a key may begin here. At the column of a mapping a key is required, and a required
one must not be given up for the next. -/
def noteKey (l : Lexer) : Option Lexer :=
  let required := !l.inFlow && l.indents.head? == some l.place.column
  if !l.keyAllowed then some l
  else if (l.key.map PossibleKey.required).getD false then none
  else some { l with key := some ⟨l.count, l.place, required⟩ }

/-- Gives up the possible key; it must not be a required one. -/
def dropKey (l : Lexer) : Option Lexer :=
  if (l.key.map PossibleKey.required).getD false then none else some { l with key := none }

/-- Whether a key is too far behind for a colon to follow it here: on an earlier line, or by more
than 1024 characters. -/
def isStale (place : Place) (key : PossibleKey) : Bool :=
  key.place.line < place.line || key.place.offset + 1024 < place.offset

/-- Gives up a key that is too far behind; a required one is a fault. -/
def refreshKey (place : Place) : Option PossibleKey → Option (Option PossibleKey)
  | none => some none
  | some key =>
    if !isStale place key then some (some key) else if key.required then none else some none

/-- Gives up the keys that are too far behind, in the open flow collections too. -/
def refreshKeys (l : Lexer) : Option Lexer := do
  let key ← refreshKey l.place l.key
  let outer ← l.outer.mapM' (refreshKey l.place)
  return { l with key, outer }

/-- Goes over blanks, comments and line breaks. A tab is no blank where it could be taken for the
indentation of a key. Behind a break a key may begin again. -/
def skip (inComment : Bool) : Lexer → List Char → Lexer × List Char
  | l, [] => (l, [])
  | l, c :: rest =>
    if isBreak c then
      skip false { l with place := l.place.nextLine, keyAllowed := l.keyAllowed || !l.inFlow } rest
    else if inComment then skip true (l.along 1) rest
    else if c == ' ' || (c == '\t' && (l.inFlow || !l.keyAllowed)) then skip false (l.along 1) rest
    else if c == '#' then skip true (l.along 1) rest
    else (l, c :: rest)

/-- Takes the mark of a document's start or end, which closes all blocks. -/
def takeMark (l : Lexer) (token : Token) : Option Lexer := do
  let l ← l.closeAll.dropKey
  return { l with keyAllowed := false }.emit token |>.along 3

/-- Takes the opening mark of a flow collection, which may itself be a key: the possible key is kept
for what stands around. -/
def openFlow (l : Lexer) (token : Token) : Option Lexer := do
  let l ← l.noteKey
  return { l with key := none, outer := l.key :: l.outer, keyAllowed := true }.emit token |>.along 1

/-- Takes the closing mark of a flow collection. The possible key around it counts again, so a colon
may follow. -/
def closeFlow (l : Lexer) (token : Token) : Option Lexer := do
  let l ← l.dropKey
  let inner := match l.outer with
    | key :: outer => { l with key, outer }
    | [] => l
  return { inner with keyAllowed := false }.emit token |>.along 1

/-- Takes the comma between the entries of a flow collection, behind which a key may begin. -/
def takeComma (l : Lexer) : Option Lexer := do
  let l ← l.dropKey
  return { l with keyAllowed := true }.emit .comma |>.along 1

/-- Takes the dash before an entry of a block sequence, which opens the sequence if it is the
first. -/
def takeEntry (l : Lexer) : Option Lexer := do
  guard (l.inFlow || l.keyAllowed)
  let l ← (l.openBlock l.place.column l.count .blockSequence).dropKey
  return { l with keyAllowed := true }.emit .entry |>.along 1

/-- Takes the question mark before a key, which opens the mapping if it is the first. -/
def takeKey (l : Lexer) : Option Lexer := do
  guard (l.inFlow || l.keyAllowed)
  let l ← (l.openBlock l.place.column l.count .blockMapping).dropKey
  return { l with keyAllowed := !l.inFlow }.emit .key |>.along 1

/-- Takes the colon before a value. What the possible key stands at becomes its key; without
one, the key is left out. -/
def takeValue (l : Lexer) : Option Lexer :=
  match l.key with
  | some key =>
    let l := (l.emitAt key.before .key).openBlock key.place.column key.before .blockMapping
    some ({ l with key := none, keyAllowed := false }.emit .value |>.along 1)
  | none => do
    guard (l.inFlow || l.keyAllowed)
    let l := l.openBlock l.place.column l.count .blockMapping
    return { l with keyAllowed := !l.inFlow }.emit .value |>.along 1

/-- Takes a scalar that was read. It may be a key, unless one may not begin here. -/
def takeScalar (l : Lexer) (isPlain : Bool) (reading : Option Reading) :
    Option (Lexer × List Char) := do
  let l ← l.noteKey
  let r ← reading
  let l := l.emit (.scalar ⟨r.content, isPlain⟩)
  return ({ l with place := r.place, keyAllowed := r.crossedLine }, r.rest)

/-- Reads a plain scalar from here on, whose further lines must be deeper than the block it stands
in. -/
def plainFrom (l : Lexer) (text : List Char) : Option Reading :=
  plain l.inFlow ((l.indents.head?.map (· + 1)).getD 0) l.place .none [] text

/-- The characters that do not begin a plain scalar, as they have a meaning of their own. -/
def isIndicator (c : Char) : Bool :=
  isFlowMark c || "-?:#&*!|>'\"%@".toList.contains c || c.toNat == 0x60

/-- Whether a plain scalar may begin here. A dash may begin one before anything but a blank, a
question mark or colon only outside of flow collections. -/
def startsPlain (l : Lexer) : List Char → Bool
  | [] => false
  | c :: rest =>
    (!isBlank c && !isBreak c && !isIndicator c) ||
      (c == '-' && !(rest.head?.map isBlank).getD false) ||
      (!l.inFlow && (c == '?' || c == ':') && !startsBlank rest)

/-- Takes the next lexeme of a text that goes on. The first character decides which, and for a dash,
question mark or colon the one behind it. -/
def take (l : Lexer) (text : List Char) : Option (Lexer × List Char) :=
  if l.place.column = 0 && startsMark text then
    let mark := if text.head? == some '-' then Token.documentStart else .documentEnd
    (l.takeMark mark).map ((·, text.drop 3))
  else
    match text with
    | [] => none
    | '%' :: _ => none
    | '[' :: rest => (l.openFlow .flowSequence).map ((·, rest))
    | '\x7b' :: rest => (l.openFlow .flowMapping).map ((·, rest))
    | ']' :: rest => (l.closeFlow .flowSequenceEnd).map ((·, rest))
    | '\x7d' :: rest => (l.closeFlow .flowMappingEnd).map ((·, rest))
    | ',' :: rest => l.takeComma.map ((·, rest))
    | '\'' :: rest => l.takeScalar false (singleQuoted (l.place.along 1) .none [] rest)
    | '"' :: rest => l.takeScalar false (doubleQuoted .text (l.place.along 1) .none [] rest)
    | c :: rest =>
      if c == '-' && startsBlank rest then l.takeEntry.map ((·, rest))
      else if c == '?' && (l.inFlow || startsBlank rest) then l.takeKey.map ((·, rest))
      else if c == ':' && (l.inFlow || startsBlank rest) then l.takeValue.map ((·, rest))
      else if l.startsPlain text then l.takeScalar true (l.plainFrom text)
      else none

/-- Ends the text: what is open in block form is closed, and a required key without its colon is a
fault. -/
def finish (l : Lexer) : Option (List Token) := do
  let l ← l.closeAll.dropKey
  return l.tokens.reverse

/-- Reads lexemes to the end of the text. Each takes at least one character, so as many steps
as there are characters and one for the end are enough. -/
def run : Nat → Lexer → List Char → Option (List Token)
  | 0, _, _ => none
  | steps + 1, l, text => do
    let (l, text) := skip false l text
    let l := l.closeTo l.place.column
    let l ← l.refreshKeys
    if text.isEmpty then l.finish
    else
      let (l, text) ← l.take text
      run steps l text

end Lexer

/-- The lexemes of a text, if all its characters are allowed. -/
def lex (text : List Char) : Option (List Token) := do
  let text ← characters? text
  Lexer.run (text.length + 1) .start text

end AccessGateway.Yaml
