/-!
# `AccessGateway.Yaml.Cursor`: places in a text and the gaps between words

Layout is meaning in YAML, so a reader knows the line and column it has reached. Between the
words of a scalar stand blanks and line breaks: without a break they are kept, one break is
folded into a space, and of several the first is dropped. What a gap stands for is not known
before the next word, so the readers of scalars carry it as a `Gap` and put it in only when
the scalar goes on behind it.

Line breaks have one spelling after `characters?`, so every further step takes one character.
-/

set_option autoImplicit false

namespace AccessGateway.Yaml

/-- A place in a text: the line, the column in it, and the number of characters before. Lines and
columns count from zero. -/
structure Place where
  line : Nat
  column : Nat
  offset : Nat
  deriving DecidableEq, Repr

namespace Place

/-- The beginning of a text. -/
def start : Place := ⟨0, 0, 0⟩

/-- The place a number of characters further on the same line. -/
def along (p : Place) (count : Nat) : Place :=
  { p with column := p.column + count, offset := p.offset + count }

/-- The beginning of the next line. -/
def nextLine (p : Place) : Place := ⟨p.line + 1, 0, p.offset + 1⟩

end Place

/-- The separators of lines and paragraphs, which are breaks that are kept when a gap is folded. -/
def isKeptBreak (c : Char) : Bool := c == '\u2028' || c == '\u2029'

/-- Whether a character ends a line, once breaks have one spelling. -/
def isBreak (c : Char) : Bool := c == '\n' || isKeptBreak c

/-- Whether a character is a space or a tab; a tab is not always allowed as one. -/
def isBlank (c : Char) : Bool := c == ' ' || c == '\t'

/-- The spellings of a line break become one; the separators of lines and paragraphs stay. -/
def normalizeBreaks : List Char → List Char
  | '\r' :: '\n' :: rest => '\n' :: normalizeBreaks rest
  | '\r' :: rest => '\n' :: normalizeBreaks rest
  | '\u0085' :: rest => '\n' :: normalizeBreaks rest
  | c :: rest => c :: normalizeBreaks rest
  | [] => []

/-- The characters that may stand in a text: no controls but those of layout, and neither of the two
last numbers of the basic plane. -/
def isAllowed (c : Char) : Bool :=
  let n := c.toNat
  n == 9 || n == 10 || n == 13 || (0x20 ≤ n && n ≤ 0x7E) || n == 0x85 ||
    (0xA0 ≤ n && n ≤ 0xD7FF) || (0xE000 ≤ n && n ≤ 0xFFFD) || 0x10000 ≤ n

/-- The characters of a text with one spelling of line breaks and without a byte order mark, if all
of them may stand in a text. -/
def characters? (text : List Char) : Option (List Char) :=
  let unmarked := match text with
    | '\ufeff' :: rest => rest
    | text => text
  if unmarked.all isAllowed then some (normalizeBreaks unmarked) else none

/-- Whether a text begins with a blank or a break, or has ended: then an indicator before it stands
alone. -/
def startsBlank : List Char → Bool
  | [] => true
  | c :: _ => isBlank c || isBreak c

/-- Whether a text begins with the mark of a document's start or end. It is one only at the start of
a line, which the caller knows. -/
def startsMark : List Char → Bool
  | '-' :: '-' :: '-' :: rest => startsBlank rest
  | '.' :: '.' :: '.' :: rest => startsBlank rest
  | _ => false

/-- What stands between two words of a scalar: blanks on one line, or line breaks, of which the
first may be escaped. -/
inductive Gap where
  | blanks (run : List Char)
  | breaks (first : Option Char) (more : List Char)
  deriving DecidableEq, Repr

namespace Gap

/-- Nothing, as between two characters of one word. -/
def none : Gap := .blanks []

/-- Whether the gap goes over the end of a line. -/
def isBroken : Gap → Bool
  | .blanks _ => false
  | .breaks .. => true

/-- The gap with one more blank; those at the start of a line count for nothing. -/
def addBlank (c : Char) : Gap → Gap
  | .blanks run => .blanks (run ++ [c])
  | gap => gap

/-- The gap with one more break. Blanks at the end of a line are dropped with it. -/
def addBreak (c : Char) : Gap → Gap
  | .blanks _ => .breaks (some c) []
  | .breaks first more => .breaks first (more ++ [c])

/-- The characters that a gap stands for. A first break of its own kind is kept, and an escaped one
leaves nothing. -/
def folded : Gap → List Char
  | .blanks run => run
  | .breaks (some c) more =>
    if isKeptBreak c then c :: more else if more.isEmpty then [' '] else more
  | .breaks .none more => more

/-- Puts the gap behind characters that are kept in reverse. -/
def onto (gap : Gap) (read : List Char) : List Char := gap.folded.reverse ++ read

end Gap

end AccessGateway.Yaml
