import AccessGateway.Json.Value
import AccessGateway.Text.Decimal
import AccessGateway.Text.Hexadecimal
import AccessGateway.Text.Numeral

/-!
# `AccessGateway.Json.Token`: the lexemes of JSON text

`Json.lex` cuts a text into punctuation, strings and atoms. It walks the characters once and
keeps in its `Mode` what it is inside of, so it is a structural recursion on the text: no fuel,
and an induction on the text follows the lexer step by step.

The contents of a string are collected as they stand and unescaped when the quotation ends, so
that the lexer need only know where it ends; `unescape` refuses what is no escape, and half of a
surrogate pair that stands alone. A word is collected likewise and judged as a whole by `atom?`.
A number keeps its digits exactly, as mantissa and exponent, so that no rounding comes in.
-/

set_option autoImplicit false

namespace AccessGateway.Json

/-- A lexeme of JSON text. A literal or number is already a value here, and a string is already
unescaped: what is left to the reader is nesting only. -/
inductive Token where
  | arrayStart
  | arrayEnd
  | objectStart
  | objectEnd
  | comma
  | colon
  | text (content : String)
  | atom (value : Json)
  deriving DecidableEq

/-- The value of the four hexadecimal digits of a `\u` escape, of either case. -/
def hexUnit? (a b c d : Char) : Option Nat :=
  Text.hexNumber? [a, b, c, d]

/-- The character behind a one-letter escape. A slash may be escaped but is never written so. -/
def shortEscape? : Char → Option Char
  | '"' => some '"'
  | '\\' => some '\\'
  | '/' => some '/'
  | 'b' => some '\x08'
  | 'f' => some '\x0c'
  | 'n' => some '\n'
  | 'r' => some '\r'
  | 't' => some '\t'
  | _ => none

/-- Whether a 16-bit unit is the first half of a surrogate pair, which stands for a character only
together with the second. -/
def isHighHalf (unit : Nat) : Bool := 0xD800 ≤ unit && unit < 0xDC00

/-- Whether a 16-bit unit is the second half of a surrogate pair. -/
def isLowHalf (unit : Nat) : Bool := 0xDC00 ≤ unit && unit < 0xE000

/-- The characters that the inside of a quoted string stands for. A half of a surrogate pair that
stands alone is refused, as is an unknown escape and a backslash at the end. -/
def unescape : List Char → Option (List Char)
  | [] => some []
  | '\\' :: 'u' :: a :: b :: c :: d :: rest => do
    let unit ← hexUnit? a b c d
    if isLowHalf unit then none
    else if isHighHalf unit then
      match rest with
      | '\\' :: 'u' :: e :: f :: g :: h :: rest => do
        let low ← hexUnit? e f g h
        if isLowHalf low then
          let code := 0x10000 + (unit - 0xD800) * 0x400 + (low - 0xDC00)
          return Char.ofNat code :: (← unescape rest)
        else none
      | _ => none
    else return Char.ofNat unit :: (← unescape rest)
  | '\\' :: c :: rest => do return (← shortEscape? c) :: (← unescape rest)
  | ['\\'] => none
  | c :: rest => do return c :: (← unescape rest)

/-- A whole number, if a 64-bit word holds it; minus zero is no whole number. Negative numbers are
held by a signed word and the others by an unsigned one, so the two bounds differ. -/
def wholeNumber (negative : Bool) (magnitude : Nat) : Json :=
  if negative then
    if magnitude = 0 then .decimal 0 0
    else if magnitude ≤ Text.Numeral.maxSigned + 1 then .num (-Int.ofNat magnitude)
    else .decimal (-Int.ofNat magnitude) 0
  else if magnitude ≤ Text.Numeral.maxWord then .num magnitude
  else .decimal magnitude 0

/-- A number: an optional minus sign, digits without a leading zero, an optional fraction and an
optional exponent. With a fraction or an exponent the number is a decimal even where its value is
whole; the digits of the fraction lower the exponent. -/
def number? (text : List Char) : Option Json :=
  let (negative, unsigned) := match text with
    | '-' :: rest => (true, rest)
    | rest => (false, rest)
  let (whole, rest) := Text.spanDigits unsigned
  if whole.isEmpty || (whole.length > 1 && whole.head? == some '0') then none
  else match rest with
    | [] => some (wholeNumber negative (Text.digitsValue whole))
    | '.' :: rest =>
      let (fraction, rest) := Text.spanDigits rest
      if fraction.isEmpty then none
      else do
        let e ← Text.exponent? rest
        let m := Int.ofNat (Text.digitsValue (whole ++ fraction))
        return .decimal (if negative then -m else m) (e - fraction.length)
    | rest => do
      let e ← Text.exponent? rest
      let m := Int.ofNat (Text.digitsValue whole)
      return .decimal (if negative then -m else m) e

/-- The value of a word: a literal or a number. The three literals are written in lower case
only. -/
def atom? (word : List Char) : Option Json :=
  if word = ['t', 'r', 'u', 'e'] then some (.bool true)
  else if word = ['f', 'a', 'l', 's', 'e'] then some (.bool false)
  else if word = ['n', 'u', 'l', 'l'] then some .null
  else number? word

/-- What the lexer is inside of. The characters read so far are kept in reverse, so that adding
one is a single cell; `escape` stands behind a backslash inside a string, where a quote does not
end it. -/
inductive Mode where
  | between
  | word (read : List Char)
  | text (read : List Char)
  | escape (read : List Char)

/-- Whether a character can stand in a literal or number. This is wider than either: `atom?` refuses
the words that are neither, when they end. -/
def isWordChar (c : Char) : Bool := c.isAlphanum || c == '-' || c == '+' || c == '.'

/-- What a character begins when it stands outside of words and strings: the lexemes it completes by
itself and the mode it leaves the lexer in. Only four characters are blanks. -/
def entry? (c : Char) : Option (List Token × Mode) :=
  match c with
  | ' ' | '\t' | '\n' | '\r' => some ([], .between)
  | '[' => some ([.arrayStart], .between)
  | ']' => some ([.arrayEnd], .between)
  | '\x7b' => some ([.objectStart], .between)
  | '\x7d' => some ([.objectEnd], .between)
  | ',' => some ([.comma], .between)
  | ':' => some ([.colon], .between)
  | '"' => some ([], .text [])
  | c => if isWordChar c then some ([], .word [c]) else none

/-- The lexemes of a text, read in the given mode. A word ends before the first character that
cannot stand in it, which then begins something itself; a string ends at its quote, and control
characters must be escaped in it. -/
def lex : Mode → List Char → Option (List Token)
  | .between, [] => some []
  | .word read, [] => do return [.atom (← atom? read.reverse)]
  | .text _, [] | .escape _, [] => none
  | .between, c :: rest => do
    let (tokens, mode) ← entry? c
    return tokens ++ (← lex mode rest)
  | .word read, c :: rest =>
    if isWordChar c then lex (.word (c :: read)) rest
    else do
      let value ← atom? read.reverse
      let (tokens, mode) ← entry? c
      return .atom value :: (tokens ++ (← lex mode rest))
  | .text read, c :: rest =>
    if c == '"' then do
      let content ← unescape read.reverse
      return .text (String.ofList content) :: (← lex .between rest)
    else if c == '\\' then lex (.escape read) rest
    else if c.toNat < 0x20 then none
    else lex (.text (c :: read)) rest
  | .escape read, c :: rest =>
    if c.toNat < 0x20 then none else lex (.text (c :: '\\' :: read)) rest

end AccessGateway.Json
