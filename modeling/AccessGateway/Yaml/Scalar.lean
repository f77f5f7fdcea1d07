import AccessGateway.Json.Value
import AccessGateway.Text.Decimal
import AccessGateway.Text.Hexadecimal
import AccessGateway.Text.Numeral

/-!
# `AccessGateway.Yaml.Scalar`: what an untyped scalar stands for

A quoted scalar is a string. A plain scalar may also be null, a truth value or a number: whole
numbers may be written in base ten, or in base sixteen, eight or two after `0x`, `0o` and `0b`;
digits after a leading zero are a string. A scalar keeps its characters, so what is taken for a
number can still be read as the text that was written, such as the port of an address.

Where no type is expected, the first of null, truth value and whole number that fits is taken,
and then a decimal. Whole numbers beyond a word and decimals beyond a double are told apart: the
former may have no value, the latter become strings.
-/

set_option autoImplicit false

namespace AccessGateway.Yaml

/-- A scalar: its characters, after escapes and line folding, and whether it was written without
quotes. -/
structure Scalar where
  content : List Char
  isPlain : Bool
  deriving DecidableEq, Repr

namespace Scalar

/-- The scalar of a value that is left out. No quoted scalar equals it. -/
def absent : Scalar := ⟨[], true⟩

/-- The characters as a text. -/
def text (s : Scalar) : String := String.ofList s.content

/-- Whether nothing is written. Empty quotes are something. -/
def isAbsent (s : Scalar) : Bool := s.isPlain && s.content.isEmpty

/-- Whether the scalar stands for nothing. Only these spellings do, and only without quotes. -/
def isNull (s : Scalar) : Bool :=
  s.isPlain && ["", "null", "Null", "NULL", "~"].contains s.text

/-- The truth value of a scalar. The words yes, no, on and off are strings. -/
def flag? (s : Scalar) : Option Bool :=
  if !s.isPlain then none
  else if ["true", "True", "TRUE"].contains s.text then some true
  else if ["false", "False", "FALSE"].contains s.text then some false
  else none

/-! ### Numbers -/

/-- The value of a digit in a base of at most sixteen, in either case. -/
def digit? (base : Nat) (c : Char) : Option Nat :=
  (Text.hexValue? c).filter fun d => decide (d < base)

/-- The value of at least one digit, the first digit leading. -/
def magnitude? (base : Nat) (digits : List Char) : Option Nat :=
  if digits.isEmpty then none
  else digits.foldlM (fun n c => (digit? base c).map (n * base + ·)) 0

/-- Whether digits follow a leading zero. Such a scalar is a string, as one cannot tell an octal
number from a padded one. -/
def isPadded (digits : List Char) : Bool :=
  match digits with
  | '0' :: rest => !rest.isEmpty && rest.all Char.isDigit
  | _ => false

/-- A whole number without a sign. -/
def unsigned? : List Char → Option Nat
  | '0' :: 'x' :: digits => magnitude? 16 digits
  | '0' :: 'o' :: digits => magnitude? 8 digits
  | '0' :: 'b' :: digits => magnitude? 2 digits
  | digits => if isPadded digits then none else magnitude? 10 digits

/-- The whole number of a text, of any size. One sign may stand in front, also of another base. -/
def wholeOf? : List Char → Option Int
  | '-' :: rest => (unsigned? rest).map fun n => -Int.ofNat n
  | '+' :: rest => (unsigned? rest).map Int.ofNat
  | text => (unsigned? text).map Int.ofNat

/-- The whole number of a scalar, which in quotes is none. -/
def whole? (s : Scalar) : Option Int := if s.isPlain then wholeOf? s.content else none

/-- Whether a number is too large for a double: it would round to 2 to the power 1024. -/
def exceedsDouble (mantissa exponent : Int) : Bool :=
  let size : Int := (Text.Numeral.ofNat mantissa.natAbs).length + exponent
  let bound := 0x3FFFFFFFFFFFFF <<< 970
  if mantissa = 0 || size < 309 then false
  else if size > 309 then true
  else if exponent < 0 then decide (bound * Nat.pow 10 exponent.natAbs ≤ mantissa.natAbs)
  else decide (bound ≤ mantissa.natAbs * Nat.pow 10 exponent.natAbs)

/-- The spellings of infinity and of no number, for which JSON has no value. -/
def beyondNumbers : List String :=
  [".inf", ".Inf", ".INF", "+.inf", "+.Inf", "+.INF", "-.inf", "-.Inf", "-.INF", ".nan", ".NaN",
    ".NAN"]

/-- The value of a plain scalar that is no null, truth value or 64-bit number: another number,
null for what is no number at all, or a string. A whole number of up to 128 bits that a 64-bit
word does not hold has no value. -/
def otherValue (s : Scalar) : Option Json :=
  if beyondNumbers.contains s.text then some .null
  else if isPadded (Text.cutSign s.content).2 then some (.str s.text)
  else match s.whole? with
    | some n => if n.natAbs < 1 <<< 128 then none else some (.decimal n 0)
    | none =>
      match Text.decimal? s.content with
      | some (m, e) => some (if exceedsDouble m e then .str s.text else .decimal m e)
      | none => some (.str s.text)

/-- Whether a 64-bit word, signed or unsigned, holds a number. -/
def fitsWord (n : Int) : Bool :=
  decide (-(Text.Numeral.maxSigned + 1 : Nat) ≤ n) && decide (n ≤ Text.Numeral.maxWord)

/-- The value that a scalar stands for. -/
def json? (s : Scalar) : Option Json :=
  if !s.isPlain then some (.str s.text)
  else if s.isNull then some .null
  else match s.flag? with
    | some value => some (.bool value)
    | none =>
      match s.whole?.filter fitsWord with
      | some n => some (.num n)
      | none => s.otherValue

end Scalar

end AccessGateway.Yaml
