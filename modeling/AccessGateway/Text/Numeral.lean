/-!
# `AccessGateway.Text.Numeral`: decimal numerals

Reading and writing of whole numbers in base ten, with the bounds of the machine words that
hold them. A reader goes through the digits from the left and stops at the first fault, so
a numeral that is both too large and malformed is refused for whichever comes first.

Numbers are kept unbounded here, and read from text only within their words. Where the gateway
calculates with what it read, the result is the one of the word: `addSigned` and `mulWord` wrap
around, as released programs do.
-/

set_option autoImplicit false

namespace AccessGateway.Text.Numeral

/-- Why a text is no numeral of the wanted range. Too large and too small are told apart by the sign
that stands in front, not by the value. -/
inductive Fault where
  | empty
  | invalidDigit
  | tooLarge
  | tooSmall
  deriving DecidableEq, Repr

/-- The wording of a fault, one sentence for each. -/
def Fault.message : Fault → String
  | .empty => "cannot parse integer from empty string"
  | .invalidDigit => "invalid digit found in string"
  | .tooLarge => "number too large to fit in target type"
  | .tooSmall => "number too small to fit in target type"

/-- The largest value of an unsigned 64-bit word. -/
def maxWord : Nat := 0xFFFFFFFFFFFFFFFF

/-- The largest value of a signed 64-bit word. -/
def maxSigned : Nat := 0x7FFFFFFFFFFFFFFF

/-- The largest value of an unsigned 32-bit word. -/
def maxHalfWord : Nat := 0xFFFFFFFF

/-- The sum of two signed 64-bit words. It wraps around: after the largest word comes the smallest.
Counters are added to in this way, so a count that began at the top goes on below zero. -/
def addSigned (a b : Int) : Int := (a + b).bmod (maxWord + 1)

/-- The product of two unsigned 64-bit words. It wraps around, so only the lowest 64 bits are
kept. -/
def mulWord (a b : Nat) : Nat := a * b % (maxWord + 1)

/-- The value of a decimal digit. Only the ten of ASCII are digits. -/
def digit? (c : Char) : Option Nat := if c.isDigit then some (c.toNat - '0'.toNat) else none

/-- Reads digits onto `acc` as long as the value stays at most `limit`. The bound is checked at each
digit, so the first that exceeds it ends the reading, whatever stands behind. -/
def readDigits (limit : Nat) (beyond : Fault) : Nat → List Char → Except Fault Nat
  | acc, [] => .ok acc
  | acc, c :: rest =>
    match digit? c with
    | none => .error .invalidDigit
    | some d =>
      if acc * 10 + d ≤ limit then readDigits limit beyond (acc * 10 + d) rest
      else .error beyond

/-- Reads an unsigned numeral of at most `limit`; one plus sign may stand in front. A minus sign is
no digit, also before a zero. -/
def readNat (limit : Nat) : List Char → Except Fault Nat
  | [] => .error .empty
  | ['+'] => .error .invalidDigit
  | '+' :: rest => readDigits limit .tooLarge 0 rest
  | text => readDigits limit .tooLarge 0 text

/-- Reads a signed 64-bit numeral; one sign may stand in front. There is one more number below zero
than above, so the two bounds differ by one. -/
def readInt : List Char → Except Fault Int
  | [] => .error .empty
  | ['+'] | ['-'] => .error .invalidDigit
  | '+' :: rest => (readDigits maxSigned .tooLarge 0 rest).map Int.ofNat
  | '-' :: rest => (readDigits (maxSigned + 1) .tooSmall 0 rest).map fun n => -Int.ofNat n
  | text => (readDigits maxSigned .tooLarge 0 text).map Int.ofNat

/-- The character of a digit; of a larger number, that of its last digit. -/
def digitChar (d : Nat) : Char := Char.ofNat ('0'.toNat + d % 10)

/-- The digits of a number, without leading zeros; zero is written as one digit. -/
def ofNat (n : Nat) : List Char :=
  if n < 10 then [digitChar n] else ofNat (n / 10) ++ [digitChar n]
termination_by n
decreasing_by omega

/-- The digits of a number, with a minus sign below zero and none above. -/
def ofInt : Int → List Char
  | .ofNat n => ofNat n
  | .negSucc n => '-' :: ofNat (n + 1)

/-- The digits of a number, filled with zeros up to `width`. A number of more digits is written in
full. -/
def padded (width n : Nat) : List Char :=
  let digits := ofNat n
  List.replicate (width - digits.length) '0' ++ digits

end AccessGateway.Text.Numeral

namespace AccessGateway.Text

/-- A number as text, as counters are stored and messages show it. -/
def natText (n : Nat) : String := String.ofList (Numeral.ofNat n)

/-- A signed number as text, in the same digits. -/
def intText (n : Int) : String := String.ofList (Numeral.ofInt n)

end AccessGateway.Text
