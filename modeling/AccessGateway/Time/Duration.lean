import AccessGateway.Text.Blank
import AccessGateway.Text.Numeral

/-!
# `AccessGateway.Time.Duration`: lengths of time

Lifetimes, windows and timeouts, in milliseconds. Settings write them as a number with a unit
(`Duration.read`), of which all but the milliseconds are counted in seconds, and print them in whole
seconds (`Duration.text`); messages print them in the largest unit that leaves a whole part
(`Duration.display`).

The number is a word, and so is the product of it with the seconds of a minute or an hour. A product
that no word holds wraps around, as the word of the machine does.
-/

set_option autoImplicit false

namespace AccessGateway.Time

/-- A length of time. Nothing shorter than a millisecond can be said. -/
structure Duration where
  millis : Nat
  deriving DecidableEq, Inhabited, Repr

namespace Duration

/-- No time at all. As a lifetime it stands for an unlimited one. -/
def zero : Duration := ⟨0⟩

/-- A number of seconds. No bound is put on it here. -/
def ofSeconds (seconds : Nat) : Duration := ⟨seconds * 1000⟩

/-- The whole seconds. What is left of a second is dropped. -/
def seconds (d : Duration) : Nat := d.millis / 1000

/-- Whether no time passes. Less than a second is not zero. -/
def isZero (d : Duration) : Bool := d.millis == 0

/-- What the number of a written length of time counts: milliseconds, or so many seconds at once. -/
inductive TimeUnit where
  | millis
  | seconds (count : Nat)
  deriving DecidableEq, Repr

/-- A number of units. Seconds are held by a word, and a product that is too large for one wraps
around. -/
def TimeUnit.times (n : Nat) : TimeUnit → Duration
  | .millis => ⟨n⟩
  | .seconds count => ofSeconds (Text.Numeral.mulWord n count)

/-- Cuts a unit off the end: the number in front of it and what it counts.
`ms` is tried before `s` and `m`, which it contains; without a unit the number is in seconds. -/
def cutUnit (text : List Char) : List Char × TimeUnit :=
  match Text.dropEnd? ['m', 's'] text with
  | some number => (number, .millis)
  | none => match Text.dropEnd? ['s'] text with
    | some number => (number, .seconds 1)
    | none => match Text.dropEnd? ['m'] text with
      | some number => (number, .seconds 60)
      | none => match Text.dropEnd? ['h'] text with
        | some number => (number, .seconds 3600)
        | none => (text, .seconds 1)

/-- Reads a whole number with a unit; blanks may stand around the whole of it. -/
def read (text : String) : Except Text.Numeral.Fault Duration :=
  let (number, unit) := cutUnit (Text.trim text.toList)
  (Text.Numeral.readNat Text.Numeral.maxWord number).map unit.times

/-- The written form of settings: the whole seconds and the unit `s`. Milliseconds are lost here. -/
def text (d : Duration) : String := Text.natText d.seconds ++ "s"

/-- A whole part and `places` decimal places of a fraction, without zeros at the end. -/
def decimalText (whole fraction places : Nat) : List Char :=
  let digits := ((Text.Numeral.padded places fraction).reverse.dropWhile (· == '0')).reverse
  Text.Numeral.ofNat whole ++ if digits.isEmpty then [] else '.' :: digits

/-- The form in messages: seconds with the places they need, or else milliseconds. -/
def display (d : Duration) : String :=
  if d.millis = 0 then "0ns"
  else if d.millis < 1000 then Text.natText d.millis ++ "ms"
  else String.ofList (decimalText (d.millis / 1000) (d.millis % 1000) 3) ++ "s"

end Duration

end AccessGateway.Time
