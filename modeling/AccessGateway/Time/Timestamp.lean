import AccessGateway.Text.Blank
import AccessGateway.Text.Numeral
import AccessGateway.Time.Calendar

/-!
# `AccessGateway.Time.Timestamp`: creation times

A `Timestamp` is a moment of UTC to the nanosecond. It may lie in a leap second, which is
inserted after second 59 of a minute and written `:60`. Timestamps are written with the fewest
of 0, 3, 6 or 9 fraction digits that lose nothing (`Timestamp.text`) or cut to the second
(`Timestamp.secondText`), and read with any offset from UTC (`Timestamp.read?`).

A timestamp carries its own well-formedness: the nanoseconds are less than a second, and a leap
second follows second 59. So no function on timestamps has to ask for either.

The reader is a row of small ones, each of which takes its part from the front of a text. It is not
strict: fields may be short, blanks may stand between most parts, and what is beyond nine digits of
a fraction is dropped.
-/

set_option autoImplicit false

namespace AccessGateway.Time

/-- A moment of UTC. `second` counts from the start of 1970 without leap seconds; `leap` says
that the moment lies in the leap second inserted after that second. -/
structure Timestamp where
  second : Int
  nano : Nat
  leap : Bool
  nano_lt : nano < 1000000000 := by omega
  leap_follows_59 : leap = true → second % 60 = 59 := by decide
  deriving DecidableEq, Repr

namespace Timestamp

/-- The start of 1970. -/
def epoch : Timestamp := { second := 0, nano := 0, leap := false }

instance : Inhabited Timestamp := ⟨epoch⟩

/-- The number of the first day of 1970. -/
def epochDay : Int := 719528

/-- The seconds of a day. -/
def daySeconds : Int := 86400

/-- The date of a timestamp, in UTC. -/
def date (t : Timestamp) : Date := Date.ofDay (t.second / daySeconds + epochDay)

/-- The second of the day, without leap seconds. -/
def secondOfDay (t : Timestamp) : Nat := (t.second % daySeconds).toNat

/-- A year in four digits; years outside of 0 to 9999 carry a sign, and as many digits as they
need. -/
def yearText (year : Int) : List Char :=
  if 0 ≤ year ∧ year ≤ 9999 then Text.Numeral.padded 4 year.toNat
  else (if year < 0 then '-' else '+') :: Text.Numeral.padded 4 year.natAbs

/-- A date as `year-month-day`. -/
def dateText (d : Date) : List Char :=
  yearText d.year ++ '-' :: Text.Numeral.padded 2 d.month ++ '-' :: Text.Numeral.padded 2 d.day

/-- A time of day as `hour:minute:second`; a leap second is second 60. -/
def clockText (secondOfDay : Nat) (leap : Bool) : List Char :=
  Text.Numeral.padded 2 (secondOfDay / 3600) ++
    ':' :: Text.Numeral.padded 2 (secondOfDay / 60 % 60) ++
    ':' :: Text.Numeral.padded 2 (secondOfDay % 60 + if leap then 1 else 0)

/-- The fraction of a second in the fewest of 0, 3, 6 or 9 digits. None means that there is no point
either. -/
def fractionText (nano : Nat) : List Char :=
  if nano = 0 then []
  else if nano % 1000000 = 0 then '.' :: Text.Numeral.padded 3 (nano / 1000000)
  else if nano % 1000 = 0 then '.' :: Text.Numeral.padded 6 (nano / 1000)
  else '.' :: Text.Numeral.padded 9 nano

/-- Date and time of day, without the fraction. -/
def wholeChars (t : Timestamp) : List Char :=
  dateText t.date ++ 'T' :: clockText t.secondOfDay t.leap

/-- The timestamp cut to the second. Within four-digit years the text has a fixed width, so it
orders as time does. -/
def secondText (t : Timestamp) : String := String.ofList (t.wholeChars ++ ['Z'])

/-- The characters of the whole timestamp, up to the mark of UTC. -/
def chars (t : Timestamp) : List Char := t.wholeChars ++ fractionText t.nano ++ ['Z']

/-- The whole timestamp, as it is shown. -/
def text (t : Timestamp) : String := String.ofList t.chars

/-- A reader takes the start of a text and leaves the rest. -/
abbrev Reader (α : Type) := List Char → Option (α × List Char)

/-- One to `width` digits, as many as there are. -/
def digits? (width : Nat) : Reader Nat := fun text =>
  let taken := (text.take width).takeWhile Char.isDigit
  if taken.isEmpty then none
  else some (taken.foldl (fun n c => n * 10 + (c.toNat - '0'.toNat)) 0, text.drop taken.length)

/-- A year: up to four digits, or a sign and any number of digits. -/
def year? : Reader Int
  | '-' :: rest => (digits? rest.length rest).map fun (n, rest) => (-Int.ofNat n, rest)
  | '+' :: rest => (digits? rest.length rest).map fun (n, rest) => (Int.ofNat n, rest)
  | text => (digits? 4 text).map fun (n, rest) => (Int.ofNat n, rest)

/-- A two-digit field of at least `low` and at most `high`; blanks may stand before it. -/
def field? (low high : Nat) : Reader Nat := fun text => do
  let (n, rest) ← digits? 2 (Text.trimStart text)
  if low ≤ n ∧ n ≤ high then some (n, rest) else none

/-- One separating character; blanks may stand before it. -/
def mark? (c : Char) : Reader Unit := fun text =>
  match Text.trimStart text with
  | d :: rest => if c = d then some ((), rest) else none
  | [] => none

/-- The fraction of a second in nanoseconds, if one is written; digits after the ninth are
dropped. -/
def fraction? : Reader Nat
  | '.' :: text => do
    let (n, rest) ← digits? 9 text
    let given := text.length - rest.length
    return (n * Nat.pow 10 (9 - given), rest.dropWhile Char.isDigit)
  | text => some (0, text)

/-- The letters of a text in lower case, as far as they are ASCII. -/
def lower (text : List Char) : List Char := text.map Char.toLower

/-- An offset from UTC in seconds: `Z`, `UTC`, or a sign, two digits of hours and two of
minutes, which a colon or blanks may separate. -/
def offset? (text : List Char) : Option (Int × List Char) :=
  if lower (text.take 3) = ['u', 't', 'c'] then some (0, text.drop 3)
  else match text with
    | [] => none
    | 'Z' :: rest | 'z' :: rest => some (0, rest)
    | sign :: a :: b :: rest => do
      let factor : Int ← if sign = '+' then some 1
        else if sign = '-' ∨ sign = '−' then some (-1) else none
      let hours := (← Text.Numeral.digit? a) * 10 + (← Text.Numeral.digit? b)
      match rest.dropWhile fun c => c == ':' || Text.isBlank c with
      | c :: d :: rest =>
        let tens ← Text.Numeral.digit? c
        let minutes := tens * 10 + (← Text.Numeral.digit? d)
        if tens ≤ 5 ∧ hours ≤ 23 then
          return (factor * Int.ofNat (hours * 3600 + minutes * 60), rest)
        else none
      | _ => none
    | _ => none

/-- The first and last years that a timestamp can lie in. -/
def minYear : Int := -262143

/-- The last year that a timestamp can lie in. -/
def maxYear : Int := 262142

/-- A moment in the leap second after `second`, or in `second` itself, if the parts are well
formed. -/
def make? (second : Int) (nano : Nat) (leap : Bool) : Option Timestamp :=
  if hn : nano < 1000000000 then
    if hl : leap = true → second % 60 = 59 then
      some { second, nano, leap, nano_lt := hn, leap_follows_59 := hl }
    else none
  else none

/-- Reads a date, `T` or a blank, a time of day, an optional fraction and an offset. Blanks
may stand between the parts, and fields need not be filled with zeros. -/
def read? (text : String) : Option Timestamp := do
  let (year, rest) ← year? (Text.trimStart text.toList)
  let (_, rest) ← mark? '-' rest
  let (month, rest) ← field? 1 12 rest
  let (_, rest) ← mark? '-' rest
  let (day, rest) ← field? 1 31 rest
  let rest ← match rest with
    | 'T' :: rest | 't' :: rest | ' ' :: rest => some rest
    | _ => none
  let (hour, rest) ← field? 0 23 rest
  let (_, rest) ← mark? ':' rest
  let (minute, rest) ← field? 0 59 rest
  let (_, rest) ← mark? ':' rest
  let (second, rest) ← field? 0 60 rest
  let (nano, rest) ← fraction? rest
  let (offset, rest) ← offset? (Text.trimStart rest)
  let date : Date := ⟨year, month, day⟩
  if !(Text.trimStart rest).isEmpty || !date.isValid || year < minYear || maxYear < year then none
  else
    let leap := second == 60
    let clock : Nat := hour * 3600 + minute * 60 + (if leap then 59 else second)
    let t ← make? ((date.dayNumber - epochDay) * daySeconds + Int.ofNat clock - offset) nano leap
    if minYear ≤ t.date.year ∧ t.date.year ≤ maxYear then some t else none

end Timestamp

end AccessGateway.Time
