/-!
# `AccessGateway.Text.Decimal`: decimal fractions

Numbers with a fraction or an exponent. Their value is kept exactly, as a whole number times a
power of ten: a double would round it, and nothing the gateway does with such a number calls for
that. Two spellings of one number may differ in this form, since trailing zeros are kept.

JSON and YAML allow different spellings, so each has a reader of its own; they share the
digits and the exponent.
-/

set_option autoImplicit false

namespace AccessGateway.Text

/-- The digits at the start of a text and what follows them; either may be empty. -/
def spanDigits (text : List Char) : List Char × List Char :=
  (text.takeWhile Char.isDigit, text.dropWhile Char.isDigit)

/-- The value of a row of digits, which is zero for the empty row. It is meant for digits only: any
other character would count as one too. -/
def digitsValue (digits : List Char) : Nat :=
  digits.foldl (fun acc c => acc * 10 + (c.toNat - '0'.toNat)) 0

/-- The exponent part of a number: nothing, or `e`, an optional sign and digits. Nothing may follow
the digits. -/
def exponent? : List Char → Option Int
  | [] => some 0
  | c :: rest =>
    if c != 'e' && c != 'E' then none
    else
      let (sign, digits) : Int × List Char := match rest with
        | '+' :: digits => (1, digits)
        | '-' :: digits => (-1, digits)
        | digits => (1, digits)
      if digits.isEmpty || !digits.all Char.isDigit then none
      else some (sign * Int.ofNat (digitsValue digits))

/-- Cuts one sign off: whether it was a minus, and the rest. A second sign is left in the rest. -/
def cutSign : List Char → Bool × List Char
  | '-' :: rest => (true, rest)
  | '+' :: rest => (false, rest)
  | text => (false, text)

/-- The number `m` times ten to the power `e` of a text such as `1.5e3`; the digits before or after
the point may be left out, but not both. Each digit of the fraction lowers the exponent by one. -/
def decimal? (text : List Char) : Option (Int × Int) := do
  let (negative, text) := cutSign text
  let (whole, rest) := spanDigits text
  let (fraction, rest) := match rest with
    | '.' :: rest => spanDigits rest
    | rest => ([], rest)
  if whole.isEmpty && fraction.isEmpty then none
  else
    let e ← exponent? rest
    let m := Int.ofNat (digitsValue (whole ++ fraction))
    return (if negative then -m else m, e - fraction.length)

end AccessGateway.Text
