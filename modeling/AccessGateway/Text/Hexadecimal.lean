/-!
# `AccessGateway.Text.Hexadecimal`: digits in base sixteen

The digits of escapes, percent encoding and network addresses: read in either case, written
in lower case. The writers are total on numbers and the readers are total on texts, and the
number of digits wanted is left to the caller, since an escape has four, an octet two and a group
of an address up to four.
-/

set_option autoImplicit false

namespace AccessGateway.Text

/-- The value of a hexadecimal digit, in either case; other characters have none. -/
def hexValue? (c : Char) : Option Nat :=
  if '0' ≤ c ∧ c ≤ '9' then some (c.toNat - 48)
  else if 'a' ≤ c ∧ c ≤ 'f' then some (c.toNat - 87)
  else if 'A' ≤ c ∧ c ≤ 'F' then some (c.toNat - 55)
  else none

/-- The hexadecimal digit of a number below sixteen, in lower case. Of a larger number it is the
last digit, so a caller need not reduce it. -/
def hexDigit (n : Nat) : Char :=
  if n % 16 < 10 then Char.ofNat (48 + n % 16) else Char.ofNat (87 + n % 16)

/-- The hexadecimal digits of a number, without leading zeros; zero has one digit. -/
def hexDigits (n : Nat) : List Char :=
  if n < 16 then [hexDigit n] else hexDigits (n / 16) ++ [hexDigit n]
termination_by n
decreasing_by omega

/-- The number that hexadecimal digits write, the first digit leading. No digits at all write zero,
so a caller who wants some asks for them. -/
def hexNumber? (digits : List Char) : Option Nat :=
  digits.foldlM (fun n c => (hexValue? c).map (n * 16 + ·)) 0

end AccessGateway.Text
