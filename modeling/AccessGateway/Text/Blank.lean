import AccessGateway.Text.Split

/-!
# `AccessGateway.Text.Blank`: white space

Two sets of blanks are in use. Durations and environment values are trimmed by the Unicode
property `White_Space`; header values by the five blanks of ASCII. The two disagree on the
vertical tab already, so a header that is blank by one need not be blank by the other, and
whether a request has credentials is decided by the second.
-/

set_option autoImplicit false

namespace AccessGateway.Text

/-- The characters with the Unicode property `White_Space`, the no-break spaces among them. -/
def isBlank (c : Char) : Bool :=
  let n := c.toNat
  (9 ≤ n && n ≤ 13) || n == 0x20 || n == 0x85 || n == 0xA0 || n == 0x1680 ||
    (0x2000 ≤ n && n ≤ 0x200A) || n == 0x2028 || n == 0x2029 || n == 0x202F ||
    n == 0x205F || n == 0x3000

/-- The blanks of ASCII: tab, line feed, form feed, carriage return and space. The vertical tab is
none of them. -/
def isAsciiBlank (c : Char) : Bool :=
  let n := c.toNat
  n == 9 || n == 10 || n == 12 || n == 13 || n == 32

/-- Removes blanks from both ends. A text of blanks alone becomes the empty one. -/
def trim (text : List Char) : List Char := trimBy isBlank text

/-- Removes the blanks at the start, those at the end stay. -/
def trimStart (text : List Char) : List Char := text.dropWhile isBlank

end AccessGateway.Text
