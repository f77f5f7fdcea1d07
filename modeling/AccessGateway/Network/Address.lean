import AccessGateway.Text.Hexadecimal
import AccessGateway.Text.Numeral
import AccessGateway.Text.Split

/-!
# `AccessGateway.Network.Address`: IP addresses

The text forms of IPv4 and IPv6 addresses, as far as the host in the settings needs them: a
listener is only opened on an address. An IPv4 address is four decimal octets without leading
zeros, which other readers take for octal. An IPv6 address is eight hexadecimal groups, of which
one run may be left out as `::` and the last two may be written as an IPv4 address.

An IPv6 address is read by its gap: the groups before it and behind it are read apart, and the
gap stands for as many zeros as are missing.
-/

set_option autoImplicit false

namespace AccessGateway

/-- An address: four octets, or eight groups of sixteen bits. `read?` builds no others. -/
inductive IpAddress where
  | v4 (octets : List Nat)
  | v6 (groups : List Nat)
  deriving DecidableEq, Repr

namespace IpAddress

/-- The value of a decimal octet of at most three digits, without a leading zero and at most 255. -/
def octet? (text : List Char) : Option Nat :=
  if text.length ≤ 3 ∧ (text.length ≤ 1 ∨ text.head? ≠ some '0') ∧ text.all Char.isDigit then
    (Text.Numeral.readNat 255 text).toOption
  else none

/-- The four octets of an IPv4 address, with a dot between any two. -/
def octets? (text : List Char) : Option (List Nat) := do
  let octets ← (Text.pieces '.' text).mapM' octet?
  if octets.length = 4 then some octets else none

/-- The value of a group, which has one to four hexadecimal digits of either case. -/
def group? (text : List Char) : Option Nat :=
  if 1 ≤ text.length ∧ text.length ≤ 4 then Text.hexNumber? text else none

/-- The two groups that an IPv4 address stands for, the first octet of each the higher half. -/
def groupsOfOctets? (text : List Char) : Option (List Nat) := do
  match ← octets? text with
  | [a, b, c, d] => some [a * 256 + b, c * 256 + d]
  | _ => none

/-- The groups between colons. Only the last may be an IPv4 address, and only if
`endsInOctets` allows it. -/
def groups? (endsInOctets : Bool) : List (List Char) → Option (List Nat)
  | [] => some []
  | [last] =>
    match group? last with
    | some group => some [group]
    | none => if endsInOctets then groupsOfOctets? last else none
  | piece :: rest => do return (← group? piece) :: (← groups? endsInOctets rest)

/-- The groups of a text between colons; the empty text has none, as before a gap at the very
beginning. -/
def side? (endsInOctets : Bool) (text : List Char) : Option (List Nat) :=
  if text.isEmpty then some [] else groups? endsInOctets (Text.pieces ':' text)

/-- The texts before and after the first `::`. A second gap is left in the text behind and is
refused there, since no group is empty. -/
def splitGap? : List Char → Option (List Char × List Char)
  | ':' :: ':' :: rest => some ([], rest)
  | c :: rest => (splitGap? rest).map fun (before, after) => (c :: before, after)
  | [] => none

/-- The eight groups of an IPv6 address; a gap stands for at least one. Before a gap no IPv4 address
may stand, since it would not be at the end. -/
def v6Groups? (text : List Char) : Option (List Nat) :=
  match splitGap? text with
  | none => do
    let groups ← side? true text
    if groups.length = 8 then some groups else none
  | some (before, after) => do
    let front ← side? false before
    let back ← side? true after
    if front.length + back.length < 8 then
      some (front ++ List.replicate (8 - front.length - back.length) 0 ++ back)
    else none

/-- Reads an address of either kind. No text is both, as only one of them has colons. -/
def read? (text : String) : Option IpAddress :=
  match octets? text.toList with
  | some octets => some (v4 octets)
  | none => (v6Groups? text.toList).map v6

end IpAddress

end AccessGateway
