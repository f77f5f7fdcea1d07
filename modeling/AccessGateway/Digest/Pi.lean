/-!
# `AccessGateway.Digest.Pi`: the binary digits of π

A block cipher takes its first tables from a number that nobody chose: the fraction of π, cut
into words of thirty-two bits. The digits come from Machin's formula
`π = 16 arctan (1/5) - 4 arctan (1/239)`, with the arcus tangent as a series in exact whole
numbers. A table of a thousand words would have to be believed; these are computed, and a wrong
one would spoil every password hash.
-/

set_option autoImplicit false

namespace AccessGateway.Digest.Pi

/-- The terms of the series from a power of the argument on: the power over the odd numbers,
with signs that alternate. It ends where the power has become zero. -/
def series (square : Nat) : Nat → Nat → Nat → Int
  | 0, _, _ => 0
  | fuel + 1, power, odd =>
    if power = 0 then 0
    else Int.ofNat (power / odd) - series square fuel (power / square) (odd + 2)

/-- The arcus tangent of `1 / x`, in units of which `scale` make one. Every term is at most a
quarter of the one before, so there are no more terms than `scale` has bits. -/
def arctan (scale x : Nat) : Int := series (x * x) (scale.log2 + 1) (scale / x) 1

/-- How many bits are computed beyond the last that is used; they take up the rounding. -/
def guardBits : Nat := 64

/-- The number π in units of which `2 ^ bits` make one. -/
def scaled (bits : Nat) : Nat :=
  let scale := 1 <<< (bits + guardBits)
  (4 * (4 * arctan scale 5 - arctan scale 239)).toNat >>> guardBits

/-- The first words of the fraction of π. -/
def words (count : Nat) : Array UInt32 :=
  let digits := scaled (32 * count)
  ((List.range count).map fun i => UInt32.ofNat (digits >>> (32 * (count - 1 - i)))).toArray

end AccessGateway.Digest.Pi
