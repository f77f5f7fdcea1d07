import AccessGateway.Digest.Word

/-!
# `AccessGateway.Digest.Base64`: octets in sixty-four symbols

Three octets are written as four symbols and a shorter rest without padding. Reading accepts
only what writing produces, so bits that no octet holds must be zero and no two texts stand for
the same octets. Tokens and password hashes use different symbols in the same scheme, so the
functions take the alphabet as an argument.

That reading undoes writing is `decode?_encode` (`AccessGateway.Proofs.Digest.Base64`).
-/

set_option autoImplicit false

namespace AccessGateway.Digest

/-- Sixty-four symbols in the order of their values. -/
structure Alphabet where
  symbols : List Char

namespace Alphabet

/-- The symbol of a value, which is below sixty-four wherever this is used. -/
def symbol (a : Alphabet) (n : Nat) : Char := a.symbols.getD n ' '

/-- The value of a symbol: its place in the order. -/
def value? (a : Alphabet) (c : Char) : Option Nat := a.symbols.idxOf? c

/-- Letters, digits, `-` and `_`, which need no escape in a URL. -/
def url : Alphabet :=
  ⟨"ABCDEFGHIJKLMNOPQRSTUVWXYZabcdefghijklmnopqrstuvwxyz0123456789-_".toList⟩

/-- The symbols of password hashes: `.`, `/`, letters and digits. -/
def crypt : Alphabet :=
  ⟨"./ABCDEFGHIJKLMNOPQRSTUVWXYZabcdefghijklmnopqrstuvwxyz0123456789".toList⟩

/-- Writes octets. The cases are a rest of one or two octets and a group of three, so the recursion
goes three octets at a time. -/
def encode (alphabet : Alphabet) : Bytes → List Char
  | [] => []
  | [a] =>
    [alphabet.symbol (a.toNat / 4), alphabet.symbol (a.toNat % 4 * 16)]
  | [a, b] =>
    [alphabet.symbol (a.toNat / 4), alphabet.symbol (a.toNat % 4 * 16 + b.toNat / 16),
     alphabet.symbol (b.toNat % 16 * 4)]
  | a :: b :: c :: rest =>
    alphabet.symbol (a.toNat / 4) :: alphabet.symbol (a.toNat % 4 * 16 + b.toNat / 16) ::
      alphabet.symbol (b.toNat % 16 * 4 + c.toNat / 64) :: alphabet.symbol (c.toNat % 64) ::
      encode alphabet rest

/-- The octets of the values of symbols. A single symbol holds less than an octet and is refused, as
are bits at the end that are not zero. -/
def assemble : List Nat → Option Bytes
  | [] => some []
  | [_] => none
  | [w, x] => if x % 16 = 0 then some [UInt8.ofNat (w * 4 + x / 16)] else none
  | [w, x, y] =>
    if y % 4 = 0 then
      some [UInt8.ofNat (w * 4 + x / 16), UInt8.ofNat (x % 16 * 16 + y / 4)]
    else none
  | w :: x :: y :: z :: rest => (assemble rest).map fun bytes =>
      UInt8.ofNat (w * 4 + x / 16) :: UInt8.ofNat (x % 16 * 16 + y / 4) ::
        UInt8.ofNat (y % 4 * 64 + z) :: bytes

/-- Reads octets. A character that is no symbol spoils the text, padding included. -/
def decode? (alphabet : Alphabet) (text : List Char) : Option Bytes :=
  (text.mapM' alphabet.value?).bind assemble

end Alphabet

end AccessGateway.Digest
