import AccessGateway.Text.Utf8

/-!
# `AccessGateway.Digest.Word`: octets and words

Digests work on words of 32 bits, which octet strings give with the most significant octet
first. Both the digest of tokens and the cipher of password hashes use this order, and numbers
are written into a padded message in it.
-/

set_option autoImplicit false

namespace AccessGateway.Digest

/-- The word of four octets, the first of which is the most significant. -/
def word (a b c d : UInt8) : UInt32 :=
  (a.toUInt32 <<< 24) ||| (b.toUInt32 <<< 16) ||| (c.toUInt32 <<< 8) ||| d.toUInt32

/-- The words of an octet string; octets beyond the last whole word are left out. -/
def words : Bytes → List UInt32
  | a :: b :: c :: d :: rest => word a b c d :: words rest
  | _ => []

/-- The four octets of a word, the most significant first, as `word` takes them. -/
def octets (w : UInt32) : Bytes :=
  [(w >>> 24).toUInt8, (w >>> 16).toUInt8, (w >>> 8).toUInt8, w.toUInt8]

/-- The octets of a number, `width` of them, the most significant first; higher ones are cut off. -/
def ofNat (width n : Nat) : Bytes :=
  (List.range width).reverse.map fun i => UInt8.ofNat (n >>> (8 * i))

end AccessGateway.Digest
