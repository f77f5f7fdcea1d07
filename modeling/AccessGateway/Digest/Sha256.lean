import AccessGateway.Digest.Word

/-!
# `AccessGateway.Digest.Sha256`: the SHA-256 digest and its keyed form

A message is padded to whole blocks of sixty-four octets, and each block is mixed into a state
of eight words. `hmac` is the digest under a key, by which tokens are signed: a token is accepted
only if its signature is the one this function gives.

Arithmetic is that of `UInt32`, so sums wrap around as they must. Results about tokens treat
`hmac` as a function and use nothing about it; no theorem assumes that it has no collisions.
-/

set_option autoImplicit false

namespace AccessGateway.Digest.Sha256

/-- The leading fraction bits of the cube roots of the first sixty-four primes. -/
def roundConstants : List UInt32 :=
  [0x428a2f98, 0x71374491, 0xb5c0fbcf, 0xe9b5dba5, 0x3956c25b, 0x59f111f1, 0x923f82a4, 0xab1c5ed5,
   0xd807aa98, 0x12835b01, 0x243185be, 0x550c7dc3, 0x72be5d74, 0x80deb1fe, 0x9bdc06a7, 0xc19bf174,
   0xe49b69c1, 0xefbe4786, 0x0fc19dc6, 0x240ca1cc, 0x2de92c6f, 0x4a7484aa, 0x5cb0a9dc, 0x76f988da,
   0x983e5152, 0xa831c66d, 0xb00327c8, 0xbf597fc7, 0xc6e00bf3, 0xd5a79147, 0x06ca6351, 0x14292967,
   0x27b70a85, 0x2e1b2138, 0x4d2c6dfc, 0x53380d13, 0x650a7354, 0x766a0abb, 0x81c2c92e, 0x92722c85,
   0xa2bfe8a1, 0xa81a664b, 0xc24b8b70, 0xc76c51a3, 0xd192e819, 0xd6990624, 0xf40e3585, 0x106aa070,
   0x19a4c116, 0x1e376c08, 0x2748774c, 0x34b0bcb5, 0x391c0cb3, 0x4ed8aa4a, 0x5b9cca4f, 0x682e6ff3,
   0x748f82ee, 0x78a5636f, 0x84c87814, 0x8cc70208, 0x90befffa, 0xa4506ceb, 0xbef9a3f7, 0xc67178f2]

/-- The state of a digest, eight words named as in the rounds. -/
structure State where
  a : UInt32
  b : UInt32
  c : UInt32
  d : UInt32
  e : UInt32
  f : UInt32
  g : UInt32
  h : UInt32
  deriving DecidableEq, Repr

namespace State

/-- The leading fraction bits of the square roots of the first eight primes: the state before any
block. -/
def start : State :=
  ⟨0x6a09e667, 0xbb67ae85, 0x3c6ef372, 0xa54ff53a, 0x510e527f, 0x9b05688c, 0x1f83d9ab, 0x5be0cd19⟩

/-- The octets of a state, which after the last block are the digest. -/
def bytes (s : State) : Bytes := [s.a, s.b, s.c, s.d, s.e, s.f, s.g, s.h].flatMap octets

/-- Word by word addition, each wrapping around by itself. -/
def add (s t : State) : State :=
  ⟨s.a + t.a, s.b + t.b, s.c + t.c, s.d + t.d, s.e + t.e, s.f + t.f, s.g + t.g, s.h + t.h⟩

end State

/-- Rotation to the right, by fewer than thirty-two bits and more than none. -/
def rotate (x n : UInt32) : UInt32 := (x >>> n) ||| (x <<< (32 - n))

/-- One round with a constant and a word of the schedule. Two words are new and the others move on
by one place. -/
def round (s : State) (constant scheduled : UInt32) : State :=
  let mixE := rotate s.e 6 ^^^ rotate s.e 11 ^^^ rotate s.e 25
  let choice := (s.e &&& s.f) ^^^ ((~~~ s.e) &&& s.g)
  let first := s.h + mixE + choice + constant + scheduled
  let mixA := rotate s.a 2 ^^^ rotate s.a 13 ^^^ rotate s.a 22
  let majority := (s.a &&& s.b) ^^^ (s.a &&& s.c) ^^^ (s.b &&& s.c)
  ⟨first + mixA + majority, s.a, s.b, s.c, s.d + first, s.e, s.f, s.g⟩

/-- The next word of a schedule, from the sixteen before it, the oldest of which has index `i`. -/
def nextWord (schedule : Array UInt32) (i : Nat) : UInt32 :=
  let x := schedule.getD (i + 14) 0
  let y := schedule.getD (i + 1) 0
  (rotate x 17 ^^^ rotate x 19 ^^^ (x >>> 10)) + schedule.getD (i + 9) 0 +
    (rotate y 7 ^^^ rotate y 18 ^^^ (y >>> 3)) + schedule.getD i 0

/-- The sixty-four words that a block of sixteen is spread to: the block itself and forty-eight
more. -/
def schedule (block : List UInt32) : List UInt32 :=
  ((List.range 48).foldl (fun words i => words.push (nextWord words i)) block.toArray).toList

/-- Mixes a block into a state: sixty-four rounds, whose result is added to the state before
them. -/
def compress (s : State) (block : List UInt32) : State :=
  s.add ((roundConstants.zip (schedule block)).foldl (fun s (k, w) => round s k w) s)

/-- Mixes a sequence of words into a state, sixteen at a time. Fewer than sixteen are left only
where the message was not padded. -/
def compressAll (s : State) (message : List UInt32) : State :=
  if _h : 16 ≤ message.length then compressAll (compress s (message.take 16)) (message.drop 16)
  else s
termination_by message.length
decreasing_by simp only [List.length_drop]; omega

/-- A message with a one bit, zeros and its length in bits behind it. There are as many zeros as
fill the last block. -/
def pad (message : Bytes) : Bytes :=
  message ++ 0x80 :: List.replicate ((119 - message.length % 64) % 64) 0 ++
    ofNat 8 (8 * message.length)

end AccessGateway.Digest.Sha256

namespace AccessGateway.Digest

/-- The SHA-256 digest of a message, thirty-two octets. -/
def sha256 (message : Bytes) : Bytes :=
  (Sha256.compressAll .start (words (Sha256.pad message))).bytes

/-- The key of a block's length: longer keys are digested, and zeros fill the rest. -/
def blockKey (key : Bytes) : Bytes :=
  let key := if key.length > 64 then sha256 key else key
  key ++ List.replicate (64 - key.length) 0

/-- The digest of a message under a key. The key enters on both sides of an inner digest, under two
masks. -/
def hmac (key message : Bytes) : Bytes :=
  let key := blockKey key
  sha256 (key.map (· ^^^ 0x5c) ++ sha256 (key.map (· ^^^ 0x36) ++ message))

end AccessGateway.Digest
