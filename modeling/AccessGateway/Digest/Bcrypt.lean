import AccessGateway.Digest.Base64
import AccessGateway.Digest.Blowfish
import AccessGateway.Text.Numeral
import AccessGateway.Text.Split

/-!
# `AccessGateway.Digest.Bcrypt`: password hashes

A password hash is written `$2b$CC$` with the cost `CC` in two digits, and behind it twenty-two
symbols of salt and thirty-one of digest. Two to the power of the cost is the number of rounds
of the key schedule. No more than seventy-two octets of a password count, which is a property of
the scheme: two long passwords with one beginning have one hash.

The digest is computed and not a parameter, so that whether a password belongs to a hash is
decided for given texts. The login takes `verifies` as it stands and asks nothing else of it.
-/

set_option autoImplicit false

namespace AccessGateway.Digest.Bcrypt

/-- The least and the greatest cost. Each step up doubles the work. -/
def costs : Nat × Nat := (4, 31)

/-- Whether a cost is allowed, both bounds included. -/
def isCost (cost : Nat) : Bool := costs.1 ≤ cost && cost ≤ costs.2

/-- The cost that is usual: the one used where none is asked for. -/
def usualCost : Nat := 12

/-- The octets of a password that count: a zero ends it, and the seventy-second is the last. The
zero tells a password from its repetitions. -/
def keyBytes (password : Bytes) : Bytes := (password ++ [0]).take 72

/-- Eighteen words of octets that are repeated over and over: seventy-two repetitions fill them
however short the octet string is, unless it is empty. -/
def cyclicWords (bytes : Bytes) : Array UInt32 :=
  (words ((List.replicate Blowfish.subkeyCount bytes).flatMap fun part =>
    part ++ part ++ part ++ part) |>.take Blowfish.subkeyCount).toArray

/-- The words of a salt of sixteen octets; any other counts as none. -/
def saltOf (salt : Bytes) : Blowfish.Salt :=
  match words salt with
  | [a, b, c, d] => ⟨a, b, c, d⟩
  | _ => .zero

/-- The text that is encrypted, twenty-four octets that are the same for all passwords. -/
def plainText : List UInt32 := words (Text.utf8 "OrpheanBeholderScryDoubt")

/-- Encrypts two words over and over, each time what came out before. -/
def encryptTimes (cipher : Blowfish) : Nat → UInt32 → UInt32 → UInt32 × UInt32
  | 0, left, right => (left, right)
  | count + 1, left, right =>
    let (left, right) := Blowfish.encrypt cipher.subkeys cipher.tables left right
    encryptTimes cipher count left right

/-- Encrypts words two by two, each pair sixty-four times. The pairs do not depend on each other. -/
def encryptPairs (cipher : Blowfish) : List UInt32 → List UInt32
  | a :: b :: rest =>
    let (left, right) := encryptTimes cipher 64 a b
    left :: right :: encryptPairs cipher rest
  | _ => []

/-- The digest of a password: the encrypted text without its last octet. The salt enters twice, in
the first run of the schedule and as the second key of all further ones. -/
def digest (cost : Nat) (salt password : Bytes) : Bytes :=
  let key := cyclicWords (keyBytes password)
  let cipher := Blowfish.alternate key (cyclicWords salt) (1 <<< cost)
    (Blowfish.initial.schedule (saltOf salt) key)
  ((encryptPairs cipher plainText).flatMap octets).take 23

/-- A password hash taken apart into what is written in it. -/
structure Hash where
  cost : Nat
  salt : Bytes
  digest : Bytes
  deriving DecidableEq, Repr

namespace Hash

/-- The versions that are understood; all mean the same, whatever differences they once stood
for. -/
def versions : List String := ["2y", "2b", "2a", "2x"]

/-- The written form, which always names the version `2b`. -/
def text (h : Hash) : String :=
  String.ofList ('$' :: '2' :: 'b' :: '$' :: (Text.Numeral.padded 2 h.cost ++ '$' ::
    (Alphabet.crypt.encode h.salt ++ Alphabet.crypt.encode h.digest)))

/-- Takes a written form apart. The digest is not checked for its own length, as that of the body
and of the salt leave it no other. -/
def read? (text : String) : Option Hash :=
  match Text.nonemptyPieces '$' text.toList with
  | [version, cost, body] => do
    let cost ← (Text.Numeral.readNat Text.Numeral.maxHalfWord cost).toOption
    let salt ← Alphabet.crypt.decode? (body.take 22)
    let digest ← Alphabet.crypt.decode? (body.drop 22)
    if String.ofList version ∈ versions ∧ isCost cost ∧ salt.length = 16 ∧ body.length = 53 then
      some { cost, salt, digest }
    else none
  | _ => none

end Hash

/-- The hash of a password under a cost and a salt of sixteen octets. -/
def hash (cost : Nat) (salt : Bytes) (password : String) : Hash :=
  { cost, salt, digest := digest cost salt (Text.utf8 password) }

/-- Whether a password belongs to a written hash. Text that is no hash belongs to none, so an
account with a malformed hash cannot be logged into. -/
def verifies (password hash : String) : Bool :=
  match Hash.read? hash with
  | some h => digest h.cost h.salt (Text.utf8 password) == h.digest
  | none => false

end AccessGateway.Digest.Bcrypt
