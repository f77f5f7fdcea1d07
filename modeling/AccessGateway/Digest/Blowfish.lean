import AccessGateway.Digest.Pi

/-!
# `AccessGateway.Digest.Blowfish`: a block cipher with a slow key schedule

The cipher turns two words into two words by sixteen rounds over eighteen subkeys and four
tables of 256 words. Its key schedule refills subkeys and tables with its own output, and
password hashes are slow to compute because they run that schedule many times over.

The tables are one array, and every loop counts down a number of steps, so all functions are
structural and can be run. Indices stay within bounds by construction; where the type does not
say so, a look-up has a default and an update beyond the end does nothing.
-/

set_option autoImplicit false

namespace AccessGateway.Digest

/-- A cipher with its key in it: the subkeys, and the four tables one after the other. -/
structure Blowfish where
  subkeys : Array UInt32
  tables : Array UInt32

namespace Blowfish

/-- How many subkeys there are: one for each round and two for the end. -/
def subkeyCount : Nat := 18

/-- How many words the tables have, all four together. -/
def tableSize : Nat := 4 * 256

/-- The words of a cipher without a key: the first of the fraction of π. -/
def initialWords : Array UInt32 := Pi.words (subkeyCount + tableSize)

/-- The cipher without a key. The subkeys come before the tables. -/
def initial : Blowfish :=
  ⟨initialWords.extract 0 subkeyCount, initialWords.extract subkeyCount (subkeyCount + tableSize)⟩

/-- The round function: the four octets of a word each choose a word of a table. -/
def substitute (tables : Array UInt32) (x : UInt32) : UInt32 :=
  let a := tables.getD (x >>> 24).toNat 0
  let b := tables.getD (256 + ((x >>> 16) &&& 0xff).toNat) 0
  let c := tables.getD (512 + ((x >>> 8) &&& 0xff).toNat) 0
  let d := tables.getD (768 + (x &&& 0xff).toNat) 0
  ((a + b) ^^^ c) + d

/-- Rounds from subkey `i` on, and after them the last two subkeys. The halves change places in each
round. -/
def rounds (subkeys tables : Array UInt32) : Nat → Nat → UInt32 → UInt32 → UInt32 × UInt32
  | 0, i, left, right =>
    (right ^^^ subkeys.getD (i + 1) 0, left ^^^ subkeys.getD i 0)
  | count + 1, i, left, right =>
    let left := left ^^^ subkeys.getD i 0
    rounds subkeys tables count (i + 1) (right ^^^ substitute tables left) left

/-- Encrypts two words, by as many rounds as there are subkeys beyond the last two. -/
def encrypt (subkeys tables : Array UInt32) (left right : UInt32) : UInt32 × UInt32 :=
  rounds subkeys tables (subkeyCount - 2) 0 left right

/-- Four words of salt, of which two at a time are taken. -/
structure Salt where
  a : UInt32
  b : UInt32
  c : UInt32
  d : UInt32
  deriving DecidableEq, Repr

namespace Salt

/-- No salt: words of zeros change nothing. -/
def zero : Salt := ⟨0, 0, 0, 0⟩

/-- The salt with its halves exchanged: after the first two words the last two are taken. -/
def turn (s : Salt) : Salt := ⟨s.c, s.d, s.a, s.b⟩

end Salt

/-- Refills `count` pairs of subkeys from position `i` on, by encrypting the last output with the
next words of the salt. Each encryption uses the subkeys that are already refilled. -/
def refillSubkeys (tables : Array UInt32) : Nat → Nat → Array UInt32 → Salt → UInt32 → UInt32 →
    Array UInt32 × Salt × UInt32 × UInt32
  | 0, _, subkeys, salt, left, right => (subkeys, salt, left, right)
  | count + 1, i, subkeys, salt, left, right =>
    let (left, right) := encrypt subkeys tables (left ^^^ salt.a) (right ^^^ salt.b)
    refillSubkeys tables count (i + 2) ((subkeys.setIfInBounds i left).setIfInBounds (i + 1) right)
      salt.turn left right

/-- Refills `count` pairs of table words from position `i` on, in the same way, with the tables that
are already refilled. -/
def refillTables (subkeys : Array UInt32) : Nat → Nat → Array UInt32 → Salt → UInt32 → UInt32 →
    Array UInt32
  | 0, _, tables, _, _, _ => tables
  | count + 1, i, tables, salt, left, right =>
    let (left, right) := encrypt subkeys tables (left ^^^ salt.a) (right ^^^ salt.b)
    refillTables subkeys count (i + 2) ((tables.setIfInBounds i left).setIfInBounds (i + 1) right)
      salt.turn left right

/-- One run of the key schedule with a salt and the eighteen words of a key. What the last subkeys
left of salt and output carries over to the tables. -/
def schedule (cipher : Blowfish) (salt : Salt) (key : Array UInt32) : Blowfish :=
  let keyed := cipher.subkeys.zipWith (· ^^^ ·) key
  let (subkeys, salt, left, right) :=
    refillSubkeys cipher.tables (subkeyCount / 2) 0 keyed salt 0 0
  ⟨subkeys, refillTables subkeys (tableSize / 2) 0 cipher.tables salt left right⟩

/-- Runs of the key schedule without a salt, by turns with one key and the other. The count is of
pairs of runs. -/
def alternate (first second : Array UInt32) : Nat → Blowfish → Blowfish
  | 0, cipher => cipher
  | count + 1, cipher =>
    alternate first second count ((cipher.schedule .zero first).schedule .zero second)

end Blowfish

end AccessGateway.Digest
