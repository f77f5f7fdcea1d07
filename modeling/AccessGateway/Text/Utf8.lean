/-!
# `AccessGateway.Text.Utf8`: octets and characters

The octets of a text in UTF-8, and the text that octets stand for. `Utf8.scan` cuts octets into
characters and malformed parts, each as long as it could still have become a character; a strict
reading refuses malformed parts and a lenient one replaces each by U+FFFD. Both are the same
scan, so they agree on every text that is well formed.

The scan is a fold of `Utf8.step` over the octets, whose state is the character that has begun.
The range of the next octet is part of that state: overlong forms, surrogates and numbers beyond
the last character are excluded by the range of the second octet alone.
-/

set_option autoImplicit false

namespace AccessGateway

/-- An octet string, such as a body, the parts of a token, or what is hashed. -/
abbrev Bytes := List UInt8

namespace Text

/-- The octets of a text in UTF-8. `ofUtf8?` reads them back. -/
def utf8 (text : String) : Bytes := text.toUTF8.data.toList

namespace Utf8

/-- What is still needed for a character that has begun: the number of further octets, the range of
the next one and the value of the bits so far. -/
structure Pending where
  missing : Nat
  low : Nat
  high : Nat
  value : Nat

/-- The start of a character of several octets. The range of the second octet leaves out
values that would be too small for so many octets, surrogates, and values beyond the last
character. -/
def pending? (first : Nat) : Option Pending :=
  if 0xC2 ≤ first ∧ first ≤ 0xDF then some ⟨1, 0x80, 0xBF, first % 32⟩
  else if first = 0xE0 then some ⟨2, 0xA0, 0xBF, 0⟩
  else if first = 0xED then some ⟨2, 0x80, 0x9F, 13⟩
  else if 0xE1 ≤ first ∧ first ≤ 0xEF then some ⟨2, 0x80, 0xBF, first % 16⟩
  else if first = 0xF0 then some ⟨3, 0x90, 0xBF, 0⟩
  else if first = 0xF4 then some ⟨3, 0x80, 0x8F, 4⟩
  else if 0xF1 ≤ first ∧ first ≤ 0xF3 then some ⟨3, 0x80, 0xBF, first % 8⟩
  else none

/-- Begins a character: what it leaves open, and the parts that are finished with it. An octet that
begins none is a malformed part by itself. -/
def start (octet : Nat) : Option Pending × List (Option Char) :=
  if octet < 0x80 then (none, [some (Char.ofNat octet)])
  else match pending? octet with
    | some p => (some p, [])
    | none => (none, [none])

/-- Takes one octet: what is left open afterwards, and the parts that are finished with it. An octet
out of range ends the open part as malformed and is then tried as a beginning. -/
def step (state : Option Pending) (octet : Nat) : Option Pending × List (Option Char) :=
  match state with
  | none => start octet
  | some p =>
    if p.low ≤ octet ∧ octet ≤ p.high then
      let value := p.value * 64 + octet % 64
      if p.missing ≤ 1 then (none, [some (Char.ofNat value)])
      else (some ⟨p.missing - 1, 0x80, 0xBF, value⟩, [])
    else
      let (next, parts) := start octet
      (next, none :: parts)

/-- The parts of an octet string from a state on; a character that never ends is malformed. -/
def scanFrom : Option Pending → Bytes → List (Option Char)
  | none, [] => []
  | some _, [] => [none]
  | state, octet :: rest =>
    let (next, parts) := step state octet.toNat
    parts ++ scanFrom next rest

/-- The characters of an octet string; `none` stands for a malformed part. No character is open at
the beginning. -/
def scan (bytes : Bytes) : List (Option Char) := scanFrom none bytes

/-- The character that replaces a malformed part, one for each part whatever its length. -/
def replacement : Char := '\uFFFD'

end Utf8

/-- The text that octets stand for, if all of them are well formed. -/
def ofUtf8? (bytes : Bytes) : Option String := ((Utf8.scan bytes).mapM' id).map String.ofList

/-- The text that octets stand for, with malformed parts replaced. This is the reading of
percent-encoded parameters, which never fail. -/
def ofUtf8Lossy (bytes : Bytes) : String :=
  String.ofList ((Utf8.scan bytes).map fun part => part.getD Utf8.replacement)

end Text

end AccessGateway
