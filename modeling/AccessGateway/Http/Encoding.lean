import AccessGateway.Text.Hexadecimal
import AccessGateway.Text.Split
import AccessGateway.Text.Utf8

/-!
# `AccessGateway.Http.Encoding`: percent encoding and forms

Paths and forms write octets as a percent sign with two hexadecimal digits. A percent sign
without two digits stands for itself. Forms, and queries, are pairs of key and value, in which
a plus sign stands for a blank.

The two differ in what becomes of octets that are not UTF-8. A path segment with such octets is no
text at all, so that no two paths are taken for one. In a form each malformed part is replaced by
the replacement character, and the rest of the form is read.
-/

set_option autoImplicit false

namespace AccessGateway.Http

/-- The octets of a text in percent encoding. What an escape stands for is not decoded again. -/
def percentDecode : Bytes → Bytes
  | 37 :: a :: b :: rest =>
    match Text.hexNumber? [Char.ofNat a.toNat, Char.ofNat b.toNat] with
    | some n => UInt8.ofNat n :: percentDecode rest
    | none => 37 :: percentDecode (a :: b :: rest)
  | octet :: rest => octet :: percentDecode rest
  | [] => []
termination_by bytes => bytes.length

/-- The text of a path segment, unless its octets are not UTF-8. A plus sign is a plus sign here. -/
def segmentText? (segment : String) : Option String :=
  Text.ofUtf8? (percentDecode (Text.utf8 segment))

/-- The text of a key or value in a form. Plus signs are replaced first, so an encoded one stays. -/
def formText (text : List Char) : String :=
  let plain := text.map fun c => if c == '+' then ' ' else c
  Text.ofUtf8Lossy (percentDecode (Text.utf8 (String.ofList plain)))

/-- The pair of key and value in a part of a form; without an equals sign the value is empty. -/
def formPair (part : List Char) : String × String :=
  match Text.splitOnce? '=' part with
  | some (key, value) => (formText key, formText value)
  | none => (formText part, "")

/-- The pairs of a form in order. Empty parts between two ampersands are no pairs. -/
def formPairs (form : String) : List (String × String) :=
  (Text.nonemptyPieces '&' form.toList).map formPair

end AccessGateway.Http
