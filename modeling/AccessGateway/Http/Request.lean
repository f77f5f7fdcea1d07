import AccessGateway.Http.Headers
import AccessGateway.Text.Split

/-!
# `AccessGateway.Http.Request`: requests

A request has a method, a target, header fields and a body. The target is a path with an
optional query; a fragment does not reach the gateway.

Path and query are kept as they are written. Which of their characters may be there is checked when
the target is read (`Target.read?`), and what percent encoding stands for is a matter of whoever
uses a segment or a parameter, since a slash that is encoded does not end a segment.
-/

set_option autoImplicit false

namespace AccessGateway

/-- What a request is for: a path in its written form, and the query behind it. -/
structure Target where
  path : String
  query : String
  deriving DecidableEq, Repr

namespace Target

/-- Whether a character may stand in a path as it is. Characters beyond ASCII may. -/
def isPathChar (c : Char) : Bool :=
  let n := c.toNat
  n == 0x21 || n == 0x22 || (0x24 ≤ n && n ≤ 0x3B) || n == 0x3D || (0x40 ≤ n && n ≤ 0x5F) ||
    0x61 ≤ n

/-- Whether a character may stand in a query as it is. Unlike in a path, a quotation mark may not,
and a question mark may. -/
def isQueryChar (c : Char) : Bool :=
  let n := c.toNat
  n == 0x21 || (0x24 ≤ n && n ≤ 0x3B) || n == 0x3D || 0x3F ≤ n

/-- Reads a target. It has to begin with a slash, and what follows the first `#` is not looked
at. -/
def read? (text : String) : Option Target :=
  let shown := text.toList.takeWhile (· != '#')
  let path := shown.takeWhile (· != '?')
  let query := shown.drop (path.length + 1)
  if path.head? == some '/' && path.all isPathChar && query.all isQueryChar then
    some ⟨String.ofList path, String.ofList query⟩
  else none

/-- The parts of the path between slashes; the one before the first slash is empty. A slash at the
end leaves an empty part behind it. -/
def segments (t : Target) : List String := (Text.pieces '/' t.path.toList).map String.ofList

end Target

/-- A request. Its method is compared as it is written, case included. -/
structure Request where
  method : String
  target : Target
  headers : Headers
  body : String
  deriving DecidableEq, Repr

namespace Request

/-- Whether a request is for what its target shows, be it the whole answer or its header. -/
def isRead (r : Request) : Bool := r.method == "GET" || r.method == "HEAD"

/-- The media type of forms. -/
def formType : String := "application/x-www-form-urlencoded"

/-- Whether the body is announced as a form. Parameters may follow the media type, as for a
character set. -/
def hasForm (r : Request) : Bool :=
  match r.headers.first? "content-type" with
  | some type => formType.toList.isPrefixOf type.toList && type.toList.all Headers.isPlainChar
  | none => false

end Request

end AccessGateway
