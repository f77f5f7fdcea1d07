import AccessGateway.Fault
import AccessGateway.Json.Printer

/-!
# `AccessGateway.Http.Response`: answers to requests

A response has a status and a body. One with status 401 asks for a bearer token. Failures are
answered with their status and a JSON body that repeats it beside the wording.

A request may ask for the header alone. The body is then withheld, but not all that is known of it:
the header fields that describe it are made from the body before it is dropped, so they still give
its media type and its length.
-/

set_option autoImplicit false

namespace AccessGateway

/-- What the header of a response says of its body: the media type, unless there is no body, and the
number of octets, where it is known here. It is what is left of a body to those who ask for the
header alone. -/
structure ContentFields where
  mediaType : Option String
  length : Option Nat
  deriving DecidableEq, Repr

/-- What a response carries. The wording of a refusal is left to the framework. Of a body that was
withheld the header fields are left. -/
inductive Body where
  | json (value : Json)
  | text (content : String)
  | refusal
  | empty
  | withheld (fields : ContentFields)
  deriving DecidableEq

namespace Body

/-- The media type of bodies that are text. -/
def plainText : String := "text/plain; charset=utf-8"

/-- The header fields of a body. A JSON value is sent without any blank, so its length is that of
its compact form. -/
def fields : Body → ContentFields
  | json value => ⟨some "application/json", some value.compact.utf8ByteSize⟩
  | text content => ⟨some plainText, some content.utf8ByteSize⟩
  | refusal => ⟨some plainText, none⟩
  | empty => ⟨none, some 0⟩
  | withheld fields => fields

end Body

/-- An answer to a request. The other header fields follow from the status, as `asksForToken`
does. -/
structure Response where
  status : Nat
  body : Body
  deriving DecidableEq

namespace Response

/-- The status of a request without accepted credentials. -/
def unauthorizedStatus : Nat := 401

/-- Whether the response asks for a bearer token. It does exactly when credentials were missing
or refused. -/
def asksForToken (r : Response) : Bool := r.status == unauthorizedStatus

/-- The response without its body, with the header fields that the body had. What is withheld stays
withheld, and has its fields still. -/
def withoutBody (r : Response) : Response := { r with body := .withheld r.body.fields }

/-- The body of a failure. It says its own status, so that it can be read apart from the header. -/
def failureBody (status : Nat) (message : String) : Json :=
  Json.object [("code", Json.nat status), ("message", .str message)]

/-- A failure with a status and a wording. -/
def failure (status : Nat) (message : String) : Response :=
  ⟨status, .json (failureBody status message)⟩

/-- The answer to a request that no authenticator accepted. It does not say what was wrong. -/
def unauthorized : Response := failure unauthorizedStatus "Unauthorized"

/-- The answer to a request that failed: the kind of fault decides about the status, and its message
is the wording. -/
def ofFault (f : Fault) : Response := failure f.status f.message

/-- The answer to a request that succeeded. -/
def ok (value : Json) : Response := ⟨200, .json value⟩

/-- The answer to a request, whether it succeeded or failed. -/
def ofOutcome (outcome : Outcome Json) : Response :=
  match outcome with
  | .ok value => ok value
  | .error f => ofFault f

/-- The answer to a request that cannot be read as what its route takes. The wording is not of this
gateway. -/
def refused (status : Nat) : Response := ⟨status, .refusal⟩

/-- The answer to a request for nothing that there is. -/
def noRoute : Response := ⟨404, .empty⟩

/-- The answer to a request whose route does not know the method. -/
def noMethod : Response := ⟨405, .empty⟩

end Response

end AccessGateway
