import AccessGateway.Credential.Program
import AccessGateway.Http.Headers
import AccessGateway.Identity
import AccessGateway.Text.Split

/-!
# `AccessGateway.Login.Request`: who makes a request

A `RequestAuthenticator` looks at the header of a request and finds an identity, finds nothing
that concerns it, or fails. In a chain the first identity wins, and without one the first
failure. A failure does not end the search: an authenticator behind it may still claim the request.

Of the two authenticators here, the anonymous one claims requests whose header has no credentials or
blank ones, and the other one those with a bearer token that its verifier accepts. Requests with
credentials of any other form are claimed by neither.
-/

set_option autoImplicit false

namespace AccessGateway

/-- Finds the identity behind a header, if it is there. It may make calls to the credential
store. -/
abbrev RequestAuthenticator := Headers → Work (Option Identity)

/-- The header field that carries credentials. -/
def authorizationField : String := "authorization"

/-- The token that a header carries: the first authorization has the scheme `Bearer`, and a
blank and some text behind it. -/
def bearerToken? (headers : Headers) : Option String := do
  let value := (← headers.first? authorizationField).toList
  if value.all Headers.isPlainChar then
    let (scheme, rest) ← Text.splitOnce? ' ' value
    let token := Text.trim rest
    if scheme.map Char.toLower = "bearer".toList ∧ token ≠ [] then some (String.ofList token)
    else none
  else none

namespace RequestAuthenticator

/-- Finds the anonymous identity where there are no credentials: no authorization, or one of blanks
only. -/
def anonymous : RequestAuthenticator := fun headers =>
  let blank := match headers.first? authorizationField with
    | none => true
    | some value => value.toList.all Text.isAsciiBlank
  return if blank then some .anonymous else none

/-- How the failure of a verifier is shown to a client: only an unreachable store shows as what it
is, so that a client learns nothing of why a token is refused. -/
def coarse : Fault → Fault
  | .backend reason => .backend reason
  | _ => .incorrectCredential

/-- Finds the identity behind a token. Of what the verifier knows only the name is kept, so groups
and attributes are gone. -/
def bearer (verify : String → Work Identity) : RequestAuthenticator := fun headers =>
  match bearerToken? headers with
  | none => return none
  | some token => ExceptT.mk do
    match ← (verify token).run with
    | .ok identity => return .ok (some (.named identity.name))
    | .error fault => return .error (coarse fault)

/-- Asks authenticators in order; `first` is the first failure so far, which is the answer if none
of them claims the request. -/
def chainFrom (headers : Headers) :
    Option Fault → List RequestAuthenticator → Program (Outcome (Option Identity))
  | none, [] => return .ok none
  | some fault, [] => return .error fault
  | first, authenticator :: rest => do
    match ← (authenticator headers).run with
    | .ok (some identity) => return .ok (some identity)
    | .ok none => chainFrom headers first rest
    | .error fault => chainFrom headers (first <|> some fault) rest

/-- Asks authenticators in order, up to the first identity. -/
def chain (authenticators : List RequestAuthenticator) : RequestAuthenticator := fun headers =>
  ExceptT.mk (chainFrom headers none authenticators)

end RequestAuthenticator

end AccessGateway
