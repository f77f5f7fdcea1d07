import AccessGateway.Credential.Program
import AccessGateway.Identity
import AccessGateway.Login.Token

/-!
# `AccessGateway.Login.Sessions`: tokens on record

Tokens with an end are recorded in the credential store for as long as they are good, so that
they can be revoked: a token without a record is refused however well it is signed. Where a
user may be logged in only once, issuing a token revokes the others first.

Records are found by their keys, which hold the name of the user and the token. Revocation lists the
keys that match a pattern and removes those that it found; issuing lists, removes and records, each
with a call of its own. Tokens without an end have no record, and cannot be revoked.
-/

set_option autoImplicit false

namespace AccessGateway

/-- Issues, verifies and revokes tokens. Whether a user may have several at once is a setting. -/
structure Sessions where
  issuer : TokenIssuer
  multipleLogin : Bool
  deriving DecidableEq, Repr

/-- A token that was issued, and the seconds for which it is good. -/
structure IssuedToken where
  token : String
  expiresIn : Option Nat
  deriving DecidableEq, Repr

namespace IssuedToken

/-- The wire form around the text that stands for the token. -/
def wireAs (issued : IssuedToken) (token : String) : Json :=
  Json.objectOf
    [("access_token", some (.str token)), ("token_type", some (.str "Bearer")),
     ("expires_in", issued.expiresIn.map Json.nat)]

/-- The wire form. -/
def wire (issued : IssuedToken) : Json := issued.wireAs issued.token

end IssuedToken

namespace Sessions

/-- Sessions under the settings. -/
def ofOptions (o : AuthenticationOptions) : Sessions :=
  { issuer := .ofOptions o, multipleLogin := o.multipleLogin }

/-- Where a token of a user is recorded. The name stands in the key as it is. -/
def recordKey (user token : String) : String := "kubesphere:user:" ++ user ++ ":token:" ++ token

/-- The pattern that the records of a user match: the literal text up to the token, with what a
pattern would take as a mark escaped, and anything behind it. -/
def recordPattern (user : String) : String :=
  recordKey (String.ofList (Text.Glob.escape user.toList)) "" ++ "*"

/-- Revokes all tokens of a user that are on record, and counts them. Without any, nothing is
removed. -/
def revokeAll (user : String) : Work Nat := do
  let keys ← Work.keys (recordPattern user)
  if keys.isEmpty then return 0
  Work.del keys

/-- The seconds of an instant. -/
def secondsOf (now : Instant) : Nat := now / 1000

/-- Issues a token to an identity. It is put on record last, after the others were revoked if the
user may have only one. -/
def issueTo (sessions : Sessions) (user : Identity) : Work IssuedToken := do
  let token := sessions.issuer.issue user.name (secondsOf (← Work.now))
  let maxAge := sessions.issuer.maxAge
  -- unlimited tokens are not recorded, so there is nothing to revoke
  if maxAge.isZero then return { token, expiresIn := none }
  if sessions.multipleLogin = false then
    let _ ← revokeAll user.name
  Work.set (recordKey user.name token) token (some maxAge)
  return { token, expiresIn := some maxAge.seconds }

/-- The identity behind a token: accepted by the issuer, and on record unless tokens are
unlimited. -/
def verify (sessions : Sessions) (token : String) : Work Identity := do
  let claims ← Work.ofOutcome (sessions.issuer.verify token (secondsOf (← Work.now)))
  if sessions.issuer.maxAge.isZero then return .named claims.subject
  if ← Work.exists [recordKey claims.subject token] then return .named claims.subject
  throw .incorrectCredential

end Sessions

end AccessGateway
