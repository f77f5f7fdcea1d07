import AccessGateway.Digest.Base64
import AccessGateway.Digest.Sha256
import AccessGateway.Json.Printer
import AccessGateway.Json.Reader
import AccessGateway.Settings.Basic
import AccessGateway.Text.Quoted

/-!
# `AccessGateway.Login.Token`: signed claims

An access token is a JSON Web Token: a header, claims and a signature, each in the URL alphabet
and separated by dots. The signature is the keyed digest of what stands before it. A
`TokenIssuer` signs claims in its own name and accepts only what it could have signed.

Issuing writes members in a fixed order, so a token is determined by issuer, user and second of
issue. Reading is more liberal: members may come in any order, a header may have further ones of the
right kinds, and claims further ones of any kind, but no name that matters may be given twice. The
checks are made in this order: the form of the token, its header, the signature, the claims, the
issuer, and the end with a leeway of a minute.
-/

set_option autoImplicit false

namespace AccessGateway

open Time (Duration)
open Digest (Alphabet)

/-- What a token says: whom it stands for, when it was issued and when it ends, in seconds since
1970, and who issued it. Without an end it is good forever. -/
structure Claims where
  subject : String
  issuedAt : Nat
  expiresAt : Option Nat
  issuer : String
  deriving DecidableEq, Repr

namespace Claims

/-- The kind of all tokens. -/
def tokenKind : String := "access_token"

/-- The members of the wire form in order. -/
def members (c : Claims) : List (String × Json) :=
  [("sub", .str c.subject), ("token_type", .str tokenKind), ("iat", Json.nat c.issuedAt)] ++
    (c.expiresAt.map fun stop => ("exp", Json.nat stop)).toList ++ [("iss", .str c.issuer)]

/-- The wire form. -/
def wire (c : Claims) : Json := Json.object c.members

/-- The names that no claims may give twice. -/
def names : List String := ["sub", "token_type", "iat", "exp", "iss"]

open Decoder in
/-- Reads the wire form. -/
def read : Json.Decoder Claims := fun value => do
  let parts ← record names value
  let subject ← required text "sub" parts
  let _ ← required (oneOf [(tokenKind, ())]) "token_type" parts
  let issuedAt ← required word "iat" parts
  let expiresAt ← defaulted (optional word) "exp" none parts
  let issuer ← required text "iss" parts
  return { subject, issuedAt, expiresAt, issuer }

/-- How long a token is good for. -/
def lifetime (c : Claims) : Option Int :=
  c.expiresAt.map fun stop => Int.ofNat stop - Int.ofNat c.issuedAt

end Claims

/-- The parts of a token. -/
structure SignedToken where
  /-- What is signed: the header and the claims with a dot between them. -/
  message : List Char
  header : Json
  claims : Json
  signature : Bytes

namespace SignedToken

/-- The text before the last dot and the text after it. -/
def splitLastDot? (text : List Char) : Option (List Char × List Char) :=
  (Text.splitOnce? '.' text.reverse).map fun (after, before) => (before.reverse, after.reverse)

/-- A JSON value in the URL alphabet. -/
def readJson? (text : List Char) : Option Json := do
  let bytes ← Alphabet.url.decode? text
  Json.read? (← Text.ofUtf8? bytes).toList

/-- Takes a token apart. -/
def read? (token : String) : Option SignedToken := do
  let (message, signature) ← splitLastDot? token.toList
  let (header, claims) ← splitLastDot? message
  return {
    message, header := ← readJson? header, claims := ← readJson? claims,
    signature := ← Alphabet.url.decode? signature }

/-- The name of the one signature method that is accepted. -/
def method : String := "HS256"

/-- The names of header members that hold a text. -/
def textMembers : List String :=
  ["typ", "cty", "jku", "kid", "x5u", "x5t", "x5t#S256", "enc", "zip", "url", "nonce"]

/-- The names of header members that hold a list of texts. -/
def listMembers : List String := ["x5c", "crit"]

/-- The texts that a key has to have, by its kind. -/
def keyMembers : List (String × List String) :=
  [("oct", ["k"]), ("RSA", ["n", "e"]), ("EC", ["crv", "x", "y"]), ("OKP", ["crv", "x"])]

/-- Whether a value is a key. -/
def isKey (value : Json) : Bool :=
  let kind := (value.field? "kty").bind Json.text?
  match kind.bind fun kind => keyMembers.lookup kind with
  | some names => names.all fun name => ((value.field? name).bind Json.text?).isSome
  | none => false

open Decoder in
/-- Whether a header member is well formed. Members without a meaning of their own are texts. -/
def isHeaderMember (name : String) (value : Json) : Bool :=
  if name = "alg" then (oneOf [(method, ())] value).isSome
  else if name ∈ listMembers then (optional (list text) value).isSome
  else if name = "jwk" then value = .null || isKey value
  else if name ∈ textMembers then (optional text value).isSome
  else (text value).isSome

/-- Whether a header announces the accepted signature method and is otherwise well formed. -/
def hasHeader (token : SignedToken) : Bool :=
  match token.header with
  | .obj members =>
    let known := members.map Prod.fst |>.filter fun name =>
      name = "alg" || name = "jwk" || name ∈ textMembers || name ∈ listMembers
    decide known.Nodup && "alg" ∈ known &&
      members.all fun (name, value) => isHeaderMember name value
  | _ => false

/-- The names of claims that a token may not give twice, whether or not they are used. -/
def uniqueClaims : List String := ["exp", "nbf", "sub", "iss", "aud"]

/-- Whether the claims give none of these names twice. -/
def hasUniqueClaims (token : SignedToken) : Bool :=
  match token.claims with
  | .obj members =>
    decide ((members.map Prod.fst).filter fun name => name ∈ uniqueClaims).Nodup
  | _ => true

/-- Whether the claims are an object whose end, if it gives one, is not left open by null. -/
def hasPlainEnd (token : SignedToken) : Bool :=
  match token.claims with
  | .obj members => members.lookup "exp" != some .null
  | _ => false

end SignedToken

/-- Who signs tokens: the name, the lifetime of what it issues, which is unlimited when zero, and
the secret. Whoever has name and secret can issue in its place. -/
structure TokenIssuer where
  name : String
  maxAge : Duration
  secret : String
  deriving DecidableEq, Repr

namespace TokenIssuer

/-- The issuer that the settings describe. -/
def ofOptions (o : AuthenticationOptions) : TokenIssuer :=
  { name := o.issuer, maxAge := o.accessTokenMaxAge, secret := o.jwtSecret }

/-- The form in logs, which does not show the secret. -/
def summary (i : TokenIssuer) : String :=
  "TokenIssuer \x7b issuer: " ++ Text.quoted i.name ++ ", max_age: " ++ i.maxAge.display ++
    ", .. \x7d"

/-- The signature of a message. -/
def signature (i : TokenIssuer) (message : List Char) : Bytes :=
  Digest.hmac (Text.utf8 i.secret) (Text.utf8 (String.ofList message))

/-- The header of all tokens. -/
def header : List Char :=
  Alphabet.url.encode (Text.utf8
    (Json.obj [("typ", .str "JWT"), ("alg", .str SignedToken.method)]).compact)

/-- Signs claims. -/
def sign (i : TokenIssuer) (claims : Claims) : String :=
  let body := Alphabet.url.encode (Text.utf8 (Json.obj claims.members).compact)
  let message := header ++ '.' :: body
  String.ofList (message ++ '.' :: Alphabet.url.encode (i.signature message))

/-- The claims of a token that is issued to a user at a time. The end is that of the lifetime in
whole seconds. -/
def claimsFor (i : TokenIssuer) (user : String) (seconds : Nat) : Claims where
  subject := user
  issuedAt := seconds
  expiresAt := if i.maxAge.isZero then none else some (seconds + i.maxAge.seconds)
  issuer := i.name

/-- A token for a user. It depends on the issuer, the user and the second, and on nothing else. -/
def issue (i : TokenIssuer) (user : String) (seconds : Nat) : String :=
  i.sign (i.claimsFor user seconds)

/-- A token that this issuer signed, taken apart, with a header and claims that are well formed.
What the claims say is not looked at yet. -/
def open? (i : TokenIssuer) (token : String) : Option SignedToken := do
  let signed ← SignedToken.read? token
  if signed.hasHeader ∧ signed.hasUniqueClaims ∧ signed.signature = i.signature signed.message then
    some signed
  else none

/-- The claims of a token that this issuer signed, whatever they say. -/
def signedClaims? (i : TokenIssuer) (token : String) : Option Claims :=
  (i.open? token).bind fun signed => Claims.read signed.claims

/-- How many seconds a token is still accepted after its end, since clocks may differ. -/
def leeway : Nat := 60

/-- Whether claims end early enough to be refused at a time. -/
def isOver (claims : Claims) (seconds : Nat) : Bool :=
  claims.expiresAt.any fun stop => stop + leeway < seconds

/-- The claims of a token that this issuer accepts: signed by it, in its own name, and not over.
Only an issuer of unlimited tokens accepts claims without an end. -/
def claims? (i : TokenIssuer) (token : String) (seconds : Nat) : Option Claims := do
  let signed ← i.open? token
  let claims ← Claims.read signed.claims
  if signed.hasPlainEnd ∧ (claims.expiresAt.isSome ∨ i.maxAge.isZero) ∧ claims.issuer = i.name ∧
      isOver claims seconds = false then
    some claims
  else none

/-- The claims of an accepted token, or the failure that all others have, whatever is wrong with
them. -/
def verify (i : TokenIssuer) (token : String) (seconds : Nat) : Outcome Claims :=
  match i.claims? token seconds with
  | some claims => .ok claims
  | none => .error .incorrectCredential

/-- The claims of a token with a good signature, or the failure that all others have. -/
def verifySignature (i : TokenIssuer) (token : String) : Outcome Claims :=
  match i.signedClaims? token with
  | some claims => .ok claims
  | none => .error .incorrectCredential

end TokenIssuer

end AccessGateway
