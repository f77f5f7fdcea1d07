import AccessGateway.Gateway.Endpoint
import AccessGateway.Http.Request
import AccessGateway.Http.Response
import AccessGateway.Login.Password
import AccessGateway.Login.Request
import AccessGateway.Login.Sessions

/-!
# `AccessGateway.Gateway.Basic`: answering requests

The gateway tells whether its cache is synced, trades passwords for tokens, and answers the
protected endpoints for whoever the authenticators find behind a request.

`Gateway.route` goes by the path. Health and tokens are open to all. Everything else is protected:
authentication comes before everything else about a protected path, its method included, so a path
that nobody may see refuses a wrong method and a wrong name in the same way as a right one. Only
then come the names in the path (`Endpoint.decoded?`), the parameters, the permission and the
content, in the order of `Endpoint.answer`.

A request is answered by a `Program`, since an authenticator may have to ask the credential store.
The cluster state is read from the cache and never asked for, so what is known of the caller after
authentication decides the rest (`Gateway.answerFor`).
-/

set_option autoImplicit false

namespace AccessGateway

/-- What a path leads to: the state of the gateway, the tokens, or a protected endpoint, with the
names in it as they are written. -/
inductive Route where
  | health
  | token
  | api (endpoint : Endpoint)
  deriving DecidableEq, Repr

/-- The route of a path. There is none for a path that no endpoint has, which is answered without
authentication. -/
def Route.ofTarget? (target : Target) : Option Route :=
  match target.segments with
  | ["", "healthz"] => some .health
  | ["", "oauth", "token"] => some .token
  | "" :: rest => (Endpoint.ofSegments? rest).map .api
  | _ => none

/-- A request for a token: the kind of grant, and the name and password for it. Name and password
are empty where the form does not give them. -/
structure TokenRequest where
  grant : String
  name : String
  password : String
  deriving DecidableEq, Repr

namespace TokenRequest

/-- The names of the fields of the form. Fields of other names may stand in a form and are ignored,
however often. -/
def fields : List String := ["grant_type", "username", "password"]

/-- Reads the form. The kind of grant must be given, and no field twice. -/
def read? (form : List (String × String)) : Option TokenRequest := do
  let given := form.filter fun (key, _) => fields.contains key
  let grant ← given.lookup "grant_type"
  if (given.map Prod.fst).Nodup then
    some ⟨grant, (given.lookup "username").getD "", (given.lookup "password").getD ""⟩
  else none

/-- The one kind of grant there is: the name and password of a user for a token. -/
def passwordGrant : String := "password"

/-- The answer to a request for any other kind of grant. It has a form of its own, the one of the
protocol for tokens, and is not a fault of the gateway. -/
def unsupported (grant : String) : Response :=
  ⟨400, .json (Json.object [("error", .str "unsupported_grant_type"),
    ("error_description", .str ("grant type '" ++ grant ++ "' is not supported"))])⟩

end TokenRequest

/-- A gateway: the cluster state and how logins are checked. Its credential store is not a part of
it, since that is shared with others and asked by calls. -/
structure Gateway where
  objects : ObjectCache
  options : AuthenticationOptions

namespace Gateway

/-- Logins with the accounts of the cluster, as the options limit them. -/
def passwords (g : Gateway) : PasswordLogin := .ofOptions g.objects.users g.options

/-- The tokens of the gateway, signed and recorded as the options say. -/
def sessions (g : Gateway) : Sessions := .ofOptions g.options

/-- Finds the identity behind a request: anonymous without credentials, or else by token. The order
matters only for requests that both could claim, of which there are none. -/
def authenticator (g : Gateway) : RequestAuthenticator :=
  .chain [.anonymous, .bearer g.sessions.verify]

/-- Whether the gateway is ready: it is when its cache has synced. Until then it answers that it
cannot serve, and not that it failed. -/
def health (g : Gateway) : Response :=
  if g.objects.hasSynced then ⟨200, .text "ok"⟩ else ⟨503, .text "object cache not synced"⟩

/-- Logs in with a password and issues a token. A login that is refused issues none. -/
def grantToken (g : Gateway) (name password : String) : Work Json := do
  let identity ← g.passwords.authenticate name password
  return (← g.sessions.issueTo identity).wire

/-- Answers a request for a token. The method, the kind of body and the form are checked in this
order, and nothing is asked of the store before all of them are right. -/
def answerToken (g : Gateway) (request : Request) : Program Response := do
  if request.method ≠ "POST" then return .noMethod
  if request.hasForm = false then return .refused 415
  match TokenRequest.read? (Http.formPairs request.body) with
  | none => return .refused 422
  | some form =>
    if form.grant ≠ TokenRequest.passwordGrant then return TokenRequest.unsupported form.grant
    return .ofOutcome (← (g.grantToken form.name form.password).run)

/-- Answers a protected endpoint for an identity. The names in the path are decoded here, after
authentication, and a name that is no text is a bad request. -/
def answerFor (g : Gateway) (caller : Identity) (request : Request) (endpoint : Endpoint) :
    Response :=
  if request.isRead = false then .noMethod
  else match endpoint.decoded? with
    | none => .refused 400
    | some endpoint =>
      .ofOutcome (endpoint.answer g.objects caller (Http.formPairs request.target.query))

/-- Answers a protected endpoint. A request that no authenticator claims is refused, and so is one
whose claim fails, with the fault of that failure. -/
def answerApi (g : Gateway) (request : Request) (endpoint : Endpoint) : Program Response := do
  match ← (g.authenticator request.headers).run with
  | .ok (some caller) => return g.answerFor caller request endpoint
  | .ok none => return .unauthorized
  | .error fault => return .ofFault fault

/-- Answers a request by its route. The open paths look at the method themselves, while a protected
path leaves it to `answerFor`. -/
def route (g : Gateway) (request : Request) : Program Response :=
  match Route.ofTarget? request.target with
  | none => return .noRoute
  | some .health => return if request.isRead then g.health else .noMethod
  | some .token => g.answerToken request
  | some (.api endpoint) => g.answerApi request endpoint

/-- Answers a request. Where only the header is asked for, no body is sent, but its kind and its
length are told as if it were. -/
def answer (g : Gateway) (request : Request) : Program Response := do
  let response ← g.route request
  return if request.method = "HEAD" then response.withoutBody else response

end Gateway

end AccessGateway
