import AccessGateway.Fault
import AccessGateway.Document
import AccessGateway.Time.Duration

/-!
# `AccessGateway.Settings.Basic`: what an installation chooses

The settings of a gateway by section, with their defaults, their reading from a value tree and
their wire form. Authentication, credential store and cluster cache are optional sections; the
signing secret is the one setting without which the gateway does not start.

The defaults stand in the structures, and the readers take them from there: a field that is left out
is the field of the empty section. A section may be left out, or be null, which are two things for
the optional ones. Left out it has its default, and null it is absent. Fields that a section does
not have are ignored.

Reading and writing are not inverse to each other. Lengths of time are written in whole seconds,
and whoever reads them accepts more forms than are written.
-/

set_option autoImplicit false

namespace AccessGateway

open Time (Duration)

namespace Time.Duration

/-- Reads a length of time that is given as a text. A number without quotes is none. -/
def decode : Json.Decoder Duration := fun value => value.text?.bind fun text => (read text).toOption

end Time.Duration

/-- How requests are expected to authenticate. There is one way, and it has a name of its own in the
settings. -/
inductive AuthMode where
  | token
  deriving DecidableEq, Repr

/-- The modes by name. -/
def AuthMode.byName : List (String × AuthMode) := [("token", .token)]

/-- The name of a mode. -/
def AuthMode.name : AuthMode → String
  | .token => "token"

/-- Where the gateway listens. The default address stands for all that the machine has. -/
structure ServerOptions where
  host : String := "0.0.0.0"
  port : Nat := 9090
  deriving DecidableEq, Repr

/-- How logins are checked and tokens are issued. A lifetime of zero is unlimited, and zero
tries turn the lockout off. -/
structure AuthenticationOptions where
  jwtSecret : String := ""
  issuer : String := "kubesphere"
  accessTokenMaxAge : Duration := .ofSeconds 7200
  multipleLogin : Bool := true
  maxTries : Nat := 10
  lockoutWindow : Duration := .ofSeconds 600
  storeTimeout : Duration := .ofSeconds 3
  deriving DecidableEq, Repr

/-- Where the shared credential store is. Without this section there is none, and the gateway keeps
its records itself. -/
structure RedisOptions where
  host : String := ""
  port : Nat := 6379
  password : String := ""
  db : Int := 0
  deriving DecidableEq, Repr

/-- What the cluster cache is seeded from and how long its sync may take. Without a snapshot the
cache is seeded with nothing. -/
structure ClusterOptions where
  snapshot : Option String := none
  syncTimeout : Duration := .ofSeconds 30
  deriving DecidableEq, Repr

/-- All settings. Each field holds what is said of it, or its default. -/
structure Settings where
  envFiles : List String := []
  server : ServerOptions := {}
  authMode : AuthMode := .token
  authentication : Option AuthenticationOptions := some {}
  redis : Option RedisOptions := none
  cluster : Option ClusterOptions := some {}
  deriving DecidableEq, Repr

instance : Inhabited AuthenticationOptions := ⟨{}⟩
instance : Inhabited ClusterOptions := ⟨{}⟩
instance : Inhabited Settings := ⟨{}⟩

/-- The largest port number. A larger one is refused when it is read. -/
def maxPort : Nat := 65535

/-! ### Reading -/

open Decoder

/-- Reads the listener's section. -/
def ServerOptions.read : Json.Decoder ServerOptions := fun value => do
  let parts ← record ["host", "port"] value
  let absent : ServerOptions := {}
  let host ← defaulted text "host" absent.host parts
  let port ← defaulted (natural maxPort) "port" absent.port parts
  return { host, port }

namespace AuthenticationOptions

/-- The names of the fields. -/
def fields : List String :=
  ["jwtSecret", "issuer", "accessTokenMaxAge", "multipleLogin", "authenticateRateLimiterMaxTries",
    "authenticateRateLimiterDuration", "storeTimeout"]

/-- The secret goes by a second name, since variables give names in lower case. Where both names are
given, the parts have one name twice. -/
def unaliased : Json → Json
  | .obj members => .obj (members.map fun (key, value) =>
      (if key = "jwtsecret" then "jwtSecret" else key, value))
  | value => value

/-- The options that the parts of the section make. -/
def ofParts? (parts : List (String × Json)) : Option AuthenticationOptions := do
  let absent : AuthenticationOptions := {}
  let jwtSecret ← defaulted text "jwtSecret" absent.jwtSecret parts
  let issuer ← defaulted text "issuer" absent.issuer parts
  let accessTokenMaxAge ←
    defaulted Duration.decode "accessTokenMaxAge" absent.accessTokenMaxAge parts
  let multipleLogin ← defaulted flag "multipleLogin" absent.multipleLogin parts
  let maxTries ←
    defaulted (natural Text.Numeral.maxHalfWord) "authenticateRateLimiterMaxTries"
      absent.maxTries parts
  let lockoutWindow ←
    defaulted Duration.decode "authenticateRateLimiterDuration" absent.lockoutWindow parts
  let storeTimeout ← defaulted Duration.decode "storeTimeout" absent.storeTimeout parts
  return {
    jwtSecret, issuer, accessTokenMaxAge, multipleLogin, maxTries, lockoutWindow, storeTimeout }

/-- Reads the authentication section. -/
def read : Json.Decoder AuthenticationOptions := fun value =>
  (record fields (unaliased value)).bind ofParts?

end AuthenticationOptions

namespace RedisOptions

/-- Reads the section of the shared credential store. -/
def read : Json.Decoder RedisOptions := fun value => do
  let parts ← record ["host", "port", "password", "db"] value
  let absent : RedisOptions := {}
  let host ← defaulted text "host" absent.host parts
  let port ← defaulted (natural maxPort) "port" absent.port parts
  let password ← defaulted text "password" absent.password parts
  let db ← defaulted signed "db" absent.db parts
  return { host, port, password, db }

/-- The connection URL. Host and password are put into it as they are, without an escape for
characters that mean something in a URL. -/
def url (o : RedisOptions) : String :=
  let place := o.host ++ ":" ++ Text.natText o.port ++ "/" ++ Text.intText o.db
  if o.password = "" then "redis://" ++ place else "redis://:" ++ o.password ++ "@" ++ place

end RedisOptions

/-- Reads the section of the cluster cache. -/
def ClusterOptions.read : Json.Decoder ClusterOptions := fun value => do
  let parts ← record ["snapshot", "syncTimeout"] value
  let absent : ClusterOptions := {}
  let snapshot ← defaulted (optional text) "snapshot" absent.snapshot parts
  let syncTimeout ← defaulted Duration.decode "syncTimeout" absent.syncTimeout parts
  return { snapshot, syncTimeout }

namespace Settings

/-- The names of the sections. -/
def fields : List String :=
  ["envFiles", "server", "authMode", "authentication", "redis", "kubernetes"]

/-- The settings that the sections make. -/
def ofParts? (parts : List (String × Json)) : Option Settings := do
  let absent : Settings := {}
  let envFiles ← defaulted (list text) "envFiles" absent.envFiles parts
  let server ← defaulted ServerOptions.read "server" absent.server parts
  let authMode ← defaulted (oneOf AuthMode.byName) "authMode" absent.authMode parts
  let authentication ←
    defaulted (optional AuthenticationOptions.read) "authentication" absent.authentication parts
  let redis ← defaulted (optional RedisOptions.read) "redis" absent.redis parts
  let cluster ← defaulted (optional ClusterOptions.read) "kubernetes" absent.cluster parts
  return { envFiles, server, authMode, authentication, redis, cluster }

/-- Reads settings, of which every section may be left out. -/
def read : Json.Decoder Settings := fun value => (record fields value).bind ofParts?

end Settings

/-! ### Writing -/

/-- The wire form of the listener's section. -/
def ServerOptions.wire (o : ServerOptions) : Json :=
  Json.object [("host", .str o.host), ("port", Json.nat o.port)]

/-- The wire form of the authentication section. -/
def AuthenticationOptions.wire (o : AuthenticationOptions) : Json :=
  Json.object
    [("jwtSecret", .str o.jwtSecret), ("issuer", .str o.issuer),
     ("accessTokenMaxAge", .str o.accessTokenMaxAge.text),
     ("multipleLogin", .bool o.multipleLogin),
     ("authenticateRateLimiterMaxTries", Json.nat o.maxTries),
     ("authenticateRateLimiterDuration", .str o.lockoutWindow.text),
     ("storeTimeout", .str o.storeTimeout.text)]

/-- The wire form of the section of the shared credential store. -/
def RedisOptions.wire (o : RedisOptions) : Json :=
  Json.object
    [("host", .str o.host), ("port", Json.nat o.port), ("password", .str o.password),
     ("db", .num o.db)]

/-- The wire form of the section of the cluster cache. -/
def ClusterOptions.wire (o : ClusterOptions) : Json :=
  Json.object
    [("snapshot", Json.ofText? o.snapshot), ("syncTimeout", .str o.syncTimeout.text)]

namespace Settings

/-- The wire form of all settings; an absent section is null. -/
def wire (s : Settings) : Json :=
  Json.object
    [("envFiles", Json.strings s.envFiles), ("server", s.server.wire),
     ("authMode", .str s.authMode.name),
     ("authentication", (s.authentication.map AuthenticationOptions.wire).getD .null),
     ("redis", (s.redis.map RedisOptions.wire).getD .null),
     ("kubernetes", (s.cluster.map ClusterOptions.wire).getD .null)]

/-- Which optional sections there are, without what they hold. No secret is in it. -/
def overview (s : Settings) : List (String × Bool) :=
  [("authentication", s.authentication.isSome), ("kubernetes", s.cluster.isSome),
   ("redis", s.redis.isSome)]

/-- The overview as an object. -/
def overviewWire (s : Settings) : Json :=
  Json.object (s.overview.map fun (name, present) => (name, .bool present))

/-- How logins are checked and tokens are issued, with the defaults when nothing is said. A section
that is null says nothing. -/
def authenticationOptions (s : Settings) : AuthenticationOptions := s.authentication.getD default

/-- Checks what the gateway cannot start without: a secret to sign tokens with. Everything else has
a default. -/
def validate (s : Settings) : Outcome Unit :=
  match s.authMode with
  | .token =>
    if s.authenticationOptions.jwtSecret = "" then
      .error (.settings "authMode 'token' requires authentication.jwtSecret")
    else .ok ()

end Settings

end AccessGateway
