import AccessGateway.Credential.Store
import AccessGateway.Network.Address
import AccessGateway.Settings.Basic

/-!
# `AccessGateway.Credential.Address`: where the credential store lives

Without a host the store is kept in process, and so it is for the host `FAKE` when debugging.
Any other host makes it a networked one, whose connection URL has to parse.

The URL is put together by the settings (`RedisOptions.url`) and taken apart here, by the rules of
URLs: the authority ends at the first slash, question mark or number sign, the user information at
the last at sign of the authority. The settings do not escape anything, so what is taken apart need
not be what was put together.
-/

set_option autoImplicit false

namespace AccessGateway

/-- The host and port of a networked store and the part of its URL behind them, which names the
database. -/
structure StoreAddress where
  host : String
  port : Nat
  path : String
  deriving DecidableEq, Repr

namespace StoreAddress

/-- A character that no host may contain. -/
def isForbiddenInHost (c : Char) : Bool :=
  c ∈ ['\x00', '\t', '\n', '\r', ' ', '#', '/', ':', '<', '>', '?', '@', '[', '\\', ']', '^', '|']

/-- Whether a text may stand as a host: an IPv6 address in brackets, or a name. -/
def isHost (text : List Char) : Bool :=
  match text with
  | '[' :: rest =>
    rest.getLast? == some ']' && (IpAddress.v6Groups? rest.dropLast).isSome
  | _ => !text.isEmpty && !text.any isForbiddenInHost

/-- Cuts a host off the front: the text up to the first colon outside of brackets. -/
def spanHost : Bool → List Char → List Char × List Char
  | _, [] => ([], [])
  | bracketed, c :: rest =>
    if c == ':' && !bracketed then ([], c :: rest)
    else
      let bracketed := if c == '[' then true else if c == ']' then false else bracketed
      let (host, after) := spanHost bracketed rest
      (c :: host, after)

/-- The text after the last `@`, which follows the user information. -/
def afterUser (authority : List Char) : List Char :=
  (authority.reverse.takeWhile (· != '@')).reverse

/-- Reads host and port from the part of a URL after its scheme. Line breaks and tabs do not
count, the authority ends at the first slash, question mark or number sign, and without a port
the usual one is meant. -/
def read? (location : List Char) : Option StoreAddress := do
  let location := location.filter fun c => c != '\t' && c != '\n' && c != '\r'
  let isEnd (c : Char) : Bool := c == '/' || c == '?' || c == '#'
  let authority := location.takeWhile fun c => !isEnd c
  let rest := location.dropWhile fun c => !isEnd c
  let (host, after) := spanHost false (afterUser authority)
  let port ← match after with
    | [] | [_] => some (RedisOptions.port {})
    | _ :: digits =>
      if digits.all Char.isDigit then (Text.Numeral.readNat maxPort digits).toOption else none
  if isHost host then
    some ⟨String.ofList host, port, String.ofList (rest.takeWhile fun c => c != '?' && c != '#')⟩
  else none

/-- The database that a path names. -/
def database? (e : StoreAddress) : Option Int :=
  let name := Text.trimBy (· == '/') e.path.toList
  if name.isEmpty then some 0 else (Text.Numeral.readInt name).toOption

end StoreAddress

/-- The host that stands for the store in process when debugging. -/
def fakeHost : String := "FAKE"

/-- Whether the store is kept in process: without settings, without a host, or for the host that
stands for this when debugging. -/
def keepsStoreInProcess (options : Option RedisOptions) (debug : Bool) : Bool :=
  match options with
  | none => true
  | some o => o.host == "" || (o.host == fakeHost && debug)

/-- A connection that cannot be made because of how it is described. -/
def misconfigured (reason : String) : Fault := .backend (reason ++ "- InvalidClientConfig")

/-- Where the URL of a networked store leads, or what is wrong with it. -/
def RedisOptions.address (o : RedisOptions) : Outcome StoreAddress := do
  match StoreAddress.read? (o.url.toList.drop "redis://".length) with
  | none => .error (misconfigured "Redis URL did not parse")
  | some address =>
    if address.database?.isSome then .ok address
    else .error (misconfigured "Invalid database number")

/-- The empty store that an installation starts with. A networked one has to be connected, for
which there is no means here. -/
def CredentialStore.connect (options : Option RedisOptions) (debug : Bool) :
    Outcome CredentialStore :=
  match options with
  | none => .ok .empty
  | some o =>
    if keepsStoreInProcess options debug then .ok .empty
    else do
      let address ← o.address
      .error (.backend ("cannot connect to " ++ address.host ++ ":" ++
        Text.natText address.port))

end AccessGateway
