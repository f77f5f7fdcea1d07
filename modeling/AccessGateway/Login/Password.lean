import AccessGateway.Cluster.Store
import AccessGateway.Credential.Program
import AccessGateway.Digest.Bcrypt
import AccessGateway.Identity
import AccessGateway.Object.User
import AccessGateway.Settings.Basic

/-!
# `AccessGateway.Login.Password`: logging in by name and password

A login finds an account by name or by e-mail address, checks that it is active and not locked
out, and compares the password. Every mismatch counts, the first one opens a window, and as
many as the settings tolerate lock the account out until the window ends or a login succeeds.

The counter of an account is a record of the credential store. A login reads it with one call and
counts with another, and gives a first mismatch its deadline with a third, so that other logins, and
failures of the store, may come between. With a limit of zero there is no counter at all.

All faults that concern the account or the password are one, `incorrectCredential`, so that they
tell nothing about which accounts there are; the state of an account and a lockout have their own.
-/

set_option autoImplicit false

namespace AccessGateway

open Time (Duration)

/-- What a login is checked against: the accounts, the limits, and the comparison of a password with
a stored hash. The comparison is bcrypt unless something else is put in its place. -/
structure PasswordLogin where
  users : Store User
  maxTries : Nat
  lockoutWindow : Duration
  matchesHash : String → String → Bool := Digest.Bcrypt.verifies

/-- A character that no part of an e-mail address contains. -/
def isOutsideAddress (c : Char) : Bool := c == '@' || c == '<' || c == '>' || Text.isBlank c

/-- Whether a login name has the form of an e-mail address: one `@` with text on both sides,
and neither blanks nor angle brackets. -/
def isEmail (name : String) : Bool :=
  match Text.splitOnce? '@' name.toList with
  | some (before, after) =>
    !before.isEmpty && !after.isEmpty && !before.any isOutsideAddress && !after.any isOutsideAddress
  | none => false

namespace PasswordLogin

/-- Logins under the limits of the settings. -/
def ofOptions (users : Store User) (options : AuthenticationOptions) : PasswordLogin :=
  { users, maxTries := options.maxTries, lockoutWindow := options.lockoutWindow }

/-- Where the mismatches of an account are counted. Accounts are told apart by name, so one that is
found by its address has the same counter. -/
def counterKey (account : String) : String := "kubesphere:authfailedlog:" ++ account

/-- The account of a login name: the first one with that address if it is one, and otherwise the one
of that name. A name with the form of an address is never looked up as a name. -/
def find? (login : PasswordLogin) (name : String) : Option User :=
  if isEmail name then login.users.toList.find? fun user => user.email = name
  else login.users.get? "" name

/-- The number that a stored counter stands for; anything but a number of a half word counts as
zero, and so does a missing record. -/
def countOf (stored : Option String) : Nat :=
  (stored.bind fun text =>
    (Text.Numeral.readNat Text.Numeral.maxHalfWord text.toList).toOption).getD 0

/-- Whether an account is locked out: it has as many mismatches as are tolerated. Without a limit
the store is not asked. -/
def isLockedOut (login : PasswordLogin) (account : String) : Work Bool := do
  if login.maxTries = 0 then return false
  let stored ← Work.get (counterKey account)
  return decide (login.maxTries ≤ countOf stored)

/-- Counts a mismatch. The first one opens the window after which the counter ends, by a call of its
own. -/
def recordFailure (login : PasswordLogin) (account : String) : Work Unit := do
  if login.maxTries = 0 then return
  let count ← Work.incr (counterKey account)
  -- later mismatches leave the deadline as it is, so the window does not slide
  if count = 1 ∧ login.lockoutWindow.isZero = false then
    let _ ← Work.expire (counterKey account) login.lockoutWindow

/-- Forgets all mismatches, by removing the counter. -/
def clearFailures (login : PasswordLogin) (account : String) : Work Unit := do
  if login.maxTries = 0 then return
  let _ ← Work.del [counterKey account]

/-- Whether an account may log in by its state. An account without a state is not active. -/
def checkState (user : User) : Outcome Unit :=
  match user.state with
  | some .active => .ok ()
  | some .authLimitExceeded => .error .rateLimitExceeded
  | _ => .error .accountNotActive

/-- The identity of an account, marked while it never completed a first login. -/
def identityOf (user : User) : Identity :=
  let identity := Identity.named user.metadata.name
  match user.metadata.annotations[Identity.uninitializedKey]? with
  | some value => identity.withExtra Identity.uninitializedKey value
  | none => identity

/-- Logs in by name and password. The guards stand in the order in which a client could tell them
apart: inputs, account, state, lockout, hash, and the comparison at last. -/
def authenticate (login : PasswordLogin) (name password : String) : Work Identity := do
  if name = "" ∨ password = "" then throw .incorrectCredential
  match login.find? name with
  | none => throw .incorrectCredential
  | some user =>
    let account := user.metadata.name
    Work.ofOutcome (checkState user)
    -- the lockout is checked first, so that a locked account tells nothing about its password
    if ← login.isLockedOut account then throw .rateLimitExceeded
    if user.passwordHash = "" then throw .incorrectCredential
    if login.matchesHash password user.passwordHash then
      login.clearFailures account
      return identityOf user
    else
      login.recordFailure account
      throw .incorrectCredential

/-- The label that names an account's external provider. -/
def providerLabel : String := "iam.kubesphere.io/identify-provider"

/-- The label that holds an account's name at its external provider. -/
def originLabel : String := "iam.kubesphere.io/origin-uid"

/-- The one account that is linked to a name at an external provider. Two accounts with the link are
as good as none. -/
def linkedAccount (login : PasswordLogin) (provider origin : String) : Outcome User :=
  let selector :=
    (Selector.everything.withLabel providerLabel provider).withLabel originLabel origin
  match login.users.list "" selector with
  | [user] => .ok user
  | _ => .error (.notFound "users" (provider ++ "/" ++ origin))

end PasswordLogin

end AccessGateway
