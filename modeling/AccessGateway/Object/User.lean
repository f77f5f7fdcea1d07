import AccessGateway.Object.Metadata

/-!
# `AccessGateway.Object.User`: user accounts

An account has an address, a password hash and a state. The hash is read from the wire but
never written to it.

So an account that was written and read again cannot log in any more, and this is the only part of
an object that is lost. The state of an account is a field by two names, `state` and `status`. An
account without a state has neither.
-/

set_option autoImplicit false

namespace AccessGateway

/-- Whether an account may log in: an active one may, and the others may not. -/
inductive AccountState where
  | active
  | disabled
  | authLimitExceeded
  deriving DecidableEq, Repr

namespace AccountState

/-- The wire name of a state. -/
def name : AccountState → String
  | .active => "Active"
  | .disabled => "Disabled"
  | .authLimitExceeded => "AuthLimitExceeded"

/-- The states by wire name. -/
def byName : List (String × AccountState) :=
  [AccountState.active, .disabled, .authLimitExceeded].map fun state => (state.name, state)

end AccountState

/-- A user account. An account without a state was never activated. -/
structure User where
  metadata : Metadata
  email : String
  displayName : String
  passwordHash : String
  state : Option AccountState
  reason : String
  deriving DecidableEq

namespace User

/-- An account with nothing but metadata. -/
def ofMetadata (metadata : Metadata) : User :=
  { metadata, email := "", displayName := "", passwordHash := "", state := none, reason := "" }

instance : Inhabited User := ⟨ofMetadata default⟩

/-- An active account with a password hash. -/
def active (name hash : String) : User :=
  { ofMetadata (Metadata.named name) with passwordHash := hash, state := some .active }

/-- The value of a field: address and state, or a field of the metadata. An empty address is
absent. -/
def field (u : User) (field : String) : Option String :=
  if field = FieldName.email then if u.email = "" then none else some u.email
  else if field = FieldName.state ∨ field = FieldName.status then u.state.map AccountState.name
  else u.metadata.field field

/-- Whether a condition on a field holds, by the values that the account has of its own or as the
metadata have it. -/
def satisfies (u : User) (field : String) (condition : Condition) : Bool :=
  if field = FieldName.email ∨ field = FieldName.state ∨ field = FieldName.status then
    Queryable.satisfiesBy (u.field field) condition
  else u.metadata.satisfies field condition

/-- The wire form, without the password hash. -/
def wire (u : User) : Json :=
  Json.objectOf
    [("metadata", some u.metadata.wire),
     ("spec", some (Json.objectOf
       [("email", Json.keepUnless (u.email == "") (.str u.email)),
        ("displayName", Json.keepUnless (u.displayName == "") (.str u.displayName))])),
     ("status", some (Json.objectOf
       [("state", u.state.map fun state => .str state.name),
        ("reason", Json.keepUnless (u.reason == "") (.str u.reason))]))]

instance : ClusterObject User where
  name u := u.metadata.name
  field := field
  satisfies := satisfies
  metadata := metadata
  wire := wire

open Decoder in
/-- Address, display name and password hash. Here the hash goes by the name `password`. -/
def readSpec {V : Type} [Document V] : Decoder V (String × String × String) := fun value => do
  let parts ← record ["email", "displayName", "password"] value
  return (← defaulted text "email" "" parts, ← defaulted text "displayName" "" parts,
    ← defaulted text "password" "" parts)

open Decoder in
/-- State and reason. A state that is null is none, and a name that no state has is refused. -/
def readStatus {V : Type} [Document V] : Decoder V (Option AccountState × String) := fun value => do
  let parts ← record ["state", "reason"] value
  return (← defaulted (optional (oneOf AccountState.byName)) "state" none parts,
    ← defaulted text "reason" "" parts)

open Decoder in
/-- Reads the wire form, of which every part may be left out. -/
def read {V : Type} [Document V] : Decoder V User := fun value => do
  let parts ← record ["metadata", "spec", "status"] value
  let metadata ← defaulted Metadata.read "metadata" default parts
  let (email, displayName, passwordHash) ← defaulted readSpec "spec" ("", "", "") parts
  let (state, reason) ← defaulted readStatus "status" (none, "") parts
  return { metadata, email, displayName, passwordHash, state, reason }

end User

end AccessGateway
