import AccessGateway.Object.Metadata

/-!
# `AccessGateway.Object.RoleBinding`: who holds which role

A binding grants one role to users, groups and service accounts.

The kind of role that a binding refers to may reach less far than the binding itself, or further.
Kinds are ranked by their reach, so that the two can be compared (`RoleKind.rank`). Names of users
and groups do not mix: a subject is a kind and a name.
-/

set_option autoImplicit false

namespace AccessGateway

/-- The kinds of subjects. No identity is a service account, so what is granted to one is granted to
nobody here. -/
inductive SubjectKind where
  | user
  | group
  | serviceAccount
  deriving DecidableEq, Repr

namespace SubjectKind

/-- The wire name of a kind. -/
def name : SubjectKind → String
  | .user => "User"
  | .group => "Group"
  | .serviceAccount => "ServiceAccount"

/-- The kinds by wire name. -/
def byName : List (String × SubjectKind) :=
  [SubjectKind.user, .group, .serviceAccount].map fun kind => (kind.name, kind)

end SubjectKind

/-- Someone or something that a binding grants its role to. Nothing says that it exists. -/
structure Subject where
  kind : SubjectKind
  name : String
  deriving DecidableEq, Repr

/-- How far a role reaches: the cluster, one workspace or one namespace. -/
inductive RoleKind where
  | globalRole
  | workspaceRole
  | role
  deriving DecidableEq, Repr

namespace RoleKind

/-- The wire name of a kind. -/
def name : RoleKind → String
  | .globalRole => "GlobalRole"
  | .workspaceRole => "WorkspaceRole"
  | .role => "Role"

/-- The kinds by wire name. -/
def byName : List (String × RoleKind) :=
  [RoleKind.globalRole, .workspaceRole, .role].map fun kind => (kind.name, kind)

/-- The rank of a kind; a broader reach has the smaller rank. -/
def rank : RoleKind → Nat
  | .globalRole => 0
  | .workspaceRole => 1
  | .role => 2

/-- Whether the first kind reaches less far than the second. -/
def isNarrowerThan (a b : RoleKind) : Bool := b.rank < a.rank

end RoleKind

/-- The role that a binding grants, by its kind and its name. It need not exist. -/
structure RoleRef where
  kind : RoleKind
  name : String
  deriving DecidableEq, Repr

/-- Grants a role to subjects. It counts as far as the section reaches that it is kept in. -/
structure RoleBinding where
  metadata : Metadata
  subjects : List Subject
  roleRef : RoleRef
  deriving DecidableEq

/-- The wire form of a subject. -/
def Subject.wire (subject : Subject) : Json :=
  Json.object [("kind", .str subject.kind.name), ("name", .str subject.name)]

open Decoder in
/-- Reads the wire form of a subject. -/
def Subject.read {V : Type} [Document V] : Decoder V Subject := fun value => do
  let parts ← record ["kind", "name"] value
  return {
    kind := ← required (oneOf SubjectKind.byName) "kind" parts
    name := ← required text "name" parts }

/-- The wire form of a reference. -/
def RoleRef.wire (ref : RoleRef) : Json :=
  Json.object [("kind", .str ref.kind.name), ("name", .str ref.name)]

open Decoder in
/-- Reads the wire form of a reference. -/
def RoleRef.read {V : Type} [Document V] : Decoder V RoleRef := fun value => do
  let parts ← record ["kind", "name"] value
  return {
    kind := ← required (oneOf RoleKind.byName) "kind" parts
    name := ← required text "name" parts }

namespace RoleBinding

/-- The wire form. -/
def wire (binding : RoleBinding) : Json :=
  Json.objectOf
    [("metadata", some binding.metadata.wire),
     ("subjects", some (.arr (binding.subjects.map Subject.wire))),
     ("roleRef", some binding.roleRef.wire)]

instance : ClusterObject RoleBinding where
  name binding := binding.metadata.name
  field binding := binding.metadata.field
  satisfies binding := binding.metadata.satisfies
  metadata := metadata
  wire := wire

open Decoder in
/-- Reads the wire form; the role must be given. -/
def read {V : Type} [Document V] : Decoder V RoleBinding := fun value => do
  let parts ← record ["metadata", "subjects", "roleRef"] value
  return {
    metadata := ← defaulted Metadata.read "metadata" default parts
    subjects := ← defaulted (list Subject.read) "subjects" [] parts
    roleRef := ← required RoleRef.read "roleRef" parts }

end RoleBinding

end AccessGateway
