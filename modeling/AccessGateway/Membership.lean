import AccessGateway.Json.Reader
import AccessGateway.Resource.Searcher
import AccessGateway.Tenant

/-!
# `AccessGateway.Membership`: the members and roles of a project

The users that role bindings of a project's namespace list are its members. Of several
bindings that list one user the first by name counts.

Membership is told from the bindings alone. A member without an account is not listed, and a role
that does not exist makes a member still, though one without templates. What a role is composed of
is written in an annotation of it, as the text of a JSON array, and anything else in the annotation
stands for no templates.
-/

set_option autoImplicit false

namespace AccessGateway

/-- The annotation of listed members that holds their role. It is set on what is shown, and not on
what is kept. -/
def memberRoleKey : String := "iam.kubesphere.io/role"

/-- The annotation of roles that lists the templates they are composed of. -/
def aggregationKey : String := "iam.kubesphere.io/aggregation-roles"

/-- The names of the users that a binding lists, with repetitions. Groups are left out. -/
def RoleBinding.userNames (binding : RoleBinding) : List String :=
  (binding.subjects.filter fun subject => subject.kind = .user).map Subject.name

/-- The templates that a role is composed of: the strings of a JSON array, or none. One element that
is no string makes it none. -/
def Role.templateNames (role : Role) : List String :=
  match role.metadata.annotations[aggregationKey]? with
  | none => []
  | some raw =>
    match Json.read? raw.toList with
    | some value => (Decoder.list Decoder.text value).getD []
    | none => []

namespace ObjectCache

/-- The namespace that holds the roles of a project. An unknown project stands for the namespace of
its name, so whether there is a project cannot be told from this. -/
def projectNamespace (cache : ObjectCache) (project : String) : String :=
  match cache.devopsProjects.get? "" project with
  | some object => object.adminNamespace
  | none => project

/-- The role of each user that a binding of a namespace role lists. The bindings are in the order of
their names, and the first of them that lists a user is the one that counts. -/
def memberRoles (cache : ObjectCache) («namespace» : String) : TextMap :=
  let grants := (cache.roleBindings.list «namespace» .everything).filter fun binding =>
    binding.roleRef.kind = .role
  grants.foldl (fun roles binding =>
    binding.userNames.foldl (fun roles user => roles.insertIfNew user binding.roleRef.name) roles)
    ∅

/-- The account of a member, marked with its role. Accounts belong to no namespace. -/
def memberAccount (cache : ObjectCache) (name role : String) : Option User :=
  (cache.users.get? "" name).map fun user =>
    { user with metadata := user.metadata.withAnnotation memberRoleKey role }

/-- The accounts of all members of a namespace, in the order of their names. -/
def members (cache : ObjectCache) («namespace» : String) : List User :=
  (cache.memberRoles «namespace»).toList.filterMap fun (name, role) => cache.memberAccount name role

/-- The page of the members of a namespace that a query asks for. -/
def listMembers (cache : ObjectCache) («namespace» : String) (query : Query) : Page User :=
  query.run (cache.members «namespace»)

/-- One member of a namespace. A member without an account is not found, like anyone who is no
member. -/
def describeMember (cache : ObjectCache) («namespace» member : String) : Outcome User :=
  match (cache.memberRoles «namespace»)[member]?.bind (cache.memberAccount member) with
  | some user => .ok user
  | none => .error (.notFound ResourceName.users member)

/-- The page of the roles of a namespace that a query asks for. -/
def listRoles (cache : ObjectCache) («namespace» : String) (query : Query) : Page Role :=
  query.run (cache.roles.list «namespace» .everything)

/-- One role of a namespace. -/
def describeRole (cache : ObjectCache) («namespace» role : String) : Outcome Role :=
  match cache.roles.get? «namespace» role with
  | some role => .ok role
  | none => .error (.notFound ResourceName.roles role)

/-- The role of a member of a namespace, if it exists there. -/
def memberRole (cache : ObjectCache) («namespace» member : String) : Option Role :=
  (cache.memberRoles «namespace»)[member]?.bind (cache.roles.get? «namespace»)

/-- The templates that the role of a member is composed of, by name. Names without a role in the
namespace do not count, and neither does a repetition. -/
def memberTemplates (cache : ObjectCache) («namespace» member : String) : List Role :=
  match cache.memberRole «namespace» member with
  | none => []
  | some role =>
    let found := role.templateNames.filterMap (cache.roles.get? «namespace»)
    let byName := found.foldl
      (fun (known : Std.ExtTreeMap String Role) template =>
        known.insert template.metadata.name template) ∅
    byName.toList.map Prod.snd

end ObjectCache

end AccessGateway
