import AccessGateway.Http.Encoding
import AccessGateway.Membership
import AccessGateway.Query.Current
import AccessGateway.Query.Legacy
import AccessGateway.Resource.LegacyRegistry
import AccessGateway.Tenant

/-!
# `AccessGateway.Gateway.Endpoint`: what can be asked for

An `Endpoint` is one kind of request to the protected part of the gateway, with the names that
its path carries. `Endpoint.answer` answers it for an identity: the parameters are read first,
then the identity is held against the rules, and only then anything is looked up.

What differs between the endpoints stands in three functions on them, with one case for each.
`Endpoint.action?` is what the rules have to allow, `Endpoint.query` is what the parameters ask for,
and `Endpoint.content` is what is shown. The order in which the three are used is the same for all.

The paths are read in two steps, since routing goes by the segments as they are written and names
may be in percent encoding. `Endpoint.ofSegments?` finds the endpoint, and `Endpoint.decoded?`
replaces its names by the texts they stand for.
-/

set_option autoImplicit false

namespace AccessGateway

/-- The generations of the resource interface. They differ in their parameters, in the kinds of
resources they know, and in the names of the fields of a page. -/
inductive Generation where
  | legacy
  | current
  deriving DecidableEq, Repr

/-- A request to the protected part of the gateway. An empty namespace of a resource endpoint stands
for the whole cluster. -/
inductive Endpoint where
  | listResources (generation : Generation) («namespace» resource : String)
  | getResource (generation : Generation) («namespace» resource name : String)
  | listProjects (workspace : String)
  | listMemberProjects (workspace member : String)
  | listMembers (project : String)
  | describeMember (project member : String)
  | memberTemplates (project member : String)
  | listRoles (project : String)
  | describeRole (project role : String)
  deriving DecidableEq, Repr

/-- The parameters of a request in order, with all the repetitions of a key. -/
abbrev Parameters := List (String × String)

namespace Endpoint

/-! ### Actions -/

/-- The resource by which access to the members of projects is ruled. No object is of this kind. -/
def membersResource : String := "members"

/-- The resource by which access to the view of another member of a workspace is ruled. -/
def workspaceMembersResource : String := "workspacemembers"

/-- What an identity has to be allowed to do for an endpoint. Listing the projects of a
workspace needs nothing, since everyone sees what they may see; and everyone may look at their
own view and at their own templates. -/
def action? (cache : ObjectCache) (caller : Identity) : Endpoint → Option Action
  | listResources _ ns resource => some ⟨"list", resource, none, .ofNamespace ns⟩
  | getResource _ ns resource name => some ⟨"get", resource, some name, .ofNamespace ns⟩
  | listProjects _ => none
  | listMemberProjects workspace member =>
    if member = caller.name then none
    else some ⟨"get", workspaceMembersResource, some member, .workspace workspace⟩
  | listMembers project =>
    some ⟨"list", membersResource, none, .namespace (cache.projectNamespace project)⟩
  | describeMember project member =>
    some ⟨"get", membersResource, some member, .namespace (cache.projectNamespace project)⟩
  | memberTemplates project member =>
    if member = caller.name then none
    else some ⟨"get", membersResource, some member, .namespace (cache.projectNamespace project)⟩
  | listRoles project =>
    some ⟨"list", ResourceName.roles, none, .namespace (cache.projectNamespace project)⟩
  | describeRole project role =>
    some ⟨"get", ResourceName.roles, some role, .namespace (cache.projectNamespace project)⟩

/-- Refuses an endpoint whose action is not allowed, with the reason of the denial. An endpoint
without an action is refused to nobody. -/
def require (cache : ObjectCache) (caller : Identity) (endpoint : Endpoint) : Outcome Unit :=
  match endpoint.action? cache caller with
  | some action => (cache.authorize caller action).require
  | none => .ok ()

/-! ### Parameters -/

/-- The query that the parameters of an endpoint give. Endpoints for one object have none. -/
def query (params : Parameters) : Endpoint → Outcome Query
  | listResources .legacy .. => (Query.ofLegacyParameters params).mapError .invalidQuery
  | listResources .current .. | listProjects _ | listMemberProjects .. | listMembers _
  | listRoles _ => (Query.ofParameters params).mapError .invalidQuery
  | getResource .. | describeMember .. | memberTemplates .. | describeRole .. =>
    .ok Query.everything

/-! ### Answers -/

/-- A page of the legacy interface: the objects of the page, and how many there are on all pages. -/
def legacyPage {α : Type} [ClusterObject α] (page : Page α) : Json :=
  Json.object [("items", .arr (page.items.map ClusterObject.wire)),
    ("total_count", Json.nat page.totalCount)]

/-- A page of the current interface, which has another name for the count. -/
def currentPage {α : Type} [ClusterObject α] (page : Page α) : Json :=
  Json.object [("items", .arr (page.items.map ClusterObject.wire)),
    ("totalItems", Json.nat page.totalCount)]

/-- An answer of the current registry, or of the legacy one where the current one does not support
what is asked for. Any other failure of the current registry stands. -/
def orLegacy {α : Type} (current legacy : Outcome α) : Outcome α :=
  match current with
  | .error (.notSupported _) => legacy
  | answer => answer

/-- What an endpoint shows to an identity that may see it. The caller matters only for a list of
projects, since the view of another member is what that member would see. -/
def content (cache : ObjectCache) (caller : Identity) (query : Query) : Endpoint → Outcome Json
  | listResources .legacy ns resource =>
    ((LegacyRegistry.ofCache cache).list resource ns query).map legacyPage
  | listResources .current ns resource =>
    (orLegacy ((Registry.ofCache cache).list resource ns query)
      ((LegacyRegistry.ofCache cache).list resource ns query)).map currentPage
  | getResource .legacy ns resource name =>
    ((LegacyRegistry.ofCache cache).get resource ns name).map StoredObject.wire
  | getResource .current ns resource name =>
    (orLegacy ((Registry.ofCache cache).get resource ns name)
      ((LegacyRegistry.ofCache cache).get resource ns name)).map StoredObject.wire
  | listProjects workspace => (cache.listProjects caller workspace query).map currentPage
  | listMemberProjects workspace member =>
    (cache.listProjects (.named member) workspace query).map currentPage
  | listMembers project =>
    .ok (currentPage (cache.listMembers (cache.projectNamespace project) query))
  | describeMember project member =>
    (cache.describeMember (cache.projectNamespace project) member).map User.wire
  | memberTemplates project member =>
    .ok (.arr ((cache.memberTemplates (cache.projectNamespace project) member).map Role.wire))
  | listRoles project =>
    .ok (currentPage (cache.listRoles (cache.projectNamespace project) query))
  | describeRole project role =>
    (cache.describeRole (cache.projectNamespace project) role).map Role.wire

/-- Answers an endpoint for an identity. A request with parameters that cannot be read is refused
before the rules are asked. -/
def answer (cache : ObjectCache) (caller : Identity) (params : Parameters) (endpoint : Endpoint) :
    Outcome Json := do
  let query ← endpoint.query params
  endpoint.require cache caller
  endpoint.content cache caller query

/-! ### Paths -/

/-- The endpoint with its names decoded, unless one of them is not UTF-8. -/
def decoded? : Endpoint → Option Endpoint
  | listResources generation ns resource => do
    return listResources generation (← Http.segmentText? ns) (← Http.segmentText? resource)
  | getResource generation ns resource name => do
    return getResource generation (← Http.segmentText? ns) (← Http.segmentText? resource)
      (← Http.segmentText? name)
  | listProjects workspace => do return listProjects (← Http.segmentText? workspace)
  | listMemberProjects workspace member => do
    return listMemberProjects (← Http.segmentText? workspace) (← Http.segmentText? member)
  | listMembers project => do return listMembers (← Http.segmentText? project)
  | describeMember project member => do
    return describeMember (← Http.segmentText? project) (← Http.segmentText? member)
  | memberTemplates project member => do
    return memberTemplates (← Http.segmentText? project) (← Http.segmentText? member)
  | listRoles project => do return listRoles (← Http.segmentText? project)
  | describeRole project role => do
    return describeRole (← Http.segmentText? project) (← Http.segmentText? role)

/-- The endpoint of the rest of a path to resources. A resource of the name `namespaces` with two
more segments is read as a namespace. -/
def ofResourcePath? (generation : Generation) : List String → Option Endpoint
  | [resource] => some (listResources generation "" resource)
  | [resource, name] => some (getResource generation "" resource name)
  | ["namespaces", ns, resource] => some (listResources generation ns resource)
  | ["namespaces", ns, resource, name] => some (getResource generation ns resource name)
  | _ => none

/-- The endpoint of the rest of a path to workspaces: the projects in one, seen by the caller or by
a member. -/
def ofWorkspacePath? : List String → Option Endpoint
  | ["workspaces", workspace, "devops"] => some (listProjects workspace)
  | ["workspaces", workspace, "workspacemembers", member, "devops"] =>
    some (listMemberProjects workspace member)
  | _ => none

/-- The endpoint of the rest of a path to the members and roles of projects. -/
def ofProjectPath? : List String → Option Endpoint
  | ["devops", project, "members"] => some (listMembers project)
  | ["devops", project, "members", member] => some (describeMember project member)
  | ["devops", project, "members", member, "roles"] => some (memberTemplates project member)
  | ["devops", project, "roles"] => some (listRoles project)
  | ["devops", project, "roles", role] => some (describeRole project role)
  | _ => none

/-- The endpoint of the segments of a path, with its names as they are written. No segment of
such a path is empty. -/
def ofSegments? (segments : List String) : Option Endpoint :=
  if segments.any (· == "") then none
  else match segments with
    | "kapis" :: "resources.kubesphere.io" :: "v1alpha2" :: rest => ofResourcePath? .legacy rest
    | "kapis" :: "resources.kubesphere.io" :: "v1alpha3" :: rest => ofResourcePath? .current rest
    | "kapis" :: "tenant.kubesphere.io" :: "v1alpha2" :: rest => ofWorkspacePath? rest
    | "kapis" :: "iam.kubesphere.io" :: "v1alpha2" :: rest => ofProjectPath? rest
    | _ => none

end Endpoint

end AccessGateway
