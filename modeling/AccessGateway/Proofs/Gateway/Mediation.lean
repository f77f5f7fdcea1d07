import AccessGateway.Proofs.Fault
import AccessGateway.Proofs.Gateway.Credentials
import AccessGateway.Proofs.Http.Encoding
import AccessGateway.Proofs.Membership
import AccessGateway.Proofs.Resource.Confined
import AccessGateway.Proofs.Tenant

/-!
# `AccessGateway.Proofs.Gateway.Mediation`: nothing is shown without permission

A protected endpoint succeeds only for an identity that the authenticators found behind the request
and that the rules allow what the endpoint is about, and then it shows nothing but what that
permission is for: objects of the namespace, members and roles of the project, projects of the
workspace. `Endpoint.Mediated` says so for each endpoint, in terms of the rules and of the objects
that are shown, and not of how they are found.

The endpoints differ in what they read first and in whose answer they give. All of them hold the
caller against the rules before anything is looked up, so there is one lemma for the permission and
one for the content of each. Two facts about names are needed besides. The content of a namespace
is confined only where the namespace has a name, since the empty one stands for all of them. So a
project must have a name, and so must the namespace it is administered in, and neither may be lost
when the names of a path are decoded (`Endpoint.names_of_decoded?`). And the stores of the cache
must have their objects under the keys of these, which every cache that can be reached has
(`ObjectCache.Reachable`).

* `Endpoint.mediated_of_answer`: an endpoint that answers is mediated.
* `Gateway.answer_mediated`: so is every request below the root of the protected paths that is
  answered with status 200.
-/

set_option autoImplicit false

namespace AccessGateway

open Time (Duration)

/-- The rules allow a verb on a resource, and on a name of it if there is one, in a scope. -/
def ObjectCache.Allows (cache : ObjectCache) (caller : Identity) (verb resource : String)
    (name : Option String) (scope : Scope) : Prop :=
  (cache.authorize caller ⟨verb, resource, name, scope⟩).allowed = true

namespace Endpoint

variable {cache : ObjectCache} {caller : Identity} {endpoint : Endpoint} {shown : Json}

/-! ### What an answer says -/

/-- The page of a generation, as its interface writes it. -/
def pageOf : Generation → Page StoredObject → Json
  | .legacy => legacyPage
  | .current => currentPage

/-- The caller may do something with a resource in the cluster, or in a namespace if one is given,
and then the objects are of that namespace. -/
def ResourcesMediated (cache : ObjectCache) (caller : Identity) (verb resource : String)
    (name : Option String) («namespace» : String) (objects : List StoredObject) : Prop :=
  if «namespace» = "" then cache.Allows caller verb resource name .cluster
  else cache.Allows caller verb resource name (.namespace «namespace») ∧
    ∀ object ∈ objects, object.metadata.namespace = «namespace»

/-- The projects carry the label of the workspace, and the viewer may list the projects of the
workspace or get each of these in its admin namespace. -/
def ProjectsMediated (cache : ObjectCache) (viewer : Identity) (workspace : String)
    (objects : List StoredObject) : Prop :=
  ∀ object ∈ objects, ∃ project, object = .other project ∧
    project.metadata.workspace = some workspace ∧
    (cache.Allows viewer "list" "devopsprojects" none (.workspace workspace) ∨
      cache.Allows viewer "get" "devopsprojects" (some project.metadata.name)
        (.namespace project.adminNamespace))

/-- What it means that an endpoint shows something to a caller: which action was allowed, and which
objects are shown. One's own view of a workspace and one's own templates need no action. Under the
view of another member it is this member whose permission the projects are held against. -/
def Mediated (cache : ObjectCache) (caller : Identity) (shown : Json) : Endpoint → Prop
  | listResources generation ns resource =>
    ∃ page, shown = pageOf generation page ∧
      ResourcesMediated cache caller "list" resource none ns page.items
  | getResource _ ns resource name =>
    ∃ object : StoredObject, shown = object.wire ∧
      ResourcesMediated cache caller "get" resource (some name) ns [object]
  | listProjects workspace =>
    ∃ page, shown = currentPage page ∧ ProjectsMediated cache caller workspace page.items
  | listMemberProjects workspace member =>
    (member ≠ caller.name →
      cache.Allows caller "get" "workspacemembers" (some member) (.workspace workspace)) ∧
    ∃ page, shown = currentPage page ∧
      ProjectsMediated cache (.named member) workspace page.items
  | listMembers project =>
    let ns := cache.projectNamespace project
    cache.Allows caller "list" "members" none (.namespace ns) ∧
    ∃ page : Page User, shown = currentPage page ∧
      ∀ user ∈ page.items, cache.IsMember ns user.metadata.name
  | describeMember project member =>
    let ns := cache.projectNamespace project
    cache.Allows caller "get" "members" (some member) (.namespace ns) ∧
    ∃ user : User, shown = user.wire ∧ user.metadata.name = member ∧ cache.IsMember ns member
  | memberTemplates project member =>
    let ns := cache.projectNamespace project
    (member ≠ caller.name → cache.Allows caller "get" "members" (some member) (.namespace ns)) ∧
    ∃ roles : List Role, shown = .arr (roles.map Role.wire) ∧
      ∀ role ∈ roles, role.metadata.namespace = ns
  | listRoles project =>
    let ns := cache.projectNamespace project
    cache.Allows caller "list" "roles" none (.namespace ns) ∧
    ∃ page : Page Role, shown = currentPage page ∧
      ∀ role ∈ page.items, role.metadata.namespace = ns
  | describeRole project name =>
    let ns := cache.projectNamespace project
    cache.Allows caller "get" "roles" (some name) (.namespace ns) ∧
    ∃ role : Role, shown = role.wire ∧ role.metadata.name = name ∧ role.metadata.namespace = ns

/-! ### Permission -/

/-- An endpoint that answers was allowed, and shows its content for some query. -/
theorem content_of_answer {params : Parameters}
    (h : endpoint.answer cache caller params = .ok shown) :
    ∃ query, endpoint.require cache caller = .ok () ∧
      endpoint.content cache caller query = .ok shown := by
  obtain ⟨query, -, h⟩ := Outcome.bind_eq_ok_iff.mp h
  obtain ⟨⟨⟩, hrequire, hcontent⟩ := Outcome.bind_eq_ok_iff.mp h
  exact ⟨query, hrequire, hcontent⟩

/-- An action that is required is allowed. The reason of the decision is dropped here. -/
theorem allows_of_require {verb resource : String} {name : Option String} {scope : Scope}
    (haction : endpoint.action? cache caller = some ⟨verb, resource, name, scope⟩)
    (h : endpoint.require cache caller = .ok ()) :
    cache.Allows caller verb resource name scope := by
  rw [require, haction] at h
  have hallowed : (cache.authorize caller ⟨verb, resource, name, scope⟩).require = .ok () := h
  rw [Decision.require] at hallowed
  split at hallowed
  · assumption
  · cases hallowed

/-! ### Content -/

/-- What a resource endpoint requires, and the namespace of what it shows. The two meet here, since
without a namespace the scope is the cluster and the objects may be of any. -/
theorem resourcesMediated {verb resource «namespace» : String} {name : Option String}
    {objects : List StoredObject}
    (haction : endpoint.action? cache caller
      = some ⟨verb, resource, name, .ofNamespace «namespace»⟩)
    (hrequire : endpoint.require cache caller = .ok ())
    (hobjects : «namespace» ≠ "" → ∀ object ∈ objects, object.metadata.namespace = «namespace») :
    ResourcesMediated cache caller verb resource name «namespace» objects := by
  have hallows := allows_of_require haction hrequire
  rw [ResourcesMediated]
  split
  · rename_i hempty
    rw [Scope.ofNamespace, if_pos hempty] at hallows
    exact hallows
  · rename_i hnamespace
    rw [Scope.ofNamespace, if_neg hnamespace] at hallows
    exact ⟨hallows, hobjects hnamespace⟩

/-- An answer of one of the registries is an answer of the current or of the legacy one. -/
theorem orLegacy_eq_ok {α : Type} {current legacy : Outcome α} {value : α}
    (h : orLegacy current legacy = .ok value) : current = .ok value ∨ legacy = .ok value := by
  unfold orLegacy at h
  split at h
  · exact Or.inr h
  · exact Or.inl h

/-- A list of resources is a page of one of the registries, and below a namespace both of them list
what is in this namespace. -/
theorem page_of_listResources {generation : Generation} {ns resource : String} {query : Query}
    (hcache : cache.IsKeyed)
    (h : (listResources generation ns resource).content cache caller query = .ok shown) :
    ∃ page, shown = pageOf generation page ∧
      (ns ≠ "" → ∀ object ∈ page.items, object.metadata.namespace = ns) := by
  cases generation with
  | legacy =>
    obtain ⟨page, hpage, rfl⟩ := Outcome.map_eq_ok_iff.mp h
    exact ⟨page, rfl, fun hns => LegacyRegistry.namespace_of_list hcache hns hpage⟩
  | current =>
    obtain ⟨page, hpage, rfl⟩ := Outcome.map_eq_ok_iff.mp h
    refine ⟨page, rfl, fun hns => ?_⟩
    rcases orLegacy_eq_ok hpage with hcurrent | hlegacy
    · exact Registry.namespace_of_list hcache hns hcurrent
    · exact LegacyRegistry.namespace_of_list hcache hns hlegacy

/-- A single resource is an object of one of the registries, and both of them look in the namespace
of the request, be it the empty one. -/
theorem object_of_getResource {generation : Generation} {ns resource name : String} {query : Query}
    (hcache : cache.IsKeyed)
    (h : (getResource generation ns resource name).content cache caller query = .ok shown) :
    ∃ object : StoredObject, shown = object.wire ∧ object.metadata.namespace = ns := by
  cases generation with
  | legacy =>
    obtain ⟨object, hobject, rfl⟩ := Outcome.map_eq_ok_iff.mp h
    exact ⟨object, rfl, LegacyRegistry.namespace_of_get hcache hobject⟩
  | current =>
    obtain ⟨object, hobject, rfl⟩ := Outcome.map_eq_ok_iff.mp h
    rcases orLegacy_eq_ok hobject with hcurrent | hlegacy
    · exact ⟨object, rfl, Registry.namespace_of_get hcache hcurrent⟩
    · exact ⟨object, rfl, LegacyRegistry.namespace_of_get hcache hlegacy⟩

/-- A list of projects is mediated project by project, whatever the rules say of listing. Who may
not list the projects of the workspace sees those that may be got one by one. -/
theorem projectsMediated {viewer : Identity} {workspace : String} {query : Query}
    {page : Page StoredObject} (h : cache.listProjects viewer workspace query = .ok page) :
    ProjectsMediated cache viewer workspace page.items :=
  fun _ hitem => ObjectCache.mem_listProjects h hitem

/-- The project whose members or roles an endpoint is about, which is what the namespace of its
action depends on. -/
def project? : Endpoint → Option String
  | listMembers project | describeMember project _ | memberTemplates project _ | listRoles project
  | describeRole project _ => some project
  | _ => none

/-- The namespace of a project has a name if the project has one: it is named by the project, or
else it is the name of the project. -/
theorem projectNamespace_ne_empty (hcache : cache.IsKeyed) {project : String}
    (hproject : project ≠ "") : cache.projectNamespace project ≠ "" := by
  rw [ObjectCache.projectNamespace]
  split
  · rename_i object hget
    have hkey : object.metadata.name = project := ((hcache .devopsProjects).of_get? hget).2
    have hname : object.metadata.name ≠ "" := hkey ▸ hproject
    rw [OpaqueObject.adminNamespace]
    split
    · split
      · exact hname
      · assumption
    · exact hname
  · exact hproject

/-- An endpoint that answers is mediated. There is one case for each endpoint, and each of them is
the permission and the content of this endpoint put together. -/
theorem mediated_of_answer (hcache : cache.IsKeyed) (hproject : ∀ p ∈ endpoint.project?, p ≠ "")
    {params : Parameters} (h : endpoint.answer cache caller params = .ok shown) :
    endpoint.Mediated cache caller shown := by
  obtain ⟨query, hrequire, hcontent⟩ := content_of_answer h
  cases endpoint with
  | listResources generation ns resource =>
    obtain ⟨page, hshown, hnamespace⟩ := page_of_listResources hcache hcontent
    exact ⟨page, hshown, resourcesMediated rfl hrequire hnamespace⟩
  | getResource generation ns resource name =>
    obtain ⟨object, hshown, hnamespace⟩ := object_of_getResource hcache hcontent
    refine ⟨object, hshown, resourcesMediated rfl hrequire fun _ => ?_⟩
    simpa using hnamespace
  | listProjects workspace =>
    obtain ⟨page, hpage, rfl⟩ := Outcome.map_eq_ok_iff.mp hcontent
    exact ⟨page, rfl, projectsMediated hpage⟩
  | listMemberProjects workspace member =>
    obtain ⟨page, hpage, rfl⟩ := Outcome.map_eq_ok_iff.mp hcontent
    refine ⟨fun hother => allows_of_require ?_ hrequire, page, rfl, projectsMediated hpage⟩
    rw [action?, if_neg hother, workspaceMembersResource]
  | listMembers project =>
    have hns := projectNamespace_ne_empty hcache (hproject project rfl)
    cases hcontent
    exact ⟨allows_of_require rfl hrequire, _, rfl, fun user huser =>
      ObjectCache.isMember_of_mem_members hns hcache (Query.mem_run huser).1⟩
  | describeMember project member =>
    have hns := projectNamespace_ne_empty hcache (hproject project rfl)
    obtain ⟨user, huser, rfl⟩ := Outcome.map_eq_ok_iff.mp hcontent
    exact ⟨allows_of_require rfl hrequire, user, rfl,
      ObjectCache.isMember_of_describeMember hns hcache huser⟩
  | memberTemplates project member =>
    cases hcontent
    refine ⟨fun hother => allows_of_require ?_ hrequire, _, rfl, fun role hrole =>
      ObjectCache.namespace_of_mem_memberTemplates hcache hrole⟩
    rw [action?, if_neg hother, membersResource]
  | listRoles project =>
    have hns := projectNamespace_ne_empty hcache (hproject project rfl)
    cases hcontent
    exact ⟨allows_of_require rfl hrequire, _, rfl, fun role hrole =>
      Store.namespace_of_mem_list hns (Query.mem_run hrole).1⟩
  | describeRole project name =>
    obtain ⟨role, hrole, rfl⟩ := Outcome.map_eq_ok_iff.mp hcontent
    obtain ⟨hnamespace, hname⟩ := ObjectCache.namespace_of_describeRole hcache hrole
    exact ⟨allows_of_require rfl hrequire, role, rfl, hname, hnamespace⟩

/-! ### Paths -/

/-- The namespace in the path of an endpoint, or nothing where the path has none. -/
def namespaceName : Endpoint → String
  | listResources _ ns _ | getResource _ ns _ _ => ns
  | _ => ""

/-- A segment is decoded to nothing only if it is nothing. -/
theorem segment_eq_empty_iff {segment text : String} (h : Http.segmentText? segment = some text) :
    text = "" ↔ segment = "" := by
  have hempty : Http.segmentText? segment = some "" ↔ segment = "" :=
    Http.segmentText?_eq_some_empty_iff
  rw [← hempty, h, Option.some_inj]

/-- Decoding makes no namespace of none, and none of a namespace. It makes a project with a name of
one. So the endpoint that is answered is about the cluster exactly when the path is. -/
theorem names_of_decoded? {raw : Endpoint} (h : raw.decoded? = some endpoint) :
    (endpoint.namespaceName = "" ↔ raw.namespaceName = "") ∧
    ((∀ p ∈ raw.project?, p ≠ "") → ∀ p ∈ endpoint.project?, p ≠ "") := by
  -- for each endpoint its names are decoded one after the other, and the first one is what counts
  cases raw with
  | listResources _ _ _ =>
    obtain ⟨ns, hns, h⟩ := Option.bind_eq_some_iff.mp h
    obtain ⟨resource, -, h⟩ := Option.bind_eq_some_iff.mp h
    cases h
    exact ⟨segment_eq_empty_iff hns, fun _ => nofun⟩
  | getResource _ _ _ _ =>
    obtain ⟨ns, hns, h⟩ := Option.bind_eq_some_iff.mp h
    obtain ⟨resource, -, h⟩ := Option.bind_eq_some_iff.mp h
    obtain ⟨name, -, h⟩ := Option.bind_eq_some_iff.mp h
    cases h
    exact ⟨segment_eq_empty_iff hns, fun _ => nofun⟩
  | listProjects _ =>
    obtain ⟨workspace, -, h⟩ := Option.bind_eq_some_iff.mp h
    cases h
    exact ⟨Iff.rfl, fun _ => nofun⟩
  | listMemberProjects _ _ =>
    obtain ⟨workspace, -, h⟩ := Option.bind_eq_some_iff.mp h
    obtain ⟨member, -, h⟩ := Option.bind_eq_some_iff.mp h
    cases h
    exact ⟨Iff.rfl, fun _ => nofun⟩
  | listMembers _ | listRoles _ =>
    obtain ⟨project, hdecoded, h⟩ := Option.bind_eq_some_iff.mp h
    cases h
    refine ⟨Iff.rfl, fun hraw => ?_⟩
    rintro p ⟨⟩
    exact mt (segment_eq_empty_iff hdecoded).mp (hraw _ rfl)
  | describeMember _ _ | memberTemplates _ _ | describeRole _ _ =>
    obtain ⟨project, hdecoded, h⟩ := Option.bind_eq_some_iff.mp h
    obtain ⟨other, -, h⟩ := Option.bind_eq_some_iff.mp h
    cases h
    refine ⟨Iff.rfl, fun hraw => ?_⟩
    rintro p ⟨⟩
    exact mt (segment_eq_empty_iff hdecoded).mp (hraw _ rfl)

/-- The endpoints for resources are about no project, whatever is behind the prefix. -/
theorem project?_of_ofResourcePath? {generation : Generation} {rest : List String}
    (h : ofResourcePath? generation rest = some endpoint) : endpoint.project? = none := by
  unfold ofResourcePath? at h
  split at h <;> cases h <;> rfl

/-- The endpoints below a workspace are about the workspace, and not about one project of it. -/
theorem project?_of_ofWorkspacePath? {rest : List String}
    (h : ofWorkspacePath? rest = some endpoint) : endpoint.project? = none := by
  unfold ofWorkspacePath? at h
  split at h <;> cases h <;> rfl

/-- The endpoints for members and roles have the project in their path. -/
theorem mem_of_ofProjectPath? {rest : List String}
    (h : ofProjectPath? rest = some endpoint) : ∀ p ∈ endpoint.project?, p ∈ rest := by
  unfold ofProjectPath? at h
  split at h <;> cases h <;> rintro p ⟨⟩ <;> exact List.mem_cons_of_mem _ List.mem_cons_self

/-- The project of an endpoint is a segment of its path. -/
theorem project?_mem_segments {segments : List String}
    (h : ofSegments? segments = some endpoint) :
    "" ∉ segments ∧ ∀ p ∈ endpoint.project?, p ∈ segments := by
  unfold ofSegments? at h
  split at h
  · cases h
  rename_i hany
  have hnonempty : "" ∉ segments := fun hmem => hany (List.any_eq_true.mpr ⟨"", hmem, rfl⟩)
  refine ⟨hnonempty, ?_⟩
  -- one case for each prefix: the two generations of resources, workspaces, projects, none
  split at h
  · rw [project?_of_ofResourcePath? h]
    nofun
  · rw [project?_of_ofResourcePath? h]
    nofun
  · rw [project?_of_ofWorkspacePath? h]
    nofun
  · exact fun p hp => List.mem_cons_of_mem _ (List.mem_cons_of_mem _
      (List.mem_cons_of_mem _ (mem_of_ofProjectPath? h p hp)))
  · cases h

end Endpoint

namespace Gateway

variable {g : Gateway} {request : Request} {timeout : Duration}
  {treatment : StoreCall → Treatment} {vault : Vault}

/-- A protected endpoint that succeeds answers the identity behind the request, since a request that
nobody claims and a claim that fails have other statuses. -/
theorem answerApi_eq_of_status {endpoint : Endpoint}
    (hstatus : (Program.run timeout treatment (g.answerApi request endpoint) vault).1.status
      = 200) :
    ∃ caller, (Work.runOn timeout treatment (g.authenticator request.headers) vault).1
        = .ok (some caller) ∧
      (Program.run timeout treatment (g.answerApi request endpoint) vault).1
        = g.answerFor caller request endpoint := by
  rw [run_answerApi_fst] at hstatus ⊢
  split at hstatus
  · rename_i caller hcaller
    exact ⟨caller, hcaller, rfl⟩
  · have hrefused : Response.unauthorizedStatus = 200 := hstatus
    exact absurd hrefused (by decide)
  · rename_i fault hfault
    exact absurd hstatus fault.status_ne_ok

/-- What succeeds of a protected endpoint is the content of the endpoint with its names decoded. -/
theorem answerFor_eq_of_status {caller : Identity} {raw : Endpoint}
    (hstatus : (g.answerFor caller request raw).status = 200) :
    ∃ endpoint shown, raw.decoded? = some endpoint ∧
      endpoint.answer g.objects caller (Http.formPairs request.target.query) = .ok shown ∧
      g.answerFor caller request raw = .ok shown := by
  rw [answerFor] at hstatus ⊢
  split at hstatus
  · exact absurd hstatus (by decide)
  rename_i hread
  rw [if_neg hread]
  split at hstatus
  · exact absurd hstatus (by decide)
  rename_i endpoint hdecoded
  obtain ⟨shown, hshown⟩ := Response.eq_ok_of_status hstatus
  exact ⟨endpoint, shown, hdecoded, hshown, congrArg Response.ofOutcome hshown⟩

/-- Only a protected endpoint answers below the root of the protected paths, and if it is about a
project, the path names this project. -/
theorem route_of_prefix {target : Target} (hpath : ["", "kapis"] <+: target.segments)
    {route : Route} (hroute : Route.ofTarget? target = some route) :
    ∃ endpoint, route = .api endpoint ∧ ∀ p ∈ endpoint.project?, p ≠ "" := by
  obtain ⟨rest, hrest⟩ := hpath
  rw [Route.ofTarget?, ← hrest] at hroute
  obtain ⟨endpoint, hendpoint, rfl⟩ := Option.map_eq_some_iff.mp hroute
  obtain ⟨hnonempty, hproject⟩ := Endpoint.project?_mem_segments hendpoint
  exact ⟨endpoint, rfl, fun p hp heq => hnonempty (heq ▸ hproject p hp)⟩

/-- A request below the root of the protected paths that is answered with status 200 was made by an
identity that the authenticators found behind it, for an endpoint that is mediated for this
identity. The answer shows what was mediated, or the header fields of it where only the header was
asked for. -/
theorem answer_mediated (objects : ObjectCache) (hobjects : objects.Reachable)
    (options : AuthenticationOptions) (request : Request)
    (hpath : ["", "kapis"] <+: request.target.segments) (timeout : Duration)
    (treatment : StoreCall → Treatment) (vault : Vault) :
    let g : Gateway := ⟨objects, options⟩
    let response := (Program.run timeout treatment (g.answer request) vault).1
    response.status = 200 → ∃ caller raw endpoint shown,
      (Work.runOn timeout treatment (g.authenticator request.headers) vault).1
        = .ok (some caller) ∧
      Route.ofTarget? request.target = some (.api raw) ∧ raw.decoded? = some endpoint ∧
      (endpoint.namespaceName = "" ↔ raw.namespaceName = "") ∧
      endpoint.Mediated objects caller shown ∧
      response.body =
        if request.method = "HEAD" then .withheld (Body.fields (.json shown)) else .json shown := by
  intro g response hstatus
  have hresponse : response
      = let routed := (Program.run timeout treatment (g.route request) vault).1
        if request.method = "HEAD" then routed.withoutBody else routed := run_answer_fst request
  have hrouted : (Program.run timeout treatment (g.route request) vault).1.status = 200 := by
    rw [hresponse] at hstatus
    dsimp only at hstatus
    split at hstatus <;> exact hstatus
  -- from here on it is the route, then the caller, then the endpoint of that caller
  cases hroute : Route.ofTarget? request.target with
  | none =>
    rw [route, hroute] at hrouted
    have hmissing : (404 : Nat) = 200 := hrouted
    cases hmissing
  | some found =>
    obtain ⟨raw, rfl, hproject⟩ := route_of_prefix hpath hroute
    rw [route, hroute] at hrouted
    obtain ⟨caller, hcaller, hanswer⟩ := answerApi_eq_of_status hrouted
    rw [hanswer] at hrouted
    obtain ⟨endpoint, shown, hdecoded, hshown, hcontent⟩ := answerFor_eq_of_status hrouted
    obtain ⟨hnamespace, hnamed⟩ := Endpoint.names_of_decoded? hdecoded
    refine ⟨caller, raw, endpoint, shown, hcaller, rfl, hdecoded, hnamespace,
      Endpoint.mediated_of_answer hobjects.isKeyed (hnamed hproject) hshown, ?_⟩
    rw [hresponse, route, hroute]
    dsimp only
    rw [hanswer, hcontent]
    split <;> rfl

/-- Whoever has no credentials may list the builders of a namespace if a binding in it says so. They
are in the legacy registry, and those of other namespaces are not shown. -/
theorem answer_mediated_anonymous :
    let snapshot : Snapshot :=
      { roles := [⟨.namespaced "dev" "viewer", [⟨["list"], ["s2ibuilders"], []⟩]⟩]
        roleBindings := [⟨.namespaced "dev" "viewers", [⟨.user, "anonymous"⟩], ⟨.role, "viewer"⟩⟩]
        builders := [.ofMetadata (.namespaced "dev" "image"),
          .ofMetadata (.namespaced "prod" "image")] }
    let g : Gateway := ⟨.ofSnapshot snapshot, {}⟩
    let request : Request :=
      ⟨"GET", ⟨"/kapis/resources.kubesphere.io/v1alpha3/namespaces/dev/s2ibuilders", ""⟩, .empty,
        ""⟩
    let response := (Program.run .zero (fun _ => .answers) (g.answer request) ⟨.empty, 0⟩).1
    g.objects.Reachable ∧ ["", "kapis"] <+: request.target.segments ∧ response.status = 200 ∧
    ∃ caller, ∃ page : Page StoredObject,
      (Work.answered (g.authenticator request.headers) ⟨.empty, 0⟩).1 = .ok (some caller) ∧
      g.objects.Allows caller "list" "s2ibuilders" none (.namespace "dev") ∧
      response.body = .json (Endpoint.currentPage page) ∧
      ∀ item ∈ page.items, item.metadata.namespace = "dev" := by
  intro snapshot g request response
  have hobjects : g.objects.Reachable := ObjectCache.reachable_ofSnapshot snapshot
  have hpath : ["", "kapis"] <+: request.target.segments := by decide +kernel
  have hstatus : response.status = 200 := by decide +kernel
  have hroute : Route.ofTarget? request.target
      = some (.api (.listResources .current "dev" "s2ibuilders")) := by decide +kernel
  have hdecoded : (Endpoint.listResources .current "dev" "s2ibuilders").decoded?
      = some (.listResources .current "dev" "s2ibuilders") := by decide +kernel
  obtain ⟨caller, raw, endpoint, shown, hcaller, hraw, hendpoint, -, hmediated, hbody⟩ :=
    answer_mediated g.objects hobjects g.options request hpath .zero (fun _ => .answers)
      ⟨.empty, 0⟩ hstatus
  cases hroute.symm.trans hraw
  cases hdecoded.symm.trans hendpoint
  obtain ⟨page, rfl, hallows, hitems⟩ := hmediated
  exact ⟨hobjects, hpath, hstatus, caller, page, hcaller, hallows, hbody, hitems⟩

end Gateway

end AccessGateway
