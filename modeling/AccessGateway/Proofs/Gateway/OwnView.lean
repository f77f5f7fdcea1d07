import AccessGateway.Proofs.Gateway.Caller
import AccessGateway.Proofs.Tenant

/-!
# `AccessGateway.Proofs.Gateway.OwnView`: the projects of a workspace, seen directly and as a member

There are two ways to ask for the projects of a workspace that one may see: directly, and by the
view of the member with one's own name. The second way goes by the name alone, so groups do not
count for it. That makes a difference only for who has groups.

How much the two ways may differ is said by `ObjectCache.SeenAlike`, which compares what an identity
and a name may see. It is no stronger than it has to be: two queries are enough to find out
everything it says. One without conditions shows all visible projects, so answers that are the same
for it have the same projects. One for a workspace of another name counts all visible projects for
those who may list the projects of the workspace, and none for the others, so answers that are the
same for it have the same permission, unless there is no project to count.

* `ObjectCache.SeenAlike`: what two identities see has no difference to it.
* `ObjectCache.seenAlike_iff`: they get the same answers then, to whatever they ask, and only then.
* `Gateway.ownView_eq_directView`: whoever bears a token is answered the same on both ways, and
  whoever does not is when the name and the identity see alike.
-/

set_option autoImplicit false

namespace AccessGateway

open Time (Duration)

namespace ObjectCache

variable {cache : ObjectCache} {viewer other : Identity} {workspace : String}

/-- Two identities may see the same projects of a workspace. If there are any, both of them may list
the projects of the workspace or neither of them may, which is what decides about their filters. -/
def SeenAlike (cache : ObjectCache) (viewer other : Identity) (workspace : String) : Prop :=
  cache.visibleProjects viewer workspace = cache.visibleProjects other workspace ∧
  (cache.visibleProjects viewer workspace ≠ [] →
    (cache.authorize viewer (listProjectsAction workspace)).allowed
      = (cache.authorize other (listProjectsAction workspace)).allowed)

/-- Visible projects are told apart by no order: they are the projects of the cache, in its order,
that pass a test. -/
theorem visibleProjects_eq_of_mem_iff (h : ∀ project,
    project ∈ cache.visibleProjects viewer workspace
      ↔ project ∈ cache.visibleProjects other workspace) :
    cache.visibleProjects viewer workspace = cache.visibleProjects other workspace := by
  refine List.filter_congr fun project hmem => ?_
  have hproject := h project
  simp only [visibleProjects, List.mem_filter, hmem, true_and] at hproject
  exact Bool.eq_iff_iff.mpr hproject

/-- Without conditions and a limit, all visible projects are shown, and nothing else is. -/
theorem listProjects_everything (cache : ObjectCache) (viewer : Identity) (workspace : String) :
    ∃ page, cache.listProjects viewer workspace .everything = .ok page ∧
      ∀ project,
        .other project ∈ page.items ↔ project ∈ cache.visibleProjects viewer workspace := by
  have hfree : FieldName.workspace ∉ Query.everything.conditions := Std.ExtTreeMap.not_mem_empty
  refine ⟨_, listProjects_eq_of_not_mem hfree, fun project => ?_⟩
  have hadmits : Query.everything.admits project = true := by
    rw [Query.admits_iff]
    intro field condition hcondition
    simp [Query.everything] at hcondition
  rw [Page.map, List.mem_map_of_injective fun a b h => StoredObject.other.inj h]
  have hrun : project ∈ (Query.everything.run (cache.visibleProjects viewer workspace)).items
      ↔ project ∈ cache.visibleProjects viewer workspace ∧ Query.everything.admits project = true :=
    Query.mem_run_unpaged (q := .everything)
  rw [hrun, and_iff_left hadmits]

/-- A condition that the workspace does not satisfy is lost for who may list its projects, so that
all of them are counted, and leaves nothing for anyone else. So it tells the two apart. -/
theorem totalCount_otherWorkspace (cache : ObjectCache) (viewer : Identity) (workspace : String) :
    ∃ page, cache.listProjects viewer workspace (Query.everything.withCondition
        FieldName.workspace (.exact (workspace ++ "x"))) = .ok page ∧
      page.totalCount = if (cache.authorize viewer (listProjectsAction workspace)).allowed then
        (cache.visibleProjects viewer workspace).length else 0 := by
  generalize hquery : Query.everything.withCondition FieldName.workspace
    (.exact (workspace ++ "x")) = query
  refine ⟨_, listProjects_eq, ?_⟩
  rw [Page.map, Query.totalCount_run, projectsQuery]
  split
  · -- without the condition, no condition is left
    have hnone : ∀ (project : OpaqueObject),
        (query.withoutCondition FieldName.workspace).admits project = true := by
      intro project
      rw [Query.admits_iff]
      intro field condition hcondition
      rw [Query.getElem?_withoutCondition, ← hquery, Query.getElem?_withCondition] at hcondition
      obtain ⟨hfield, ⟨hsame, -⟩ | hother⟩ := hcondition
      · exact absurd hsame hfield
      · rw [Query.getElem?_withoutCondition] at hother
        exact absurd hother.2 (by simp [Query.everything])
    rw [List.filter_eq_self.mpr fun project _ => hnone project]
  · -- what is visible carries the label of the workspace, which is not the one asked for
    rw [List.length_eq_zero_iff, List.filter_eq_nil_iff]
    intro project hproject hadmits
    have haccepts : (Condition.exact (workspace ++ "x")).accepts workspace = true :=
      ((admits_visible_iff hproject).mp hadmits).2 _
        (by rw [← hquery]; exact Query.getElem?_withCondition.mpr (Or.inl ⟨rfl, rfl⟩))
    have hequal : workspace = workspace ++ "x" := beq_iff_eq.mp haccepts
    have hlength := congrArg String.length hequal
    simp at hlength

/-- Two identities that see alike get the same answers to whatever they ask about a workspace, and
who gets the same answers sees alike. -/
theorem seenAlike_iff : cache.SeenAlike viewer other workspace ↔
    ∀ query, cache.listProjects viewer workspace query
      = cache.listProjects other workspace query := by
  constructor
  · rintro ⟨hvisible, hlist⟩ query
    rw [listProjects_eq, listProjects_eq, ← hvisible]
    by_cases hempty : cache.visibleProjects viewer workspace = []
    · -- no query finds anything among no projects
      rw [hempty, Query.run_nil, Query.run_nil]
    · rw [projectsQuery, projectsQuery, hlist hempty]
  · intro hsame
    -- the page of everything shows what is visible, and the count for another workspace shows
    -- whether the identity may list
    have hvisible : cache.visibleProjects viewer workspace
        = cache.visibleProjects other workspace := by
      obtain ⟨page, hpage, hmem⟩ := cache.listProjects_everything viewer workspace
      obtain ⟨page', hpage', hmem'⟩ := cache.listProjects_everything other workspace
      have hequal : page = page' := Except.ok.inj (hpage.symm.trans ((hsame _).trans hpage'))
      refine visibleProjects_eq_of_mem_iff fun project => ?_
      rw [← hmem, ← hmem', hequal]
    refine ⟨hvisible, fun hsome => ?_⟩
    obtain ⟨page, hpage, hcount⟩ := cache.totalCount_otherWorkspace viewer workspace
    obtain ⟨page', hpage', hcount'⟩ := cache.totalCount_otherWorkspace other workspace
    have hequal : page = page' := Except.ok.inj (hpage.symm.trans ((hsame _).trans hpage'))
    have hpositive : (cache.visibleProjects viewer workspace).length ≠ 0 :=
      mt List.length_eq_zero_iff.mp hsome
    rw [← hequal, hcount, ← hvisible] at hcount'
    -- one of them counts all and the other none, if only one of them may list
    rw [Bool.eq_iff_iff]
    constructor
    · intro hviewer
      by_contra hother
      rw [if_pos hviewer, if_neg hother] at hcount'
      exact hpositive hcount'
    · intro hother
      by_contra hviewer
      rw [if_neg hviewer, if_pos hother] at hcount'
      exact hpositive hcount'.symm

/-- An identity sees as it does itself. -/
theorem SeenAlike.refl (cache : ObjectCache) (viewer : Identity) (workspace : String) :
    cache.SeenAlike viewer viewer workspace :=
  ⟨rfl, fun _ => rfl⟩

end ObjectCache

/-! ### Two ways -/

/-- The view of the member with one's own name is answered like the direct view, if name and
identity see alike. No permission is needed for one's own view, and the parameters are read
alike. -/
theorem Endpoint.answer_ownView {cache : ObjectCache} {caller : Identity} {workspace : String}
    (h : cache.SeenAlike caller (.named caller.name) workspace) (params : Parameters) :
    (listMemberProjects workspace caller.name).answer cache caller params
      = (listProjects workspace).answer cache caller params := by
  have hrequire : (listMemberProjects workspace caller.name).require cache caller
      = (listProjects workspace).require cache caller := by
    rw [require, action?, if_pos rfl]
    rfl
  have hcontent : ∀ query, (listMemberProjects workspace caller.name).content cache caller query
      = (listProjects workspace).content cache caller query := by
    intro query
    rw [content, content, ObjectCache.seenAlike_iff.mp h query]
  have hquery : (listMemberProjects workspace caller.name).query params
      = (listProjects workspace).query params := rfl
  rw [answer, answer, hquery, hrequire]
  simp only [hcontent]

/-- Someone asks directly for the projects of a workspace, and asks with a request of the same
method, header and parameters for the view of the member with their own name. Both are answered the
same if the name sees alike in the workspace, which it always does for who bears a token. To see
alike is to be shown the same, whatever is asked for. -/
theorem Gateway.ownView_eq_directView (g : Gateway) (timeout : Duration)
    (treatment : StoreCall → Treatment) (vault : Vault) (direct own : Request) (caller : Identity)
    (rawWorkspace rawMember : String)
    (hmethod : own.method = direct.method) (hheaders : own.headers = direct.headers)
    (hquery : own.target.query = direct.target.query)
    (hdirect : Route.ofTarget? direct.target = some (.api (.listProjects rawWorkspace)))
    (hown : Route.ofTarget? own.target = some (.api (.listMemberProjects rawWorkspace rawMember)))
    (hmember : Http.segmentText? rawMember = some caller.name)
    (hfinds : g.Finds timeout treatment vault direct.headers caller) :
    let answer := fun request => (Program.run timeout treatment (g.answer request) vault).1
    let alike := g.objects.SeenAlike caller (.named caller.name)
    ((∀ workspace ∈ Http.segmentText? rawWorkspace, alike workspace) → answer own = answer direct) ∧
    (¬ direct.headers.HasNoCredentials → ∀ workspace, alike workspace) ∧
    ∀ workspace, alike workspace ↔ ∀ query, g.objects.listProjects caller workspace query
      = g.objects.listProjects (.named caller.name) workspace query := by
  intro answer alike
  refine ⟨fun halike => ?_, fun hcredentials workspace => ?_, fun workspace =>
    ObjectCache.seenAlike_iff⟩
  · have hfindsOwn : g.Finds timeout treatment vault own.headers caller := hheaders ▸ hfinds
    have hfor : g.answerFor caller own (.listMemberProjects rawWorkspace rawMember)
        = g.answerFor caller direct (.listProjects rawWorkspace) := by
      have hread : own.isRead = direct.isRead := by
        rw [Request.isRead, Request.isRead, hmethod]
      rw [answerFor, answerFor, hread, hquery]
      cases hworkspace : Http.segmentText? rawWorkspace with
      | none =>
        -- a name that is no text is refused on both ways
        simp [Endpoint.decoded?, hworkspace]
      | some workspace =>
        have hdecodedOwn : (Endpoint.listMemberProjects rawWorkspace rawMember).decoded?
            = some (.listMemberProjects workspace caller.name) := by
          simp [Endpoint.decoded?, hworkspace, hmember]
        have hdecodedDirect : (Endpoint.listProjects rawWorkspace).decoded?
            = some (.listProjects workspace) := by
          simp [Endpoint.decoded?, hworkspace]
        rw [hdecodedOwn, hdecodedDirect]
        simp only [Endpoint.answer_ownView (halike workspace hworkspace)]
    show (Program.run timeout treatment (g.answer own) vault).1
      = (Program.run timeout treatment (g.answer direct) vault).1
    rw [hfindsOwn.run_answer hown, hfinds.run_answer hdirect, hfor, hmethod]
  · show g.objects.SeenAlike caller (.named caller.name) workspace
    rw [← hfinds.eq_named hcredentials]
    exact .refl _ _ _

/-- A gateway with two projects in the workspace `ws1` and tokens that have no end. -/
def Gateway.withProjects : Gateway :=
  ⟨.ofSnapshot .withProjects, { jwtSecret := "secret", accessTokenMaxAge := .zero }⟩

/-- Bob, who bears a token, is answered the same on both ways, since an identity from a token has no
groups to lose. -/
theorem Gateway.ownView_eq_directView_bob :
    let headers : Headers := .bearing (Gateway.withProjects.sessions.issuer.issue "bob" 0)
    let direct : Request := ⟨"GET",
      ⟨"/kapis/tenant.kubesphere.io/v1alpha2/workspaces/ws1/devops", "limit=5"⟩, headers, ""⟩
    let own : Request := ⟨"GET",
      ⟨"/kapis/tenant.kubesphere.io/v1alpha2/workspaces/ws1/workspacemembers/bob/devops",
        "limit=5"⟩, headers, ""⟩
    let answer := fun request =>
      (Program.run .zero (fun _ => .answers) (Gateway.withProjects.answer request) ⟨.empty, 0⟩).1
    withProjects.Finds .zero (fun _ => .answers) ⟨.empty, 0⟩ direct.headers (.named "bob") ∧
    ¬ direct.headers.HasNoCredentials ∧ answer own = answer direct := by
  intro headers direct own answer
  have hdirect : Route.ofTarget? direct.target = some (.api (.listProjects "ws1")) := by
    show Route.ofTarget?
      ⟨"/kapis/tenant.kubesphere.io/v1alpha2/workspaces/ws1/devops", "limit=5"⟩ = _
    decide +kernel
  have hown : Route.ofTarget? own.target = some (.api (.listMemberProjects "ws1" "bob")) := by
    show Route.ofTarget?
      ⟨"/kapis/tenant.kubesphere.io/v1alpha2/workspaces/ws1/workspacemembers/bob/devops",
        "limit=5"⟩ = _
    decide +kernel
  have hfinds : withProjects.Finds .zero (fun _ => .answers) ⟨.empty, 0⟩ direct.headers
      (.named "bob") :=
    finds_of_issue rfl "bob" .zero _ ⟨.empty, 0⟩ (by decide)
  have hcredentials : ¬ direct.headers.HasNoCredentials := fun h =>
    absurd (h _ rfl 'B' (by simp)) (by decide)
  obtain ⟨hsame, halike, -⟩ := ownView_eq_directView _ _ _ _ direct own _ "ws1" "bob" rfl rfl rfl
    hdirect hown (by decide +kernel) hfinds
  exact ⟨hfinds, hcredentials, hsame fun workspace _ => halike hcredentials workspace⟩

/-- Where the group of all who passed authentication may list the projects of a workspace, a request
without credentials is shown them directly, and none of them as the member `anonymous`. -/
theorem Gateway.ownView_hides_anonymous :
    let role : Role := ⟨.named "auditor", [⟨["list"], ["devopsprojects"], []⟩]⟩
    let binding : RoleBinding := ⟨.named "everyone",
      [⟨.group, Identity.authenticatedGroup⟩], ⟨.globalRole, "auditor"⟩⟩
    let snapshot : Snapshot :=
      { globalRoles := [role]
        globalRoleBindings := [binding]
        devopsProjects := [.projectOf "ws1" "app"] }
    let g : Gateway := ⟨.ofSnapshot snapshot, {}⟩
    let answer := fun path =>
      (Program.run .zero (fun _ => .answers) (g.answer ⟨"GET", ⟨path, ""⟩, .empty, ""⟩)
        ⟨.empty, 0⟩).1
    g.Finds .zero (fun _ => .answers) ⟨.empty, 0⟩ .empty .anonymous ∧
    answer "/kapis/tenant.kubesphere.io/v1alpha2/workspaces/ws1/devops"
      = .ok (Endpoint.currentPage ⟨1, [OpaqueObject.projectOf "ws1" "app"]⟩) ∧
    answer "/kapis/tenant.kubesphere.io/v1alpha2/workspaces/ws1/workspacemembers/anonymous/devops"
      = .ok (Endpoint.currentPage (⟨0, []⟩ : Page OpaqueObject)) := by
  intro role binding snapshot g answer
  refine ⟨finds_of_hasNoCredentials _ _ _ _ nofun, ?_, ?_⟩
  · decide +kernel
  · decide +kernel

end AccessGateway
