import AccessGateway.Proofs.Cluster.Selector
import AccessGateway.Proofs.Cluster.Reachable
import AccessGateway.Proofs.Access.Grant
import AccessGateway.Proofs.Query.Page
import AccessGateway.Tenant
import Mathlib.Data.List.Basic

/-!
# `AccessGateway.Proofs.Tenant`: the projects that an identity sees

There are two ways to the projects of a workspace. Who may list them gets a query with a condition
on the workspace, which takes the place of one that was asked for. Anyone else gets those that carry
the label, one by one.

Both answer a query on one list, `ObjectCache.visibleProjects`: the projects with the label of the
workspace that the identity may see, in key order. They differ in the query. For who may list the
projects, a condition on the workspace that comes with the query is lost.

The condition that is set is exact, and an exact condition on the workspace is one on the label, so
it may be held against the projects before the query is answered (`Query.run_withCondition`). That
turns the first way into a query without the condition on the projects of the label, which is what
the second way has, up to the permission for each of them.

When the loss of the condition can be noticed is a question about one page. It can be noticed if the
workspace itself does not satisfy the condition, because then the page should have been empty and
the count zero, and if there is something on the page instead. In all other cases the page is the
one that was asked for.

* `ObjectCache.listProjects_eq`: the list and the query that are answered.
* `ObjectCache.mem_listProjects`: what is seen carries the label of the workspace, and may be seen.
* `ObjectCache.listProjects_load_eq_run`: without a condition on the workspace, the page is that of
  the query on the visible projects, and a right to list them all only adds to these.
* `ObjectCache.listProjects_honoursFilter_iff`: the filter is honoured unless a condition on the
  workspace is lost that would have left something out.
-/

set_option autoImplicit false

namespace AccessGateway

namespace OpaqueObject

variable {object : OpaqueObject}

/-- An exact condition on the workspace is one on the label. An object without the label satisfies
none. -/
theorem satisfies_workspace_exact (workspace : String) :
    object.satisfies FieldName.workspace (.exact workspace)
      = decide (object.metadata.workspace = some workspace) := by
  rw [Bool.eq_iff_iff, decide_eq_true_eq]
  exact Query.satisfiesBy_exact_iff

/-- A text in the status is a member that is a string, and nothing else is taken for one. -/
theorem statusText_eq_some_iff {key text : String} :
    object.statusText key = some text ↔ object.status.field? key = some (.str text) := by
  rw [statusText, Option.bind_eq_some_iff]
  constructor
  · rintro ⟨value, hvalue, htext⟩
    cases value <;> cases htext
    exact hvalue
  · exact fun h => ⟨_, h, rfl⟩

/-- An object is administered in the namespace that its status names. If the status names none, or
the empty one, or holds something else than a text there, it is the namespace of its own name. -/
inductive IsAdministeredIn (object : OpaqueObject) : String → Prop
  | named {name : String} (status : object.status.field? "adminNamespace" = some (.str name))
      (nonempty : name ≠ "") : IsAdministeredIn object name
  | own (status : ∀ name, object.status.field? "adminNamespace" = some (.str name) → name = "") :
      IsAdministeredIn object object.metadata.name

/-- A project is administered in the namespace that it names, or in the one of its own name. -/
theorem isAdministeredIn_iff {name : String} :
    object.IsAdministeredIn name ↔ object.adminNamespace = name := by
  constructor
  · rintro (⟨hnamed, hnonempty⟩ | hnone)
    · rw [adminNamespace, statusText_eq_some_iff.mpr hnamed]
      exact if_neg hnonempty
    · rw [adminNamespace]
      split
      · exact if_pos (hnone _ (statusText_eq_some_iff.mp ‹_›))
      · rfl
  · rintro rfl
    rw [adminNamespace]
    split
    · -- the status has a text there, which counts unless it is empty
      rename_i found hfound
      have hnamed := statusText_eq_some_iff.mp hfound
      split
      · exact .own fun other hother => by cases hnamed.symm.trans hother; assumption
      · exact .named hnamed ‹_›
    · rename_i hnone
      exact .own fun other hother => nomatch hnone.symm.trans (statusText_eq_some_iff.mpr hother)

end OpaqueObject

namespace ObjectCache

variable {cache : ObjectCache} {viewer : Identity} {workspace : String} {query : Query}

/-! ### One list for both ways -/

/-- An identity may list the projects of a workspace, or may get this one in the namespace that
administers it. -/
def MaySee (cache : ObjectCache) (viewer : Identity) (workspace : String)
    (project : OpaqueObject) : Prop :=
  (cache.authorize viewer (listProjectsAction workspace)).allowed = true ∨
  (cache.authorize viewer (getProjectAction project)).allowed = true

/-- The projects of a workspace that an identity may see, in key order. -/
def visibleProjects (cache : ObjectCache) (viewer : Identity) (workspace : String) :
    List OpaqueObject :=
  cache.devopsProjects.toList.filter fun project =>
    decide (project.metadata.workspace = some workspace) &&
      ((cache.authorize viewer (listProjectsAction workspace)).allowed ||
        (cache.authorize viewer (getProjectAction project)).allowed)

/-- The query that is answered on these. The right to list the projects of a workspace comes with a
condition of its own on the workspace, to which one that was asked for gives way. -/
def projectsQuery (cache : ObjectCache) (viewer : Identity) (workspace : String) (query : Query) :
    Query :=
  if (cache.authorize viewer (listProjectsAction workspace)).allowed then
    query.withoutCondition FieldName.workspace
  else query

/-- The visible projects are those of the workspace that the viewer may see, whichever of the two
rights it is. -/
theorem mem_visibleProjects {project : OpaqueObject} :
    project ∈ cache.visibleProjects viewer workspace
      ↔ project ∈ cache.devopsProjects.toList ∧ project.metadata.workspace = some workspace ∧
        cache.MaySee viewer workspace project := by
  simp only [visibleProjects, List.mem_filter, Bool.and_eq_true, decide_eq_true_eq,
    Bool.or_eq_true, MaySee]

/-- Who may list the projects of a workspace sees all of them, in key order. -/
theorem visibleProjects_of_allowed
    (hlist : (cache.authorize viewer (listProjectsAction workspace)).allowed = true) :
    cache.visibleProjects viewer workspace = cache.devopsProjects.toList.filter
      fun project => decide (project.metadata.workspace = some workspace) := by
  simp only [visibleProjects, hlist, Bool.true_or, Bool.and_true]

/-- The projects with the label of a workspace are those of the workspace, as the selector finds
them. -/
theorem workspaceProjects_eq : cache.workspaceProjects workspace
    = cache.devopsProjects.toList.filter
        fun project => decide (project.metadata.workspace = some workspace) := by
  rw [workspaceProjects, Store.list]
  refine List.filter_congr fun project _ => ?_
  simp only [decide_true, Bool.true_or, Bool.true_and]
  rw [Bool.eq_iff_iff, decide_eq_true_eq]
  exact Selector.everything_withLabel_accepts _ _ _

/-- The current registry lists projects from their store, whatever else is registered. -/
theorem listOf_devopsProjects (query : Query) :
    (Registry.ofCache cache).listOf (.devops ResourceName.devopsProjects) "" query
      = .ok (query.run ((cache.devopsProjects.list "" .everything).map .other)) := by
  rfl

/-- Either way leads to a query on the visible projects, and neither ever fails. -/
theorem listProjects_eq : cache.listProjects viewer workspace query
    = .ok (((cache.projectsQuery viewer workspace query).run
        (cache.visibleProjects viewer workspace)).map .other) := by
  rw [listProjects, projectsQuery]
  split
  · -- the condition that is set selects by the label, as the selector does on the other way
    rename_i hlist
    have hlabel : (fun project : OpaqueObject =>
          Queryable.satisfies project FieldName.workspace (.exact workspace))
        = fun project => decide (project.metadata.workspace = some workspace) :=
      funext fun project => project.satisfies_workspace_exact workspace
    rw [listOf_devopsProjects,
      Query.run_map (f := StoredObject.other) ⟨fun _ => rfl, fun _ => rfl, fun _ => rfl⟩,
      Query.run_withCondition, Store.list_everything, hlabel, visibleProjects_of_allowed hlist]
  · -- both filters in one, of which the right to list is no part
    rename_i hlist
    rw [memberProjects, workspaceProjects_eq, List.filter_filter, visibleProjects]
    simp only [hlist, Bool.false_or, Bool.and_comm]

/-- What an identity sees of the projects of a workspace carries its label, and may be seen. -/
theorem mem_listProjects {page : Page StoredObject}
    (h : cache.listProjects viewer workspace query = .ok page)
    {item : StoredObject} (hitem : item ∈ page.items) :
    ∃ project, item = .other project ∧ project.metadata.workspace = some workspace ∧
      cache.MaySee viewer workspace project := by
  rw [listProjects_eq] at h
  cases h
  obtain ⟨project, hproject, rfl⟩ := List.mem_map.mp hitem
  exact ⟨project, rfl, (mem_visibleProjects.mp (Query.mem_run hproject).1).2⟩

/-- Without a condition on the workspace there is none to give way. -/
theorem listProjects_eq_of_not_mem (hfree : FieldName.workspace ∉ query.conditions) :
    cache.listProjects viewer workspace query
      = .ok ((query.run (cache.visibleProjects viewer workspace)).map .other) := by
  rw [listProjects_eq, projectsQuery, Query.withoutCondition_of_not_mem hfree, ite_self]

/-! ### More rights -/

section
variable {other : ObjectCache} {lister : Identity}
  (hprojects : other.devopsProjects = cache.devopsProjects)
  (hlist : (other.authorize lister (listProjectsAction workspace)).allowed = true)
include hprojects hlist

/-- Whoever may list the projects of a workspace sees those that someone else sees, in the same
order among others. -/
theorem visibleProjects_sublist :
    (cache.visibleProjects viewer workspace).Sublist (other.visibleProjects lister workspace) := by
  rw [visibleProjects_of_allowed hlist, hprojects, visibleProjects]
  exact List.monotone_filter_right _ fun project h => (Bool.and_eq_true_iff.mp h).1

/-- Whoever may see each single project of a workspace sees what someone sees who may list them,
since they go through the same store. -/
theorem visibleProjects_eq_of_forall (hall : ∀ project ∈ cache.devopsProjects.toList,
      project.metadata.workspace = some workspace →
        project ∈ cache.visibleProjects viewer workspace) :
    cache.visibleProjects viewer workspace = other.visibleProjects lister workspace := by
  rw [visibleProjects_of_allowed hlist, hprojects]
  -- the two filters agree on each project: what carries the label is also visible
  refine List.filter_congr fun project hmem => ?_
  rw [Bool.eq_iff_iff, decide_eq_true_eq]
  refine ⟨fun h => of_decide_eq_true (Bool.and_eq_true_iff.mp h).1, fun h => ?_⟩
  exact (List.mem_filter.mp (hall project hmem h)).2

end

/-- Without a condition on the workspace, an identity sees the page of the query on the projects of
the workspace that it may see: on all of them if it may list them, or else on those that it may get
one by one in the namespaces that administer them. Whoever may get all of them sees the page of
someone who may list them, and what is seen without that right is seen with it, though perhaps on a
later page. -/
theorem listProjects_load_eq_run (cache : ObjectCache) (snapshot : Snapshot) (viewer : Identity)
    (workspace : String) (query : Query) (hfree : FieldName.workspace ∉ query.conditions) :
    let loaded := cache.load snapshot
    ∃ visible : List OpaqueObject,
      (visible.Pairwise fun a b =>
        compare (ClusterObject.key a) (ClusterObject.key b) = .lt) ∧
      (∀ project, project ∈ visible ↔
        IsLastOfKey snapshot.devopsProjects project ∧
        project.metadata.workspace = some workspace ∧
        ((loaded.authorize viewer
            ⟨"list", "devopsprojects", none, .workspace workspace⟩).allowed = true ∨
          ∃ name, project.IsAdministeredIn name ∧ (loaded.authorize viewer
            ⟨"get", "devopsprojects", some project.metadata.name, .namespace name⟩).allowed
              = true)) ∧
      loaded.listProjects viewer workspace query = .ok ((query.run visible).map .other) ∧
      ∀ (other : ObjectCache) (later : Snapshot) (lister : Identity),
        later.devopsProjects = snapshot.devopsProjects →
        ((other.load later).authorize lister
          ⟨"list", "devopsprojects", none, .workspace workspace⟩).allowed = true →
        ((∀ project, IsLastOfKey snapshot.devopsProjects project →
            project.metadata.workspace = some workspace → project ∈ visible) →
          loaded.listProjects viewer workspace query
            = (other.load later).listProjects lister workspace query) ∧
        ∃ whole, (other.load later).listProjects lister workspace (query.paged Query.noLimit 0)
            = .ok whole ∧
          (query.run visible).totalCount ≤ whole.totalCount ∧
          ∀ project ∈ (query.run visible).items, .other project ∈ whole.items := by
  intro loaded
  have hkept : ∀ project, project ∈ loaded.devopsProjects.toList
      ↔ IsLastOfKey snapshot.devopsProjects project := Store.mem_toList_ofList _
  refine ⟨loaded.visibleProjects viewer workspace, ?ordered, fun project => ?visible,
    listProjects_eq_of_not_mem hfree, fun other later lister hprojects hlist => ?_⟩
  case ordered => exact (isKeyed_load cache snapshot .devopsProjects).pairwise_toList.filter _
  case visible =>
    rw [mem_visibleProjects, hkept]
    refine and_congr_right fun _ => and_congr_right fun _ => or_congr_right ?_
    simp only [OpaqueObject.isAdministeredIn_iff, exists_eq_left']
    rfl
  -- the lister has other roles and bindings, but the same projects to look at
  have hstores : (other.load later).devopsProjects = loaded.devopsProjects :=
    congrArg Store.ofList hprojects
  constructor
  · intro hall
    rw [listProjects_eq_of_not_mem hfree, listProjects_eq_of_not_mem hfree,
      visibleProjects_eq_of_forall hstores hlist fun project hmem =>
        hall project ((hkept project).mp hmem)]
  · have hsublist : (loaded.visibleProjects viewer workspace).Sublist
        ((other.load later).visibleProjects lister workspace) :=
      visibleProjects_sublist hstores hlist
    refine ⟨_, listProjects_eq_of_not_mem hfree, ?_, fun project hmem => List.mem_map_of_mem ?_⟩
    · rw [Page.map, Query.totalCount_run, Query.totalCount_run]
      exact (hsublist.filter query.admits).length_le
    · obtain ⟨hvisible, hadmits⟩ := Query.mem_run hmem
      exact Query.mem_run_unpaged.mpr ⟨hsublist.subset hvisible, hadmits⟩

end ObjectCache

/-- A project of a workspace, with the label and without a status. -/
def OpaqueObject.projectOf (workspace name : String) : OpaqueObject :=
  .ofMetadata ((Metadata.named name).withLabel workspaceLabel workspace)

/-- Two projects of a workspace and one of another. Alice may list the projects of any workspace,
and bob may get one of them. -/
def Snapshot.withProjects : Snapshot where
  globalRoles := [⟨.named "auditor", [⟨["list"], ["devopsprojects"], []⟩]⟩]
  roles := [⟨.namespaced "app" "viewer", [⟨["get"], ["devopsprojects"], []⟩]⟩]
  globalRoleBindings := [⟨.named "auditors", [⟨.user, "alice"⟩], ⟨.globalRole, "auditor"⟩⟩]
  roleBindings := [⟨.namespaced "app" "viewers", [⟨.user, "bob"⟩], ⟨.role, "viewer"⟩⟩]
  devopsProjects := [.projectOf "ws1" "app", .projectOf "ws1" "web", .projectOf "ws2" "lab"]

namespace ObjectCache

/-- Of two projects bob sees the one that he may get, and alice, who may list them, sees it too. -/
theorem listProjects_load_eq_run_bob :
    let loaded := ObjectCache.empty.load .withProjects
    let bob := Identity.named "bob"
    let alice := Identity.named "alice"
    FieldName.workspace ∉ Query.everything.conditions ∧
    (loaded.authorize alice ⟨"list", "devopsprojects", none, .workspace "ws1"⟩).allowed = true ∧
    ∃ visible : List OpaqueObject,
      .projectOf "ws1" "app" ∈ visible ∧ .projectOf "ws1" "web" ∉ visible ∧
      loaded.listProjects bob "ws1" .everything = .ok ((Query.everything.run visible).map .other) ∧
      ∃ whole,
        loaded.listProjects alice "ws1" (Query.everything.paged Query.noLimit 0) = .ok whole ∧
        (Query.everything.run visible).totalCount ≤ whole.totalCount ∧
        ∀ project ∈ (Query.everything.run visible).items, .other project ∈ whole.items := by
  intro loaded bob alice
  have hfree : FieldName.workspace ∉ Query.everything.conditions := Std.ExtTreeMap.not_mem_empty
  have hlist : (loaded.authorize alice ⟨"list", "devopsprojects", none, .workspace "ws1"⟩).allowed
      = true := by decide
  obtain ⟨visible, -, hvisible, hanswer, hmore⟩ :=
    listProjects_load_eq_run .empty .withProjects bob "ws1" .everything hfree
  refine ⟨hfree, hlist, visible, ?_, ?_, hanswer,
    (hmore .empty .withProjects alice rfl hlist).2⟩
  · exact (hvisible _).mpr
      ⟨⟨[], _, rfl, by decide⟩, by decide, Or.inr ⟨"app", .own nofun, by decide⟩⟩
  · rw [hvisible]
    rintro ⟨-, -, hlisted | ⟨name, hname, hget⟩⟩
    · revert hlisted
      decide
    · rw [OpaqueObject.isAdministeredIn_iff] at hname
      subst hname
      revert hget
      decide

/-! ### The filter that was asked for -/

section
variable {cache : ObjectCache} {viewer : Identity} {workspace : String} {query : Query}

/-- A page honours a filter: it shows projects of the workspace that the identity may see and that
satisfy each condition, and its total counts all of these. -/
structure HonoursFilter (cache : ObjectCache) (viewer : Identity) (workspace : String)
    (query : Query) (page : Page StoredObject) : Prop where
  shown : ∀ item ∈ page.items, ∃ project, item = .other project ∧
    project.metadata.workspace = some workspace ∧ cache.MaySee viewer workspace project ∧
    ∀ field condition, query.conditions[field]? = some condition →
      project.satisfies field condition = true
  counted : page.totalCount
    = ((cache.visibleProjects viewer workspace).filter query.admits).length

/-- The page of a query on the visible projects honours its filter. -/
theorem honoursFilter_run : cache.HonoursFilter viewer workspace query
    ((query.run (cache.visibleProjects viewer workspace)).map .other) where
  shown item hitem := by
    obtain ⟨project, hproject, rfl⟩ := List.mem_map.mp hitem
    obtain ⟨hvisible, hadmits⟩ := Query.mem_run hproject
    obtain ⟨-, hlabel, hsee⟩ := mem_visibleProjects.mp hvisible
    exact ⟨project, rfl, hlabel, hsee, fun field condition => Query.satisfies_of_admits hadmits⟩
  counted := Query.totalCount_run

/-- A visible project is admitted if it is without the condition on the workspace, as long as the
workspace itself satisfies that one, since this is the value that all of them have. -/
theorem admits_visible_iff {project : OpaqueObject}
    (hproject : project ∈ cache.visibleProjects viewer workspace) :
    query.admits project = true
      ↔ (query.withoutCondition FieldName.workspace).admits project = true ∧ ∀ condition,
          query.conditions[FieldName.workspace]? = some condition →
            condition.accepts workspace = true := by
  have hlabel := (mem_visibleProjects.mp hproject).2.1
  have hsatisfies : ∀ condition,
      Queryable.satisfies project FieldName.workspace condition = condition.accepts workspace :=
    fun condition => congrArg (Option.any condition.accepts) hlabel
  rw [Query.admits_iff_withoutCondition FieldName.workspace]
  simp only [hsatisfies]

end

/-- What is listed honours the filter that was asked for, unless the identity may list the projects
of the workspace, the workspace does not satisfy the condition on it, and there are projects that
satisfy all the other conditions. Those are shown then, as if that condition had not been asked
for. -/
theorem listProjects_honoursFilter_iff (cache : ObjectCache) (viewer : Identity)
    (workspace : String) (query : Query) :
    ∃ page, cache.listProjects viewer workspace query = .ok page ∧
      ((cache.authorize viewer (listProjectsAction workspace)).allowed = true →
        cache.HonoursFilter viewer workspace (query.withoutCondition FieldName.workspace) page) ∧
      (cache.HonoursFilter viewer workspace query page ↔
        ((cache.authorize viewer (listProjectsAction workspace)).allowed = true →
          ∀ condition, query.conditions[FieldName.workspace]? = some condition →
            condition.accepts workspace = true ∨
              ∀ project ∈ cache.visibleProjects viewer workspace,
                (query.withoutCondition FieldName.workspace).admits project = false)) := by
  have hpage : ∀ q, cache.HonoursFilter viewer workspace q
      ((q.run (cache.visibleProjects viewer workspace)).map .other) := fun _ => honoursFilter_run
  refine ⟨_, listProjects_eq, ?_⟩
  by_cases hlist : (cache.authorize viewer (listProjectsAction workspace)).allowed = true
  · -- the page is that of the query without the condition, and honours the filter of that one
    rw [projectsQuery, if_pos hlist]
    refine ⟨fun _ => hpage _, fun h _ condition hcondition => ?_, fun h => ?_⟩
    · refine or_iff_not_imp_left.mpr fun hrejects => ?_
      -- the query itself admits none, so the total is zero and nothing was admitted without
      have hnone : (cache.visibleProjects viewer workspace).filter query.admits = [] :=
        List.filter_eq_nil_iff.mpr fun project hproject hadmits =>
          hrejects (((admits_visible_iff hproject).mp hadmits).2 condition hcondition)
      have hcount := h.counted
      rw [hnone, (hpage _).counted, List.length_nil, List.length_eq_zero_iff] at hcount
      exact fun project hproject => Bool.eq_false_iff.mpr
        (List.filter_eq_nil_iff.mp hcount project hproject)
    · -- the lost condition leaves nothing out, so it is the page of the query itself
      rw [Query.run_withoutCondition fun project hproject hadmits => ?_]
      · exact hpage query
      · refine (admits_visible_iff hproject).mpr ⟨hadmits, fun condition hcondition => ?_⟩
        refine (h hlist condition hcondition).resolve_right fun hnone => ?_
        rw [hnone project hproject] at hadmits
        cases hadmits
  · -- without the right to list, no condition is lost
    rw [projectsQuery, if_neg hlist]
    exact ⟨fun h => absurd h hlist, fun _ h => absurd h hlist, fun _ => hpage _⟩

/-- Alice may list the projects of a workspace. When she asks for those that belong to another
workspace, she is shown what belongs to this one. -/
theorem listProjects_otherWorkspace_alice :
    let loaded := ObjectCache.empty.load .withProjects
    let query := Query.everything.withCondition FieldName.workspace (.exact "ws2")
    ∃ page, loaded.listProjects (.named "alice") "ws1" query = .ok page ∧
      page.totalCount = 2 ∧ .other (.projectOf "ws1" "app") ∈ page.items ∧
      ¬ loaded.HonoursFilter (.named "alice") "ws1" query page := by
  intro loaded query
  let replaced := query.withoutCondition FieldName.workspace
  let visible := loaded.visibleProjects (.named "alice") "ws1"
  have hanswer : loaded.listProjects (.named "alice") "ws1" query
      = .ok ((replaced.run visible).map .other) := listProjects_eq
  have hshown : .projectOf "ws1" "app" ∈ ((replaced.paged Query.noLimit 0).run visible).items :=
    Query.mem_run_unpaged.mpr ⟨by decide, by decide⟩
  refine ⟨_, hanswer, Query.totalCount_run, List.mem_map_of_mem hshown, fun h => ?_⟩
  obtain ⟨project, hproject, -, -, hall⟩ := h.shown _ (List.mem_map_of_mem hshown)
  cases hproject
  exact absurd (hall FieldName.workspace (.exact "ws2") Std.ExtTreeMap.getElem?_insert_self)
    (by decide)

end ObjectCache

end AccessGateway
