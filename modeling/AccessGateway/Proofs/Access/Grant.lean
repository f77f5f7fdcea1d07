import AccessGateway.Access.Authorizer
import AccessGateway.Proofs.Cluster.Selector
import AccessGateway.Proofs.Cluster.Store

/-!
# `AccessGateway.Proofs.Access.Grant`: an action is allowed when a binding grants it

`ObjectCache.authorize` collects the bindings of a scope, resolves the role of each and stops at
the first one with a rule for the action. `Snapshot.Grants` says the same of the lists of a
snapshot, without the stores and without an order of search: a binding is in effect, it lists
the identity, its role resolves, and a rule of the role permits the action. Each of the four is a
predicate of its own, with one constructor for each section that it can come from.

* `ObjectCache.mem_bindingsIn`: where the bindings of a scope come from.
* `ObjectCache.authorize_cases`: a decision is an allowance for a granting binding of the scope,
  or a denial because no binding of the scope grants. It is the only place where the search itself
  is opened; all later results about decisions start from it.
* `ObjectCache.authorize_allowed_iff`, `ObjectCache.authorize_denied_iff`: which of the two it is.
* `ObjectCache.mem_bindingsIn_of_inEffect`, `ObjectCache.mem_bindingsIn_load`: the bindings that a
  loaded cache finds for a scope are those in effect.
* `ObjectCache.grantingRole_load_eq_some_iff`: what it takes for a binding to grant.
* `ObjectCache.authorize_load_allowed_iff`: allowed exactly when granted, and an allowance names
  a role and a binding that grant it.

Snapshots may have several objects under one key. A store keeps the last of them, so every predicate
speaks of objects that are last of their key (`IsLastOfKey`): a role or a binding that a later one
hides neither grants nor is granted.

The scope of the empty namespace is left out of the equivalence. A listing for it has the bindings
of all namespaces, so more is found there than is in effect; `Proofs.Access.Isolation` says what
follows from that.
-/

set_option autoImplicit false

namespace AccessGateway

/-! ### What a binding grants -/

/-- The rule has the verb and the resource of an action, or the wildcard in their place, and is
restricted to no names or to some that the action's name is among. A rule that is restricted to
names permits no action without a name. -/
structure Rule.Permits (rule : Rule) (action : Action) : Prop where
  verb : ∃ verb ∈ rule.verbs, verb = "*" ∨ verb = action.verb
  resource : ∃ resource ∈ rule.resources, resource = "*" ∨ resource = action.resource
  name : rule.names = [] ∨ ∃ name ∈ rule.names, action.name = some name

/-- The binding has a user subject of the identity's name, or a group subject for one of its groups.
Service accounts are among the subjects that list no one. -/
def RoleBinding.Lists (binding : RoleBinding) (user : Identity) : Prop :=
  ∃ subject ∈ binding.subjects,
    (subject.kind = .user ∧ subject.name = user.name) ∨
    (subject.kind = .group ∧ subject.name ∈ user.groups)

namespace Snapshot

/-- The bindings in effect in a scope, with the reach of the section that holds them: global ones
everywhere, a workspace's in the workspace of their label, a namespace's in their namespace. The
scope decides which constructors apply, so in the cluster only global bindings are. -/
inductive InEffect (snapshot : Snapshot) : Scope → RoleKind → RoleBinding → Prop where
  | everywhere {scope : Scope} {binding : RoleBinding}
      (kept : IsLastOfKey snapshot.globalRoleBindings binding) :
      InEffect snapshot scope .globalRole binding
  | workspace {name : String} {binding : RoleBinding}
      (kept : IsLastOfKey snapshot.workspaceRoleBindings binding)
      (label : binding.metadata.workspace = some name) :
      InEffect snapshot (.workspace name) .workspaceRole binding
  | «namespace» {name : String} {binding : RoleBinding}
      (kept : IsLastOfKey snapshot.roleBindings binding)
      (own : binding.metadata.namespace = name) :
      InEffect snapshot (.namespace name) .role binding

/-- The role that a binding of some reach refers to: a global or workspace role of the whole
cluster, or a role of the binding's own namespace. A workspace binding refers only to workspace
roles of its own workspace; a namespace binding may refer to those of any workspace. -/
inductive Resolves (snapshot : Snapshot) (reach : RoleKind) (binding : RoleBinding) (role : Role) :
    Prop where
  | globalRole (kind : binding.roleRef.kind = .globalRole)
      (kept : IsLastOfKey snapshot.globalRoles role) (cluster : role.metadata.namespace = "")
      (name : role.metadata.name = binding.roleRef.name)
  | workspaceRole (kind : binding.roleRef.kind = .workspaceRole)
      (kept : IsLastOfKey snapshot.workspaceRoles role) (cluster : role.metadata.namespace = "")
      (name : role.metadata.name = binding.roleRef.name)
      (own : reach = .workspaceRole → role.metadata.workspace = binding.metadata.workspace)
  | role (kind : binding.roleRef.kind = .role) (kept : IsLastOfKey snapshot.roles role)
      (own : role.metadata.namespace = binding.metadata.namespace)
      (name : role.metadata.name = binding.roleRef.name)

/-- A binding grants an action to an identity through a role. It is in effect where the action takes
place, lists the identity, refers to a role that is not narrower than its own reach, and one rule of
that role permits the whole action. -/
structure Grants (snapshot : Snapshot) (user : Identity) (action : Action) (reach : RoleKind)
    (binding : RoleBinding) (role : Role) : Prop where
  inEffect : snapshot.InEffect action.scope reach binding
  lists : binding.Lists user
  reaches : binding.roleRef.kind.rank ≤ reach.rank
  resolves : snapshot.Resolves reach binding role
  permits : ∃ rule ∈ role.rules, rule.Permits action

end Snapshot

/-- `Rule.covers` decides whether a list has a word or the wildcard. Verbs and resources are both
looked for in this way. -/
theorem Rule.covers_iff (granted : List String) (word : String) :
    Rule.covers granted word = true ↔ ∃ g ∈ granted, g = "*" ∨ g = word := by
  simp [Rule.covers, Rule.wildcard]

/-- `Rule.allows` decides `Rule.Permits`: the three tests of a rule are those of its verbs, its
resources and its names. -/
theorem Rule.allows_iff (rule : Rule) (action : Action) :
    rule.allows action.verb action.resource action.name = true ↔ rule.Permits action := by
  rw [Rule.allows, Bool.and_eq_true, Bool.and_eq_true, Rule.covers_iff, Rule.covers_iff,
    Bool.or_eq_true]
  have hname : (rule.names.isEmpty = true ∨ action.name.any rule.names.contains = true)
      ↔ (rule.names = [] ∨ ∃ name ∈ rule.names, action.name = some name) := by
    cases action.name <;> simp
  rw [hname]
  exact ⟨fun ⟨⟨verb, resource⟩, name⟩ => ⟨verb, resource, name⟩,
    fun ⟨verb, resource, name⟩ => ⟨⟨verb, resource⟩, name⟩⟩

/-- `RoleBinding.appliesTo` decides `RoleBinding.Lists`. A subject stands for an identity by its
kind, and the third kind for none. -/
theorem RoleBinding.appliesTo_iff (binding : RoleBinding) (user : Identity) :
    binding.appliesTo user = true ↔ binding.Lists user := by
  rw [RoleBinding.appliesTo, List.any_eq_true]
  refine exists_congr fun subject => and_congr_right fun _ => ?_
  cases h : subject.kind <;> simp [Subject.isFor, h]

namespace ObjectCache

/-! ### Decisions of any cache -/

/-- A binding of a scope is a global one, or one of the workspace or the namespace that the scope
is, and comes with the reach of its section. -/
theorem mem_bindingsIn {cache : ObjectCache} {scope : Scope} {reach : RoleKind}
    {binding : RoleBinding} : (reach, binding) ∈ cache.bindingsIn scope ↔
      (reach = .globalRole ∧ binding ∈ cache.globalRoleBindings.list "" .everything) ∨
      (∃ name, scope = .workspace name ∧ reach = .workspaceRole ∧
        binding ∈ cache.workspaceRoleBindings.list ""
          (Selector.everything.withLabel workspaceLabel name)) ∨
      ∃ name, scope = .namespace name ∧ reach = .role ∧
        binding ∈ cache.roleBindings.list name .everything := by
  have hpart : ∀ (kind : RoleKind) (listed : List RoleBinding),
      (reach, binding) ∈ listed.map (kind, ·) ↔ reach = kind ∧ binding ∈ listed := by
    intro kind listed
    simp only [List.mem_map, Prod.mk.injEq]
    constructor
    · rintro ⟨_, hlisted, rfl, rfl⟩
      exact ⟨rfl, hlisted⟩
    · rintro ⟨rfl, hlisted⟩
      exact ⟨binding, hlisted, rfl, rfl⟩
  cases scope <;> simp [bindingsIn, hpart]

/-- A decision has two forms. A binding of the scope grants the action through a role, and the
reason names both, or no binding of the scope grants it and the reason repeats the question. -/
theorem authorize_cases (cache : ObjectCache) (user : Identity) (action : Action) :
    (∃ entry ∈ cache.bindingsIn action.scope, ∃ role,
      cache.grantingRole user action entry = some role ∧
      cache.authorize user action = ⟨true, allowReason role entry.2⟩) ∨
    ((∀ entry ∈ cache.bindingsIn action.scope, cache.grantingRole user action entry = none) ∧
      cache.authorize user action = ⟨false, denyReason user action⟩) := by
  rw [authorize]
  split
  · -- the search stopped at an entry, and its reason is made from the role found there
    rename_i reason hfound
    obtain ⟨entry, hmem, hentry⟩ := List.exists_of_findSome?_eq_some hfound
    obtain ⟨role, hrole, rfl⟩ := Option.map_eq_some_iff.mp hentry
    exact Or.inl ⟨entry, hmem, role, hrole, rfl⟩
  · rename_i hnone
    refine Or.inr ⟨fun entry hmem => ?_, rfl⟩
    exact Option.map_eq_none_iff.mp (List.findSome?_eq_none_iff.mp hnone entry hmem)

/-- An action is allowed exactly when a binding of the scope grants it. Which one does, if several
do, shows in the reason only. -/
theorem authorize_allowed_iff (cache : ObjectCache) (user : Identity) (action : Action) :
    (cache.authorize user action).allowed = true
      ↔ ∃ entry ∈ cache.bindingsIn action.scope, ∃ role,
          cache.grantingRole user action entry = some role := by
  rcases cache.authorize_cases user action with ⟨entry, hmem, role, hrole, heq⟩ | ⟨hnone, heq⟩
  · rw [heq]
    exact ⟨fun _ => ⟨entry, hmem, role, hrole⟩, fun _ => rfl⟩
  · rw [heq]
    refine ⟨nofun, ?_⟩
    rintro ⟨entry, hmem, role, hrole⟩
    rw [hnone entry hmem] at hrole
    cases hrole

/-- An action is denied exactly when no binding of the scope grants it: there is no rule that takes
a right away. -/
theorem authorize_denied_iff (cache : ObjectCache) (user : Identity) (action : Action) :
    (cache.authorize user action).allowed = false
      ↔ ∀ entry ∈ cache.bindingsIn action.scope, cache.grantingRole user action entry = none := by
  rw [← Bool.not_eq_true, authorize_allowed_iff]
  constructor
  · intro hnone entry hmem
    exact Option.eq_none_iff_forall_not_mem.mpr fun role hrole => hnone ⟨entry, hmem, role, hrole⟩
  · rintro hnone ⟨entry, hmem, role, hrole⟩
    rw [hnone entry hmem] at hrole
    cases hrole

/-! ### Decisions of a loaded cache -/

/-- Loading a snapshot leaves nothing of the previous contents in any section: each is a store made
from the list of the snapshot. -/
theorem load_eq (cache : ObjectCache) (snapshot : Snapshot) :
    cache.load snapshot =
      { users := .ofList snapshot.users
        globalRoles := .ofList snapshot.globalRoles
        workspaceRoles := .ofList snapshot.workspaceRoles
        roles := .ofList snapshot.roles
        globalRoleBindings := .ofList snapshot.globalRoleBindings
        workspaceRoleBindings := .ofList snapshot.workspaceRoleBindings
        roleBindings := .ofList snapshot.roleBindings
        namespaces := .ofList snapshot.namespaces
        workspaces := .ofList snapshot.workspaces
        workspaceTemplates := .ofList snapshot.workspaceTemplates
        devopsProjects := .ofList snapshot.devopsProjects
        builders := .ofList snapshot.builders
        buildRuns := .ofList snapshot.buildRuns
        builderTemplates := .ofList snapshot.builderTemplates } := rfl

/-- A binding in effect is found for its scope, whatever the scope. This half needs no condition:
the listing for the empty namespace has more bindings, not fewer. -/
theorem mem_bindingsIn_of_inEffect (cache : ObjectCache) (snapshot : Snapshot) {scope : Scope}
    {reach : RoleKind} {binding : RoleBinding} (h : snapshot.InEffect scope reach binding) :
    (reach, binding) ∈ (cache.load snapshot).bindingsIn scope := by
  rw [mem_bindingsIn, load_eq]
  simp only [Store.mem_list_ofList, Selector.everything_accepts,
    Selector.everything_withLabel_accepts, true_or, true_and, and_true]
  cases h with
  | everywhere hkept => exact Or.inl ⟨rfl, hkept⟩
  | workspace hkept hlabel => exact Or.inr (Or.inl ⟨_, rfl, rfl, hkept, hlabel⟩)
  -- a list for the empty namespace has the bindings of all namespaces, and so this one
  | «namespace» hkept hown => exact Or.inr (Or.inr ⟨_, rfl, rfl, hkept, Or.inr hown⟩)

/-- The bindings that are found for a scope are those in effect. The empty namespace is left out: it
stands for all namespaces when bindings are listed. -/
theorem mem_bindingsIn_load (cache : ObjectCache) (snapshot : Snapshot) (scope : Scope)
    (hscope : scope ≠ .namespace "") (reach : RoleKind) (binding : RoleBinding) :
    (reach, binding) ∈ (cache.load snapshot).bindingsIn scope
      ↔ snapshot.InEffect scope reach binding := by
  refine ⟨fun h => ?_, cache.mem_bindingsIn_of_inEffect snapshot⟩
  rw [mem_bindingsIn, load_eq] at h
  simp only [Store.mem_list_ofList, Selector.everything_accepts,
    Selector.everything_withLabel_accepts, true_or, true_and, and_true] at h
  obtain ⟨rfl, hkept⟩ | ⟨name, rfl, rfl, hkept, hlabel⟩ | ⟨name, rfl, rfl, hkept, hown⟩ := h
  · exact .everywhere hkept
  · exact .workspace hkept hlabel
  · -- a list for the empty namespace would have the bindings of all namespaces
    have hname : name ≠ "" := fun h => hscope (by rw [h])
    exact .namespace hkept (hown.resolve_left hname)

/-- The role that a binding of some reach grants: its reference is not narrower than that, and
resolves. Both conditions are needed, since a narrower reference may well name a role that
exists. -/
theorem grantedRole_load_eq_some_iff (cache : ObjectCache) (snapshot : Snapshot) (reach : RoleKind)
    (binding : RoleBinding) (role : Role) :
    (cache.load snapshot).grantedRole reach binding = some role
      ↔ binding.roleRef.kind.rank ≤ reach.rank ∧ snapshot.Resolves reach binding role := by
  rw [load_eq, grantedRole]
  by_cases hreach : binding.roleRef.kind.rank ≤ reach.rank
  · have hnarrow : binding.roleRef.kind.isNarrowerThan reach = false := by
      simpa [RoleKind.isNarrowerThan] using hreach
    simp only [hnarrow, hreach, true_and, Bool.false_eq_true, if_false]
    -- the kind of the reference names the section that is searched, and the constructor
    cases hkind : binding.roleRef.kind with
    | globalRole =>
      rw [Store.get?_ofList_eq_some_iff]
      constructor
      · rintro ⟨hkept, hcluster, hname⟩
        exact .globalRole hkind hkept hcluster hname
      · rintro (⟨-, hkept, hcluster, hname⟩ | ⟨h, -⟩ | ⟨h, -⟩)
        · exact ⟨hkept, hcluster, hname⟩
        · cases hkind.symm.trans h
        · cases hkind.symm.trans h
    | workspaceRole =>
      simp only [Option.bind_eq_bind, Option.bind_eq_some_iff, Store.get?_ofList_eq_some_iff]
      constructor
      · rintro ⟨found, ⟨hkept, hcluster, hname⟩, hown⟩
        split at hown
        · cases hown
        · -- the guard has let the role through, so for a workspace binding the labels agree
          rename_i hsame
          cases hown
          exact .workspaceRole hkind hkept hcluster hname fun h =>
            Decidable.byContradiction fun hne => hsame ⟨h, hne⟩
      · rintro (⟨h, -⟩ | ⟨-, hkept, hcluster, hname, hown⟩ | ⟨h, -⟩)
        · cases hkind.symm.trans h
        · refine ⟨role, ⟨hkept, hcluster, hname⟩, if_neg ?_⟩
          rintro ⟨h, hne⟩
          exact hne (hown h)
        · cases hkind.symm.trans h
    | role =>
      rw [Store.get?_ofList_eq_some_iff]
      constructor
      · rintro ⟨hkept, hown, hname⟩
        exact .role hkind hkept hown hname
      · rintro (⟨h, -⟩ | ⟨h, -⟩ | ⟨-, hkept, hown, hname⟩)
        · cases hkind.symm.trans h
        · cases hkind.symm.trans h
        · exact ⟨hkept, hown, hname⟩
  · have hnarrow : binding.roleRef.kind.isNarrowerThan reach = true := by
      simpa [RoleKind.isNarrowerThan] using hreach
    simp [hnarrow, hreach]

/-- A binding grants through a role: it lists the identity, the role is the one it refers to, and a
rule of the role permits the action. Nothing is said of a scope, which only selects the bindings
that are asked. -/
theorem grantingRole_load_eq_some_iff (cache : ObjectCache) (snapshot : Snapshot) (user : Identity)
    (action : Action) (reach : RoleKind) (binding : RoleBinding) (role : Role) :
    (cache.load snapshot).grantingRole user action (reach, binding) = some role
      ↔ binding.Lists user ∧ binding.roleRef.kind.rank ≤ reach.rank ∧
        snapshot.Resolves reach binding role ∧ ∃ rule ∈ role.rules, rule.Permits action := by
  have hrules : (role.rules.any fun rule =>
        rule.allows action.verb action.resource action.name) = true
      ↔ ∃ rule ∈ role.rules, rule.Permits action := by
    simp only [List.any_eq_true, Rule.allows_iff]
  rw [grantingRole]
  by_cases hlists : binding.Lists user
  · rw [if_pos ((binding.appliesTo_iff user).mpr hlists), Option.filter_eq_some_iff,
      grantedRole_load_eq_some_iff, hrules]
    exact ⟨fun ⟨⟨hreach, hres⟩, hperm⟩ => ⟨hlists, hreach, hres, hperm⟩,
      fun ⟨_, hreach, hres, hperm⟩ => ⟨⟨hreach, hres⟩, hperm⟩⟩
  · rw [if_neg fun h => hlists ((binding.appliesTo_iff user).mp h)]
    simp [hlists]

/-- The bindings of a scope that grant an action are the granting ones of the snapshot. What the
cache finds in two steps, the listing and the role, is one relation on the snapshot. -/
theorem grants_iff (cache : ObjectCache) (snapshot : Snapshot) (user : Identity) (action : Action)
    (hscope : action.scope ≠ .namespace "") (reach : RoleKind) (binding : RoleBinding)
    (role : Role) :
    snapshot.Grants user action reach binding role
      ↔ (reach, binding) ∈ (cache.load snapshot).bindingsIn action.scope ∧
        (cache.load snapshot).grantingRole user action (reach, binding) = some role := by
  rw [mem_bindingsIn_load _ _ _ hscope, grantingRole_load_eq_some_iff]
  exact ⟨fun ⟨heffect, hlists, hreach, hres, hperm⟩ => ⟨heffect, hlists, hreach, hres, hperm⟩,
    fun ⟨heffect, hlists, hreach, hres, hperm⟩ => ⟨heffect, hlists, hreach, hres, hperm⟩⟩

/-- An action is allowed exactly when some binding grants it. An allowance gives as its reason the
role, the kind of the reference and the binding of such a grant, and a denial gives what was asked
for: the user, the verb, the resource and the scope. The decision is that of any cache that has
loaded the snapshot, whatever it held before. -/
theorem authorize_load_allowed_iff (cache : ObjectCache) (snapshot : Snapshot) (user : Identity)
    (action : Action) (hscope : action.scope ≠ .namespace "") :
    let decision := (cache.load snapshot).authorize user action
    (decision.allowed = true
      ↔ ∃ reach binding role, snapshot.Grants user action reach binding role) ∧
    (decision.allowed = true →
      ∃ reach binding role, snapshot.Grants user action reach binding role ∧
        decision.reason = "allowed by " ++ Text.quoted role.metadata.name ++ " " ++
          binding.roleRef.kind.name ++ " via binding " ++ Text.quoted binding.metadata.name) ∧
    (decision.allowed = false →
      decision.reason = "user " ++ Text.quoted user.name ++ " cannot " ++ action.verb ++ " " ++
        action.resource ++ " in " ++ action.scope.display) := by
  intro decision
  have hgrants := grants_iff cache snapshot user action hscope
  rcases (cache.load snapshot).authorize_cases user action with
    ⟨⟨reach, binding⟩, hmem, role, hrole, heq⟩ | ⟨hnone, heq⟩
  · have hgrant := (hgrants reach binding role).mpr ⟨hmem, hrole⟩
    have hdecision : decision = ⟨true, allowReason role binding⟩ := heq
    rw [hdecision]
    exact ⟨⟨fun _ => ⟨reach, binding, role, hgrant⟩, fun _ => rfl⟩,
      fun _ => ⟨reach, binding, role, hgrant, rfl⟩, nofun⟩
  · -- a grant of the snapshot would be an entry that the search has found wanting
    have hnogrant : ¬ ∃ reach binding role, snapshot.Grants user action reach binding role := by
      rintro ⟨reach, binding, role, hgrant⟩
      have hfound := (hgrants reach binding role).mp hgrant
      rw [hnone _ hfound.1] at hfound
      cases hfound.2
    have hdecision : decision = ⟨false, denyReason user action⟩ := heq
    rw [hdecision]
    exact ⟨⟨nofun, fun h => absurd h hnogrant⟩, nofun, fun _ => rfl⟩

/-- A group's binding in a workspace lets a member use a role of that workspace there. -/
theorem authorize_load_allowed_workspaceGroup :
    let role : Role := ⟨(Metadata.named "admin").withLabel workspaceLabel "ws1",
      [⟨["*"], ["devopsprojects"], []⟩]⟩
    let binding : RoleBinding := ⟨(Metadata.named "team").withLabel workspaceLabel "ws1",
      [⟨.group, "developers"⟩], ⟨.workspaceRole, "admin"⟩⟩
    let user := (Identity.named "alice").withGroup "developers"
    let action : Action := ⟨"list", "devopsprojects", none, .workspace "ws1"⟩
    let cache := ObjectCache.empty.load
      { workspaceRoles := [role], workspaceRoleBindings := [binding] }
    action.scope ≠ .namespace "" ∧ (cache.authorize user action).allowed = true := by
  intro role binding user action cache
  have hws : binding.metadata.workspace = some "ws1" := Std.ExtTreeMap.getElem?_insert_self
  refine ⟨by decide, ((authorize_load_allowed_iff ObjectCache.empty _ user action
    (by decide)).1).mpr ⟨.workspaceRole, binding, role, ?_⟩⟩
  exact {
    inEffect := .workspace ⟨[], [], rfl, by simp⟩ hws
    lists := ⟨⟨.group, "developers"⟩, List.mem_singleton_self _,
      Or.inr ⟨rfl, Std.ExtTreeSet.mem_insert_self⟩⟩
    reaches := Nat.le_refl 1
    resolves := .workspaceRole rfl ⟨[], [], rfl, by simp⟩ rfl rfl fun _ => rfl
    permits := ⟨⟨["*"], ["devopsprojects"], []⟩, List.mem_singleton_self _,
      ⟨⟨"*", by decide, Or.inl rfl⟩, ⟨"devopsprojects", by decide, Or.inr rfl⟩, Or.inl rfl⟩⟩ }

end ObjectCache

end AccessGateway
