import AccessGateway.Proofs.Access.Consulted

/-!
# `AccessGateway.Proofs.Access.Isolation`: a scope sees what is within its reach

Whatever changes in other workspaces and namespaces, a decision in a scope stays what it was, with
its reason. `Snapshot.AgreeIn` says of two snapshots that they have the same objects within reach
of a scope. Objects are those that a cache keeps: of several objects with one key, the last.

Within reach of every scope are the global roles and bindings. A workspace reaches its own bindings
and, since these are looked up by name first and compared by workspace afterwards, all workspace
roles. A namespace reaches its own roles and bindings and all workspace roles.

The empty namespace is the exception. Where bindings are listed it stands for all namespaces, so a
decision for it takes into account the bindings of every namespace, each with a role of its own.

* `ObjectCache.bindingsIn_load_congr`: the bindings of a scope are within its reach.
* `ObjectCache.grantedRole_load_congr`: so are the roles that these refer to.
* `ObjectCache.authorize_load_congr`: decisions of a scope other than the empty namespace depend on
  what is within its reach.
* `ObjectCache.authorize_emptyNamespace_allowed`: any namespace's binding is in effect in the empty
  namespace.
* `ObjectCache.isolated_iff`: the scopes that are isolated are all but the empty namespace.
-/

set_option autoImplicit false

namespace AccessGateway

/-- Two snapshots have the same objects within reach of a scope: the global roles and bindings, and
for a workspace all workspace roles and the workspace's bindings, or for a namespace all workspace
roles and the namespace's roles and bindings. Everything else in them is free. -/
structure Snapshot.AgreeIn (s t : Snapshot) (scope : Scope) : Prop where
  globalRoles : AgreeOn (fun _ => True) s.globalRoles t.globalRoles
  globalRoleBindings : AgreeOn (fun _ => True) s.globalRoleBindings t.globalRoleBindings
  workspaceRoles : scope ≠ .cluster → AgreeOn (fun _ => True) s.workspaceRoles t.workspaceRoles
  workspaceRoleBindings : ∀ name, scope = .workspace name →
    AgreeOn (fun b => b.metadata.workspace = some name)
      s.workspaceRoleBindings t.workspaceRoleBindings
  roles : ∀ name, scope = .namespace name →
    AgreeOn (fun role => role.metadata.namespace = name) s.roles t.roles
  roleBindings : ∀ name, scope = .namespace name →
    AgreeOn (fun binding => binding.metadata.namespace = name) s.roleBindings t.roleBindings

namespace Snapshot

/-- A namespace in which one user may get pipelines: a role with that rule and a binding of the user
to it, and nothing else in the cluster. -/
def withViewer («namespace» user : String) : Snapshot where
  roles := [⟨.namespaced «namespace» "viewer", [⟨["get"], ["pipelines"], []⟩]⟩]
  roleBindings :=
    [⟨.namespaced «namespace» (user ++ "-viewer"), [⟨.user, user⟩], ⟨.role, "viewer"⟩⟩]

/-- What a namespace with a name holds is out of reach of the empty one, so the snapshot agrees
there with one that holds nothing. -/
theorem agreeIn_withViewer {«namespace» : String} (hnamespace : «namespace» ≠ "") (user : String) :
    AgreeIn {} (.withViewer «namespace» user) (.namespace "") where
  globalRoles _ _ := Iff.rfl
  globalRoleBindings _ _ := Iff.rfl
  workspaceRoles _ _ _ := Iff.rfl
  workspaceRoleBindings _ h := nomatch h
  roles _ h := by
    cases h
    exact agreeOn_of_forall_not nofun fun _ hmem => List.mem_singleton.mp hmem ▸ hnamespace
  roleBindings _ h := by
    cases h
    exact agreeOn_of_forall_not nofun fun _ hmem => List.mem_singleton.mp hmem ▸ hnamespace

end Snapshot

namespace ObjectCache

variable {s t : Snapshot}

/-! ### Scopes that name something -/

/-- The bindings of a scope are within its reach, and are listed in the same order. For a namespace
this needs its name, without which the listing is that of all namespaces. -/
theorem bindingsIn_load_congr (cache other : ObjectCache) {scope : Scope}
    (hscope : scope ≠ .namespace "") (h : s.AgreeIn t scope) :
    (cache.load s).bindingsIn scope = (other.load t).bindingsIn scope := by
  have hglobal : (Store.ofList s.globalRoleBindings).list "" .everything
      = (Store.ofList t.globalRoleBindings).list "" .everything :=
    Store.list_ofList_congr fun binding _ => h.globalRoleBindings binding trivial
  cases scope with
  | cluster =>
    rw [load_eq, load_eq]
    simp only [bindingsIn, hglobal]
  | workspace name =>
    have hown : (Store.ofList s.workspaceRoleBindings).list ""
          (Selector.everything.withLabel workspaceLabel name)
        = (Store.ofList t.workspaceRoleBindings).list ""
          (Selector.everything.withLabel workspaceLabel name) :=
      Store.list_ofList_congr fun binding hsort => h.workspaceRoleBindings name rfl binding
        ((Selector.everything_withLabel_accepts _ _ _).mp hsort.2)
    rw [load_eq, load_eq]
    simp only [bindingsIn, hglobal, hown]
  | «namespace» name =>
    -- a listing for the empty namespace would have the bindings of all namespaces
    have hname : name ≠ "" := fun heq => hscope (by rw [heq])
    have hown : (Store.ofList s.roleBindings).list name .everything
        = (Store.ofList t.roleBindings).list name .everything :=
      Store.list_ofList_congr fun binding hsort =>
        h.roleBindings name rfl binding (hsort.1.resolve_left hname)
    rw [load_eq, load_eq]
    simp only [bindingsIn, hglobal, hown]

/-- The role that a binding of a scope grants is within reach of the scope. The reach of the binding
tells which sections its reference may lead to. -/
theorem grantedRole_load_congr (cache other : ObjectCache) {scope : Scope}
    (hscope : scope ≠ .namespace "") (h : s.AgreeIn t scope) {entry : RoleKind × RoleBinding}
    (hmem : entry ∈ (cache.load s).bindingsIn scope) :
    (cache.load s).grantedRole entry.1 entry.2 = (other.load t).grantedRole entry.1 entry.2 := by
  have hreach := reach_of_mem_bindingsIn hmem
  refine grantedRole_congr
    (Store.get?_ofList_congr fun role _ => h.globalRoles role trivial)
    (fun hnarrow => Store.get?_ofList_congr fun role _ => h.workspaceRoles ?_ role trivial)
    (fun hrole => ?_)
  · rintro rfl
    rcases hreach with hglobal | ⟨_, hscope, -⟩ | ⟨_, hscope, -⟩
    · exact hnarrow hglobal
    · cases hscope
    · cases hscope
  · rcases hreach with hglobal | ⟨_, -, hworkspace⟩ | ⟨name, rfl, -, hlisted⟩
    · cases hglobal.symm.trans hrole
    · cases hworkspace.symm.trans hrole
    · -- a binding of the namespace refers to the roles of the namespace
      have hname : name ≠ "" := fun heq => hscope (by rw [heq])
      have hown : entry.2.metadata.namespace = name :=
        ((Store.mem_list_ofList _ _ _ _).mp hlisted).2.1.resolve_left hname
      rw [hown]
      exact Store.get?_ofList_congr (h.roles name rfl)

/-- A decision in a scope that names something depends on what is within reach of the scope.
Allowance, denial and reason are the same for two snapshots that agree there. -/
theorem authorize_load_congr (cache other : ObjectCache) (user : Identity) (action : Action)
    (hscope : action.scope ≠ .namespace "") (h : s.AgreeIn t action.scope) :
    (cache.load s).authorize user action = (other.load t).authorize user action :=
  authorize_congr user action (bindingsIn_load_congr cache other hscope h)
    fun _ hmem => grantedRole_load_congr cache other hscope h hmem

/-! ### The empty namespace -/

/-- A snapshot without bindings allows nothing. -/
theorem authorize_load_empty (cache : ObjectCache) (user : Identity) (action : Action) :
    ((cache.load {}).authorize user action).allowed = false := by
  have hbindings : (cache.load {}).bindingsIn action.scope = [] := by
    cases action.scope <;> rfl
  rw [authorize_denied_iff, hbindings]
  exact nofun

/-- Whatever namespace a binding belongs to, the role of that namespace that it refers to is granted
in the empty namespace, although neither is within its reach. -/
theorem authorize_emptyNamespace_allowed (cache : ObjectCache) {user : Identity} {action : Action}
    {binding : RoleBinding} {role : Role} (hscope : action.scope = .namespace "")
    (hkept : IsLastOfKey s.roleBindings binding) (hlists : binding.Lists user)
    (hresolves : s.Resolves .role binding role)
    (hpermits : ∃ rule ∈ role.rules, rule.Permits action) :
    ((cache.load s).authorize user action).allowed = true := by
  have hlisted : binding ∈ (cache.load s).roleBindings.list "" .everything :=
    (Store.mem_list_ofList _ _ _ _).mpr ⟨hkept, Or.inl rfl, Selector.everything_accepts _⟩
  have hmem : (RoleKind.role, binding) ∈ (cache.load s).bindingsIn action.scope := by
    rw [hscope]
    exact List.mem_append_right _ (List.mem_map_of_mem hlisted)
  have hrank : binding.roleRef.kind.rank ≤ RoleKind.role.rank := by
    cases binding.roleRef.kind <;> decide
  refine (authorize_allowed_iff _ user action).mpr ⟨(.role, binding), hmem, role, ?_⟩
  exact (grantingRole_load_eq_some_iff cache s user action .role binding role).mpr
    ⟨hlists, hrank, hresolves, hpermits⟩

/-- The scopes in which decisions, with their reasons, depend only on what is within reach are all
but the empty namespace. There, two snapshots that agree on everything within reach may decide
differently. -/
theorem isolated_iff (scope : Scope) :
    (∀ (cache other : ObjectCache) (s t : Snapshot) (user : Identity) (action : Action),
      action.scope = scope → s.AgreeIn t scope →
        (cache.load s).authorize user action = (other.load t).authorize user action)
      ↔ scope ≠ .namespace "" := by
  constructor
  · rintro hisolated rfl
    -- nothing is within reach in either snapshot, and one of them grants elsewhere
    let action : Action := ⟨"get", "pipelines", none, .namespace ""⟩
    have hsame := hisolated .empty .empty {} (.withViewer "dev" "bob") (.named "bob") action rfl
      (Snapshot.agreeIn_withViewer (by decide) "bob")
    have hallowed : ((ObjectCache.empty.load (.withViewer "dev" "bob")).authorize (.named "bob")
        action).allowed = true :=
      authorize_emptyNamespace_allowed .empty rfl ⟨[], [], rfl, nofun⟩
        ⟨_, List.mem_singleton_self _, Or.inl ⟨rfl, rfl⟩⟩
        (.role rfl ⟨[], [], rfl, nofun⟩ rfl rfl)
        ⟨_, List.mem_singleton_self _, ⟨⟨_, List.mem_singleton_self _, Or.inr rfl⟩,
          ⟨_, List.mem_singleton_self _, Or.inr rfl⟩, Or.inl rfl⟩⟩
    rw [← hsame, authorize_load_empty] at hallowed
    cases hallowed
  · rintro hscope cache other s t user action rfl hagree
    exact authorize_load_congr cache other user action hscope hagree

/-- A role and its binding in another namespace let someone act in the empty namespace, of which
nothing has changed. -/
theorem authorize_emptyNamespace_bob :
    let action : Action := ⟨"get", "pipelines", none, .namespace ""⟩
    Snapshot.AgreeIn {} (.withViewer "dev" "bob") action.scope ∧
    ((ObjectCache.empty.load {}).authorize (.named "bob") action).allowed = false ∧
    ((ObjectCache.empty.load (.withViewer "dev" "bob")).authorize (.named "bob") action).allowed
      = true :=
  ⟨Snapshot.agreeIn_withViewer (by decide) "bob", by decide, by decide⟩

end ObjectCache

end AccessGateway
