import AccessGateway.Proofs.Access.Grant
import AccessGateway.Proofs.Cluster.Growth

/-!
# `AccessGateway.Proofs.Access.Monotone`: more policy allows no less

No role and no binding denies anything. What a policy allows it still allows after rules have been
put into its roles, subjects into its bindings, and roles and bindings beside those that it has.
It also allows it to someone of the same name who is in more groups.

Each part of a grant is kept on its own: the binding is still in effect, as its metadata have not
changed, its subjects still list the identity, the role that it refers to is still found, and the
rule that permits the action is still in the role. A reference that resolved to nothing may now
resolve, and another binding may be the first to grant, which changes the reason and not the
verdict.

* `Snapshot.Extends`: a policy with more in it, section by section. An added role or binding has a
  key of its own: under a used key it would hide what was there, and might allow less.
* `ObjectCache.mem_bindingsIn_of_extends`, `RoleBinding.Lists.of_grows`,
  `Snapshot.Resolves.of_extends`: the parts of a grant.
* `ObjectCache.grantingRole_of_extends`: a binding that grants still does.
* `ObjectCache.authorize_load_mono`: what is allowed is still allowed.

The empty namespace is no exception here. It lists the bindings of all namespaces, and those only
become more. So the parts of a grant are stated on what the cache finds, and not through
`Snapshot.Grants`, which leaves that scope out.
-/

set_option autoImplicit false

namespace AccessGateway

/-! ### Policies that grow -/

/-- Rules were put into a role, at any places. Its metadata are the same, so it has the key and the
workspace that it had. -/
structure Role.Grows (role larger : Role) : Prop where
  metadata : larger.metadata = role.metadata
  rules : role.rules.Sublist larger.rules

/-- Roles grow by gaining rules. Their metadata, and so their keys, stay what they are. -/
theorem Role.isGrowth : IsGrowth Role.Grows where
  refl _ := ⟨rfl, List.Sublist.refl _⟩
  trans h h' := ⟨h'.metadata.trans h.metadata, h.rules.trans h'.rules⟩
  metadata := Role.Grows.metadata

/-- Subjects were put into a binding, at any places. It goes on referring to the same role from the
same namespace or workspace. -/
structure RoleBinding.Grows (binding larger : RoleBinding) : Prop where
  metadata : larger.metadata = binding.metadata
  roleRef : larger.roleRef = binding.roleRef
  subjects : binding.subjects.Sublist larger.subjects

/-- Bindings grow by gaining subjects, and go on naming the same role. -/
theorem RoleBinding.isGrowth : IsGrowth RoleBinding.Grows where
  refl _ := ⟨rfl, rfl, List.Sublist.refl _⟩
  trans h h' := ⟨h'.metadata.trans h.metadata, h'.roleRef.trans h.roleRef,
    h.subjects.trans h'.subjects⟩
  metadata := RoleBinding.Grows.metadata

/-- The second snapshot has the policy of the first, with rules put into its roles, subjects put
into its bindings, and further roles and bindings under fresh keys. The other sections are not
policy, and may be anything. -/
structure Snapshot.Extends (s t : Snapshot) : Prop where
  globalRoles : Insertions Role.Grows s.globalRoles t.globalRoles
  workspaceRoles : Insertions Role.Grows s.workspaceRoles t.workspaceRoles
  roles : Insertions Role.Grows s.roles t.roles
  globalRoleBindings : Insertions RoleBinding.Grows s.globalRoleBindings t.globalRoleBindings
  workspaceRoleBindings :
    Insertions RoleBinding.Grows s.workspaceRoleBindings t.workspaceRoleBindings
  roleBindings : Insertions RoleBinding.Grows s.roleBindings t.roleBindings

/-! ### The parts of a grant -/

section
variable {s t : Snapshot} {user member : Identity} {binding larger : RoleBinding}

/-- Who is listed is still listed, with more groups and among more subjects. A user subject asks for
the name, which has to stay; a group subject for one group, which is still among them. -/
theorem RoleBinding.Lists.of_grows (hgrown : binding.Grows larger) (hname : member.name = user.name)
    (hgroups : ∀ group ∈ user.groups, group ∈ member.groups) (hlists : binding.Lists user) :
    larger.Lists member := by
  obtain ⟨subject, hmem, hsubject⟩ := hlists
  refine ⟨subject, hgrown.subjects.subset hmem, ?_⟩
  rcases hsubject with ⟨hkind, huser⟩ | ⟨hkind, hgroup⟩
  · exact Or.inl ⟨hkind, huser.trans hname.symm⟩
  · exact Or.inr ⟨hkind, hgroups _ hgroup⟩

/-- A reference that resolves still does, to what the role has grown into. That is one role, since
the key of the role has stayed and no other object has taken it. -/
theorem Snapshot.Resolves.of_extends {reach : RoleKind} {role : Role} (hextends : s.Extends t)
    (hgrown : binding.Grows larger) (hresolves : s.Resolves reach binding role) :
    ∃ more, t.Resolves reach larger more ∧ role.Grows more := by
  cases hresolves with
  | globalRole hkind hkept hcluster hname =>
    -- a role is found by its metadata and referred to by kind and name, all of which it keeps
    obtain ⟨more, hmore, hrole⟩ :=
      GrowsInto.of_insertions Role.isGrowth hextends.globalRoles role hkept
    rw [← hrole.metadata] at hcluster hname
    rw [← hgrown.roleRef] at hkind hname
    exact ⟨more, .globalRole hkind hmore hcluster hname, hrole⟩
  | workspaceRole hkind hkept hcluster hname hown =>
    obtain ⟨more, hmore, hrole⟩ :=
      GrowsInto.of_insertions Role.isGrowth hextends.workspaceRoles role hkept
    -- the labels of the role and of the binding are the same, so they still agree
    rw [← hrole.metadata] at hcluster hname hown
    rw [← hgrown.roleRef] at hkind hname
    rw [← hgrown.metadata] at hown
    exact ⟨more, .workspaceRole hkind hmore hcluster hname hown, hrole⟩
  | role hkind hkept hown hname =>
    obtain ⟨more, hmore, hrole⟩ := GrowsInto.of_insertions Role.isGrowth hextends.roles role hkept
    rw [← hrole.metadata] at hown hname
    rw [← hgrown.roleRef] at hkind hname
    rw [← hgrown.metadata] at hown
    exact ⟨more, .role hkind hmore hown hname, hrole⟩

namespace ObjectCache

/-- A binding that is found for a scope is still found there, with what was put into it: the
listings select by namespace and label, which are metadata. -/
theorem mem_bindingsIn_of_extends (cache other : ObjectCache) {scope : Scope} {reach : RoleKind}
    (hextends : s.Extends t) (hmem : (reach, binding) ∈ (cache.load s).bindingsIn scope) :
    ∃ larger, (reach, larger) ∈ (other.load t).bindingsIn scope ∧ binding.Grows larger := by
  -- the three sections are listed alike, each with its own selector
  have hpart : ∀ {bindings others : List RoleBinding} {name : String} {selector : Selector},
      Insertions RoleBinding.Grows bindings others →
      binding ∈ (Store.ofList bindings).list name selector →
      ∃ larger ∈ (Store.ofList others).list name selector, binding.Grows larger :=
    fun hinserted hlisted =>
      (GrowsInto.of_insertions RoleBinding.isGrowth hinserted).mem_list RoleBinding.isGrowth hlisted
  rw [load_eq] at hmem ⊢
  rcases mem_bindingsIn.mp hmem with
    ⟨rfl, hlisted⟩ | ⟨name, rfl, rfl, hlisted⟩ | ⟨name, rfl, rfl, hlisted⟩
  · obtain ⟨larger, hlarger, hgrown⟩ := hpart hextends.globalRoleBindings hlisted
    exact ⟨larger, mem_bindingsIn.mpr (Or.inl ⟨rfl, hlarger⟩), hgrown⟩
  · obtain ⟨larger, hlarger, hgrown⟩ := hpart hextends.workspaceRoleBindings hlisted
    exact ⟨larger, mem_bindingsIn.mpr (Or.inr (Or.inl ⟨name, rfl, rfl, hlarger⟩)), hgrown⟩
  · obtain ⟨larger, hlarger, hgrown⟩ := hpart hextends.roleBindings hlisted
    exact ⟨larger, mem_bindingsIn.mpr (Or.inr (Or.inr ⟨name, rfl, rfl, hlarger⟩)), hgrown⟩

/-! ### Decisions -/

/-- A binding that grants an action still grants it, through what its role has grown into. The rule
that permitted the action is still among those of the role. -/
theorem grantingRole_of_extends (cache other : ObjectCache) {action : Action} {reach : RoleKind}
    {role : Role} (hextends : s.Extends t) (hgrown : binding.Grows larger)
    (hname : member.name = user.name) (hgroups : ∀ group ∈ user.groups, group ∈ member.groups)
    (hrole : (cache.load s).grantingRole user action (reach, binding) = some role) :
    ∃ more, (other.load t).grantingRole member action (reach, larger) = some more ∧
      role.Grows more := by
  obtain ⟨hlists, hreach, hresolves, rule, hrule, hpermits⟩ :=
    (grantingRole_load_eq_some_iff _ _ _ _ _ _ _).mp hrole
  obtain ⟨more, hmore, hgrownRole⟩ := hresolves.of_extends hextends hgrown
  rw [← hgrown.roleRef] at hreach
  exact ⟨more, (grantingRole_load_eq_some_iff _ _ _ _ _ _ _).mpr
    ⟨hlists.of_grows hgrown hname hgroups, hreach, hmore, rule,
      hgrownRole.rules.subset hrule, hpermits⟩, hgrownRole⟩

/-- What a policy allows to someone, an extension of it allows to whoever has that name and is in at
least those groups. The two caches may have held anything before. Roles and bindings that are hidden
by later ones of their key are extended with the rest, so which of them is found does not matter. -/
theorem authorize_load_mono (cache other : ObjectCache) {action : Action} (hextends : s.Extends t)
    (hname : member.name = user.name) (hgroups : ∀ group ∈ user.groups, group ∈ member.groups)
    (hallowed : ((cache.load s).authorize user action).allowed = true) :
    ((other.load t).authorize member action).allowed = true := by
  obtain ⟨⟨reach, binding⟩, hmem, role, hrole⟩ := (authorize_allowed_iff _ _ _).mp hallowed
  obtain ⟨larger, hlarger, hgrown⟩ := mem_bindingsIn_of_extends cache other hextends hmem
  -- any binding that grants will do: it need not be the one that is found first
  obtain ⟨more, hmore, -⟩ :=
    grantingRole_of_extends cache other hextends hgrown hname hgroups hrole
  exact (authorize_allowed_iff _ _ _).mpr ⟨(reach, larger), hlarger, more, hmore⟩

end ObjectCache

end

/-- A rule is put before the one that lets bob list users, carol before his group in its binding,
and another role and its binding before and behind; bob himself joins another group. -/
theorem ObjectCache.authorize_load_mono_bob :
    let viewer : Role := ⟨.named "viewer", [⟨["list"], ["users"], []⟩]⟩
    let editor : Role := ⟨.named "viewer", [⟨["update"], ["users"], []⟩, ⟨["list"], ["users"], []⟩]⟩
    let admin : Role := ⟨.named "admin", [⟨["*"], ["*"], []⟩]⟩
    let team : RoleBinding := ⟨.named "team", [⟨.group, "developers"⟩], ⟨.globalRole, "viewer"⟩⟩
    let larger : RoleBinding :=
      ⟨.named "team", [⟨.user, "carol"⟩, ⟨.group, "developers"⟩], ⟨.globalRole, "viewer"⟩⟩
    let admins : RoleBinding := ⟨.named "admins", [⟨.user, "alice"⟩], ⟨.globalRole, "admin"⟩⟩
    let s : Snapshot := { globalRoles := [viewer], globalRoleBindings := [team] }
    let t : Snapshot := { globalRoles := [admin, editor], globalRoleBindings := [larger, admins] }
    let user := (Identity.named "bob").withGroup "developers"
    let member := user.withGroup "auditors"
    let action : Action := ⟨"list", "users", none, .cluster⟩
    s.Extends t ∧ ((ObjectCache.empty.load s).authorize user action).allowed = true ∧
      ((ObjectCache.empty.load t).authorize member action).allowed = true := by
  intro viewer editor admin team larger admins s t user member action
  have hrules : viewer.Grows editor := ⟨rfl, List.sublist_cons_self _ _⟩
  have hsubjects : team.Grows larger := ⟨rfl, rfl, List.sublist_cons_self _ _⟩
  have hextends : s.Extends t := {
    globalRoles := .tail (.single (@Insertion.into _ _ _ [] [] _ _ hrules))
      (@Insertion.added _ _ _ [] [editor] admin (by decide))
    workspaceRoles := .refl
    roles := .refl
    globalRoleBindings := .tail (.single (@Insertion.into _ _ _ [] [] _ _ hsubjects))
      (@Insertion.added _ _ _ [larger] [] admins (by decide))
    workspaceRoleBindings := .refl
    roleBindings := .refl }
  have hallowed : ((ObjectCache.empty.load s).authorize user action).allowed = true := by decide
  have hname : member.name = user.name := rfl
  have hgroups : ∀ group ∈ user.groups, group ∈ member.groups :=
    fun _ hgroup => Std.ExtTreeSet.mem_insert.mpr (Or.inr hgroup)
  exact ⟨hextends, hallowed,
    authorize_load_mono .empty .empty hextends hname hgroups hallowed⟩

end AccessGateway
