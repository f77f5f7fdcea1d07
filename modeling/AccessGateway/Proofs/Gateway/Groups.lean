import AccessGateway.Proofs.Access.Grant
import AccessGateway.Proofs.Gateway.Caller

/-!
# `AccessGateway.Proofs.Gateway.Groups`: what is granted to a group

A binding lists users by their names and groups by theirs. Of whom a token was issued to nothing is
known but the name, so what is granted to a group is granted to no one who logged in. The group of
all who passed authentication is no exception: only the anonymous identity is in it.

`Snapshot.GrantsTo` splits the grants of a snapshot by the subject that a binding lists. What an
identity may do is then a disjunction over its name and its groups, and for a mere name only the
first part is left. The statement about whom the grants to the group reach ranges over all caches
and snapshots, so that it is about the identity and not about one cluster. For the direction that
excludes the bearers of tokens one snapshot is enough, in which listing users is granted to the
group and to no user (`Snapshot.sharedUsers`).

* `Snapshot.GrantsTo`: a binding in effect grants an action to a subject.
* `ObjectCache.authorize_load_allowed_iff_grantsTo`: what an identity may do is what is granted to
  its name or to one of its groups.
* `Gateway.authenticatedGroup_iff`: who is in the group of all who passed authentication, and whom
  grants to it reach.
-/

set_option autoImplicit false

namespace AccessGateway

open Time (Duration)

/-! ### Grants to subjects -/

/-- A binding in effect grants an action to a subject. It has the subject in its list, and its role
resolves to one that permits the action. -/
def Snapshot.GrantsTo (snapshot : Snapshot) (subject : Subject) (action : Action) : Prop :=
  ∃ reach binding role, snapshot.InEffect action.scope reach binding ∧
    subject ∈ binding.subjects ∧ binding.roleRef.kind.rank ≤ reach.rank ∧
    snapshot.Resolves reach binding role ∧ ∃ rule ∈ role.rules, rule.Permits action

/-- A binding lists someone by name or by group. A subject of a user and one of a group with the
same name are two subjects. -/
theorem RoleBinding.lists_iff {binding : RoleBinding} {user : Identity} :
    binding.Lists user ↔ ⟨.user, user.name⟩ ∈ binding.subjects ∨
      ∃ group ∈ user.groups, ⟨.group, group⟩ ∈ binding.subjects := by
  constructor
  · rintro ⟨⟨kind, name⟩, hmem, ⟨hkind, hname⟩ | ⟨hkind, hgroup⟩⟩
    · dsimp only at hkind hname
      subst hkind hname
      exact Or.inl hmem
    · dsimp only at hkind
      subst hkind
      exact Or.inr ⟨name, hgroup, hmem⟩
  · rintro (hmem | ⟨group, hgroup, hmem⟩)
    · exact ⟨_, hmem, Or.inl ⟨rfl, rfl⟩⟩
    · exact ⟨_, hmem, Or.inr ⟨rfl, hgroup⟩⟩

section
variable {snapshot : Snapshot} {user : Identity} {action : Action}

/-- What is granted to someone is granted to the name or to one of the groups, by the same binding
and the same role. -/
theorem Snapshot.exists_grants_iff :
    (∃ reach binding role, snapshot.Grants user action reach binding role)
      ↔ snapshot.GrantsTo ⟨.user, user.name⟩ action ∨
        ∃ group ∈ user.groups, snapshot.GrantsTo ⟨.group, group⟩ action := by
  constructor
  · rintro ⟨reach, binding, role, heffect, hlists, hreach, hresolves, hpermits⟩
    rcases RoleBinding.lists_iff.mp hlists with hname | ⟨group, hgroup, hmem⟩
    · exact Or.inl ⟨reach, binding, role, heffect, hname, hreach, hresolves, hpermits⟩
    · exact Or.inr ⟨group, hgroup, reach, binding, role, heffect, hmem, hreach, hresolves, hpermits⟩
  · rintro (⟨reach, binding, role, heffect, hmem, hreach, hresolves, hpermits⟩ |
      ⟨group, hgroup, reach, binding, role, heffect, hmem, hreach, hresolves, hpermits⟩)
    · exact ⟨reach, binding, role, heffect, RoleBinding.lists_iff.mpr (Or.inl hmem), hreach,
        hresolves, hpermits⟩
    · exact ⟨reach, binding, role, heffect,
        RoleBinding.lists_iff.mpr (Or.inr ⟨group, hgroup, hmem⟩), hreach, hresolves, hpermits⟩

/-- A granted action is allowed, in every scope, that of the empty namespace included. -/
theorem ObjectCache.authorize_load_of_grants (cache : ObjectCache)
    {reach : RoleKind} {binding : RoleBinding} {role : Role}
    (h : snapshot.Grants user action reach binding role) :
    ((cache.load snapshot).authorize user action).allowed = true := by
  rw [authorize_allowed_iff]
  exact ⟨_, cache.mem_bindingsIn_of_inEffect snapshot h.inEffect, role,
    (grantingRole_load_eq_some_iff _ _ _ _ _ _ _).mpr
      ⟨h.lists, h.reaches, h.resolves, h.permits⟩⟩

/-- An identity may do what is granted to its name or to one of its groups. In the namespace of the
empty name more is allowed than is granted, so this one is left out. -/
theorem ObjectCache.authorize_load_allowed_iff_grantsTo (cache : ObjectCache)
    (hscope : action.scope ≠ .namespace "") :
    ((cache.load snapshot).authorize user action).allowed = true
      ↔ snapshot.GrantsTo ⟨.user, user.name⟩ action ∨
        ∃ group ∈ user.groups, snapshot.GrantsTo ⟨.group, group⟩ action := by
  have hgrants := grants_iff cache snapshot user action hscope
  rw [← Snapshot.exists_grants_iff, authorize_allowed_iff]
  constructor
  · rintro ⟨⟨reach, binding⟩, hmem, role, hrole⟩
    exact ⟨reach, binding, role, (hgrants reach binding role).mpr ⟨hmem, hrole⟩⟩
  · rintro ⟨reach, binding, role, hgrant⟩
    obtain ⟨hmem, hrole⟩ := (hgrants reach binding role).mp hgrant
    exact ⟨_, hmem, role, hrole⟩

end

/-! ### The group of all who passed authentication -/

/-- Listing all users, which is ruled in the cluster. -/
def listUsersAction : Action := ⟨"list", ResourceName.users, none, .cluster⟩

/-- A role to list users that is bound to the group of all who passed authentication, in the whole
cluster and to no one else. -/
def Snapshot.sharedUsers : Snapshot where
  globalRoles := [⟨.named "reader", [⟨["list"], [ResourceName.users], []⟩]⟩]
  globalRoleBindings :=
    [⟨.named "everyone", [⟨.group, Identity.authenticatedGroup⟩], ⟨.globalRole, "reader"⟩⟩]

namespace Snapshot

/-- To list users is granted to the group. -/
theorem grantsTo_sharedUsers :
    sharedUsers.GrantsTo ⟨.group, Identity.authenticatedGroup⟩ listUsersAction :=
  ⟨.globalRole, _, _, .everywhere ⟨[], [], rfl, by simp⟩, List.mem_singleton_self _, Nat.le_refl 0,
    .globalRole rfl ⟨[], [], rfl, by simp⟩ rfl rfl, _, List.mem_singleton_self _,
    ⟨⟨"list", List.mem_singleton_self _, Or.inr rfl⟩, ⟨_, List.mem_singleton_self _, Or.inr rfl⟩,
      Or.inl rfl⟩⟩

/-- And to no user, whatever the name. The one binding lists a group, and a user is not a group. -/
theorem not_grantsTo_sharedUsers (name : String) (action : Action) :
    ¬ sharedUsers.GrantsTo ⟨.user, name⟩ action := by
  rintro ⟨reach, binding, role, heffect, hmem, -⟩
  have hbinding : binding ∈ sharedUsers.globalRoleBindings := by
    generalize action.scope = scope at heffect
    cases heffect with
    | everywhere hkept => exact hkept.mem
    -- there are no bindings of workspaces or namespaces
    | workspace hkept => exact absurd hkept.mem List.not_mem_nil
    | «namespace» hkept => exact absurd hkept.mem List.not_mem_nil
  rw [List.mem_singleton.mp hbinding] at hmem
  cases List.mem_singleton.mp hmem

end Snapshot

namespace Gateway

/-- In the group of all who passed authentication are those without credentials and no one else.
These are also the only ones whom every grant to the group reaches. Whoever bears a token may do
what is granted to the name, and nothing besides. -/
theorem authenticatedGroup_iff (g : Gateway) (timeout : Duration)
    (treatment : StoreCall → Treatment) (vault : Vault) (headers : Headers) (caller : Identity)
    (hfinds : g.Finds timeout treatment vault headers caller) :
    (Identity.authenticatedGroup ∈ caller.groups ↔ headers.HasNoCredentials) ∧
    ((∀ (cache : ObjectCache) (snapshot : Snapshot) (action : Action),
        snapshot.GrantsTo ⟨.group, Identity.authenticatedGroup⟩ action →
        ((cache.load snapshot).authorize caller action).allowed = true)
      ↔ headers.HasNoCredentials) ∧
    (¬ headers.HasNoCredentials → ∀ (cache : ObjectCache) (snapshot : Snapshot) (action : Action),
      action.scope ≠ .namespace "" →
      (((cache.load snapshot).authorize caller action).allowed = true
        ↔ snapshot.GrantsTo ⟨.user, caller.name⟩ action)) := by
  have hnogroup : ∀ name group, group ∉ (Identity.named name).groups := fun _ _ =>
    Std.ExtTreeSet.not_mem_empty
  -- of someone with a token only the name counts
  have hnamed : ¬ headers.HasNoCredentials → ∀ (cache : ObjectCache) (snapshot : Snapshot)
      (action : Action), action.scope ≠ .namespace "" →
      (((cache.load snapshot).authorize caller action).allowed = true
        ↔ snapshot.GrantsTo ⟨.user, caller.name⟩ action) := by
    intro hcredentials cache snapshot action hscope
    rw [cache.authorize_load_allowed_iff_grantsTo hscope, hfinds.eq_named hcredentials]
    refine or_iff_left ?_
    rintro ⟨group, hgroup, -⟩
    exact hnogroup _ group hgroup
  refine ⟨⟨fun hgroup => ?_, fun hnone => ?_⟩, ⟨fun hreached => ?_, fun hnone => ?_⟩, hnamed⟩
  · by_contra hcredentials
    rw [hfinds.eq_named hcredentials] at hgroup
    exact hnogroup _ _ hgroup
  · rw [hfinds.eq_anonymous hnone]
    exact Std.ExtTreeSet.mem_insert_self
  · -- a grant to the group alone, which reaches no one by name, tells the two apart
    by_contra hcredentials
    have hallowed := hreached .empty .sharedUsers listUsersAction Snapshot.grantsTo_sharedUsers
    rw [hnamed hcredentials _ _ _ (by decide)] at hallowed
    exact Snapshot.not_grantsTo_sharedUsers _ _ hallowed
  · rintro cache snapshot action ⟨reach, binding, role, heffect, hmem, hreach, hresolves, hpermits⟩
    have hlists : binding.Lists caller := by
      rw [hfinds.eq_anonymous hnone, RoleBinding.lists_iff]
      exact Or.inr ⟨_, Std.ExtTreeSet.mem_insert_self, hmem⟩
    exact cache.authorize_load_of_grants ⟨heffect, hlists, hreach, hresolves, hpermits⟩

/-- A gateway where the group may list users. Its tokens have no end. -/
def withSharedUsers : Gateway :=
  ⟨.ofSnapshot .sharedUsers, { jwtSecret := "secret", accessTokenMaxAge := .zero }⟩

/-- The header of alice, who was issued a token. -/
def aliceHeaders : Headers := .bearing (withSharedUsers.sessions.issuer.issue "alice" 0)

/-- Whoever has no credentials is in the group, and alice, who logged in, is not. -/
theorem authenticatedGroup_iff_alice :
    let found := fun headers => withSharedUsers.Finds .zero (fun _ => .answers) ⟨.empty, 0⟩ headers
    found .empty .anonymous ∧ Identity.authenticatedGroup ∈ Identity.anonymous.groups ∧
    found aliceHeaders (.named "alice") ∧
    Identity.authenticatedGroup ∉ (Identity.named "alice").groups ∧
    (withSharedUsers.objects.authorize (.named "alice") listUsersAction).allowed = false := by
  intro found
  have hnone : Headers.empty.HasNoCredentials := nofun
  have hanonymous : found .empty .anonymous := finds_of_hasNoCredentials _ _ _ _ hnone
  have halice : found aliceHeaders (.named "alice") :=
    finds_of_issue rfl "alice" .zero _ ⟨.empty, 0⟩ (by decide)
  have hcredentials : ¬ aliceHeaders.HasNoCredentials := fun h =>
    absurd (h _ rfl 'B' (by simp)) (by decide)
  have hgroup := authenticatedGroup_iff _ _ _ _ _ _ halice
  refine ⟨hanonymous, (authenticatedGroup_iff _ _ _ _ _ _ hanonymous).1.mpr hnone, halice,
    fun h => hcredentials (hgroup.1.mp h), ?_⟩
  rw [← Bool.not_eq_true]
  intro hallowed
  exact Snapshot.not_grantsTo_sharedUsers _ _
    ((hgroup.2.2 hcredentials .empty .sharedUsers listUsersAction (by decide)).mp hallowed)

/-- Users are listed for requests without credentials, because the group of all who passed
authentication may list them, and are refused to alice, who did. -/
theorem listUsers_forbidden_alice :
    let request := fun headers : Headers => (⟨"GET",
      ⟨"/kapis/resources.kubesphere.io/v1alpha3/users", ""⟩, headers, ""⟩ : Request)
    let answer := fun headers =>
      (Program.run .zero (fun _ => .answers) (withSharedUsers.answer (request headers))
        ⟨.empty, 0⟩).1
    Snapshot.sharedUsers.GrantsTo ⟨.group, Identity.authenticatedGroup⟩ listUsersAction ∧
    (answer .empty).status = 200 ∧
    withSharedUsers.Finds .zero (fun _ => .answers) ⟨.empty, 0⟩ aliceHeaders (.named "alice") ∧
    (withSharedUsers.objects.authorize (.named "alice") listUsersAction).allowed = false ∧
    (answer aliceHeaders).status = 403 := by
  intro request answer
  have hroute : Route.ofTarget? (request aliceHeaders).target
      = some (.api (.listResources .current "" "users")) := by
    show Route.ofTarget? ⟨"/kapis/resources.kubesphere.io/v1alpha3/users", ""⟩ = _
    decide +kernel
  have halice : withSharedUsers.Finds .zero (fun _ => .answers) ⟨.empty, 0⟩ aliceHeaders
      (.named "alice") :=
    finds_of_issue rfl "alice" .zero _ ⟨.empty, 0⟩ (by decide)
  have hanswer : answer aliceHeaders = withSharedUsers.answerFor (.named "alice")
      (request aliceHeaders) (.listResources .current "" "users") := halice.run_answer hroute
  refine ⟨Snapshot.grantsTo_sharedUsers, by decide +kernel, halice, by decide +kernel, ?_⟩
  rw [hanswer]
  decide +kernel

end Gateway

end AccessGateway
