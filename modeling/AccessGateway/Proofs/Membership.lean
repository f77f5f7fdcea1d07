import AccessGateway.Membership
import AccessGateway.Proofs.Cluster.Reachable
import AccessGateway.Proofs.Query.Page

/-!
# `AccessGateway.Proofs.Membership`: who the members of a namespace are

The role of a member is found by folding the role bindings of a namespace into a table. Whoever is
in the table was put there by one of these bindings, and the accounts and roles that are shown are
looked up by what the table says.

The fold is nested, over the bindings and over the users of each, and never replaces an entry. So
for one user the inner fold comes to a choice, and the outer one to a search for the first binding
that lists the user (`ObjectCache.getElem?_memberRoles`). Everything else about members starts from
this search.

* `ObjectCache.getElem?_memberRoles`: the role of a user is that of the first binding that lists the
  user.
* `ObjectCache.isMember_of_mem_memberRoles`: whoever is in the table is listed by a binding.
* `ObjectCache.isMember_of_mem_members`, `ObjectCache.isMember_of_describeMember`: the accounts that
  are shown are of members.
* `ObjectCache.namespace_of_mem_memberTemplates`: the templates of a member are of the namespace.
-/

set_option autoImplicit false

namespace AccessGateway

/-- A binding for a namespace role lists a user. One for a role of the cluster appoints nobody. -/
def RoleBinding.Appoints (binding : RoleBinding) (user : String) : Prop :=
  binding.roleRef.kind = .role ∧
    ∃ subject ∈ binding.subjects, subject.kind = .user ∧ subject.name = user

instance (binding : RoleBinding) (user : String) : Decidable (binding.Appoints user) :=
  inferInstanceAs (Decidable (_ ∧ _))

/-- The users of a binding are its subjects of that kind, by name. Groups do not count as
members. -/
theorem RoleBinding.mem_userNames {binding : RoleBinding} {user : String} :
    user ∈ binding.userNames
      ↔ ∃ subject ∈ binding.subjects, subject.kind = .user ∧ subject.name = user := by
  simp only [userNames, List.mem_map, List.mem_filter, decide_eq_true_eq, and_assoc]

namespace ObjectCache

variable {cache : ObjectCache} {«namespace» : String}

/-- A role binding of the namespace for a namespace role lists the user. The role need not exist,
and neither need an account. -/
def IsMember (cache : ObjectCache) («namespace» user : String) : Prop :=
  ∃ binding ∈ cache.roleBindings.toList, binding.metadata.namespace = «namespace» ∧
    binding.roleRef.kind = .role ∧
    ∃ subject ∈ binding.subjects, subject.kind = .user ∧ subject.name = user

/-- One binding gives its role to the users that it lists and that have none yet, by induction on
its users. -/
theorem getElem?_foldl_userNames (binding : RoleBinding) (roles : TextMap) (user : String) :
    (binding.userNames.foldl
        (fun roles name => roles.insertIfNew name binding.roleRef.name) roles)[user]?
      = roles[user]?.or (if user ∈ binding.userNames then some binding.roleRef.name else none) := by
  rw [getElem?_foldl_insertIfNew (fun name => name) fun _ => binding.roleRef.name]
  congr 1
  split
  · rename_i hmem
    have hfound : (binding.userNames.find? fun name => decide (name = user)).isSome = true :=
      List.find?_isSome.mpr ⟨user, hmem, decide_eq_true rfl⟩
    obtain ⟨name, hname⟩ := Option.isSome_iff_exists.mp hfound
    rw [hname, Option.map_some]
  · rename_i hmem
    refine Option.map_eq_none_iff.mpr (List.find?_eq_none.mpr fun name hname hsame => hmem ?_)
    rwa [← of_decide_eq_true hsame]

/-- Of some bindings, the first that lists a user gives the role, by induction on the bindings. -/
theorem getElem?_foldl_bindings (bindings : List RoleBinding) (roles : TextMap) (user : String) :
    (bindings.foldl (fun roles binding => binding.userNames.foldl
        (fun roles name => roles.insertIfNew name binding.roleRef.name) roles) roles)[user]?
      = roles[user]?.or ((bindings.find? fun binding => decide (user ∈ binding.userNames)).map
          fun binding => binding.roleRef.name) := by
  -- The table is arbitrary, as the fold goes on with the one that holds the first binding's users.
  induction bindings generalizing roles with
  | nil => simp
  | cons binding rest ih =>
    rw [List.foldl_cons, ih, getElem?_foldl_userNames, Option.or_assoc, List.find?_cons]
    by_cases hmem : user ∈ binding.userNames <;> simp [hmem]

/-- The table gives a user the role of the first binding that appoints the user. -/
theorem getElem?_memberRoles (user : String) : (cache.memberRoles «namespace»)[user]?
    = ((cache.roleBindings.list «namespace» .everything).find?
        fun binding => decide (binding.Appoints user)).map fun binding => binding.roleRef.name := by
  rw [memberRoles, getElem?_foldl_bindings, Std.ExtTreeMap.getElem?_empty, Option.none_or,
    List.find?_filter]
  congr 2
  funext binding
  rw [decide_eq_decide, decide_eq_true_iff, decide_eq_true_iff, RoleBinding.mem_userNames]
  exact Iff.rfl

section
variable {member : String} {user : User}

/-- A member is described when it has a role and an account, and as its account with the role. -/
theorem describeMember_eq_ok_iff : cache.describeMember «namespace» member = .ok user
    ↔ (cache.memberRoles «namespace»)[member]?.bind (cache.memberAccount member) = some user := by
  rw [describeMember]
  split
  · rename_i found hfound
    rw [hfound, Except.ok.injEq, Option.some.injEq]
  · rename_i hnone
    rw [hnone]
    refine iff_of_false ?_ (Option.some_ne_none user).symm
    rintro ⟨⟩

/-- Otherwise it is not found. -/
theorem describeMember_of_forall_ne
    (h : ∀ user, cache.describeMember «namespace» member ≠ .ok user) :
    cache.describeMember «namespace» member = .error (.notFound ResourceName.users member) := by
  cases hfound : (cache.memberRoles «namespace»)[member]?.bind (cache.memberAccount member) with
  | none => rw [describeMember, hfound]
  | some user => exact absurd (describeMember_eq_ok_iff.mpr hfound) (h user)

end

section
variable (hnamespace : «namespace» ≠ "")
include hnamespace

/-- Whoever has a role in the table is a member. In the empty namespace the bindings of all
namespaces would be listed, and so it is left out. -/
theorem isMember_of_mem_memberRoles {user : String} (hmem : user ∈ cache.memberRoles «namespace») :
    cache.IsMember «namespace» user := by
  rw [Std.ExtTreeMap.mem_iff_isSome_getElem?, getElem?_memberRoles, Option.isSome_map] at hmem
  obtain ⟨binding, hfind⟩ := Option.isSome_iff_exists.mp hmem
  have hlisted := List.mem_of_find?_eq_some hfind
  obtain ⟨hkind, hlists⟩ : binding.Appoints user := by simpa using List.find?_some hfind
  exact ⟨binding, (Store.mem_list.mp hlisted).1, Store.namespace_of_mem_list hnamespace hlisted,
    hkind, hlists⟩

/-- The accounts of the members have the names of members, since an account is kept under its own
name. -/
theorem isMember_of_mem_members (hcache : cache.IsKeyed) {user : User}
    (hmem : user ∈ cache.members «namespace») : cache.IsMember «namespace» user.metadata.name := by
  obtain ⟨⟨name, role⟩, hrole, haccount⟩ := List.mem_filterMap.mp hmem
  obtain ⟨account, hget, rfl⟩ := Option.map_eq_some_iff.mp haccount
  have hname : account.metadata.name = name := ((hcache .users).of_get? hget).2
  show cache.IsMember «namespace» account.metadata.name
  rw [hname]
  have hsome := Std.ExtTreeMap.mem_toList_iff_getElem?_eq_some.mp hrole
  exact isMember_of_mem_memberRoles hnamespace
    (Std.ExtTreeMap.mem_iff_isSome_getElem?.mpr (Option.isSome_of_eq_some hsome))

/-- A member that is described is one of that name. -/
theorem isMember_of_describeMember (hcache : cache.IsKeyed) {member : String} {user : User}
    (h : cache.describeMember «namespace» member = .ok user) :
    user.metadata.name = member ∧ cache.IsMember «namespace» member := by
  obtain ⟨role, hrole, haccount⟩ := Option.bind_eq_some_iff.mp (describeMember_eq_ok_iff.mp h)
  obtain ⟨account, hget, rfl⟩ := Option.map_eq_some_iff.mp haccount
  exact ⟨((hcache .users).of_get? hget).2, isMember_of_mem_memberRoles hnamespace
    (Std.ExtTreeMap.mem_iff_isSome_getElem?.mpr (Option.isSome_of_eq_some hrole))⟩

end

/-- The templates of a member are roles of the namespace, for they were looked up there. -/
theorem namespace_of_mem_memberTemplates (hcache : cache.IsKeyed) {member : String} {role : Role}
    (hmem : role ∈ cache.memberTemplates «namespace» member) :
    role.metadata.namespace = «namespace» := by
  rw [memberTemplates] at hmem
  split at hmem
  · cases hmem
  · rename_i own howned
    obtain ⟨⟨name, template⟩, htemplate, rfl⟩ := List.mem_map.mp hmem
    have hget := Std.ExtTreeMap.mem_toList_iff_getElem?_eq_some.mp htemplate
    have hlast := ((getElem?_foldl_insert_items fun role : Role => role.metadata.name).mp hget).1
    obtain ⟨wanted, -, hwanted⟩ := List.mem_filterMap.mp hlast.mem
    exact ((hcache .roles).of_get? hwanted).1

/-- A role that is described is one of the namespace. -/
theorem namespace_of_describeRole (hcache : cache.IsKeyed) {name : String} {role : Role}
    (h : cache.describeRole «namespace» name = .ok role) :
    role.metadata.namespace = «namespace» ∧ role.metadata.name = name := by
  rw [describeRole] at h
  split at h
  · rename_i found hget
    cases h
    exact (hcache .roles).of_get? hget
  · cases h

end ObjectCache

end AccessGateway
