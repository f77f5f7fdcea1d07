import AccessGateway.Proofs.Membership.Appointment
import AccessGateway.Proofs.Query.Order

/-!
# `AccessGateway.Proofs.Membership.Listing`: the members that are listed and described

The members of a namespace are shown by their accounts, each marked with its role. Which accounts
these are, `Snapshot.AreMembers` says of a list of accounts by the lists of the snapshot alone:
there is one for every name that is appointed and that has an account in the whole cluster.

The order of such a list is left open, since that of an answer is the matter of the query. That is
why the listing is compared with the answer of the query to any such list. Accounts have different
names, and where names differ a query gives the same page for every order of the items
(`Query.run_eq_of_perm`). A description needs no order at all.

* `Snapshot.AreMembers.perm`: such a list is determined up to its order.
* `ObjectCache.mem_members_load`, `ObjectCache.nodup_names_members_load`,
  `ObjectCache.areMembers_members`: the accounts that are gathered are such a list.
* `ObjectCache.members_listed_and_described`: a listing is the answer of the query to any such list,
  and a description finds the account in it that has the name.
-/

set_option autoImplicit false

namespace AccessGateway

/-- The account is a record marked with a role: the annotation for the role is set, over any other,
and nothing else has changed. -/
structure User.IsMarked (account record : User) (role : String) : Prop where
  marked : account.metadata.annotations[memberRoleKey]? = some role
  others : ∀ key, key ≠ memberRoleKey →
    account.metadata.annotations[key]? = record.metadata.annotations[key]?
  rest : { account with metadata :=
    { account.metadata with annotations := record.metadata.annotations } } = record

namespace User

variable {account record : User} {role : String}

/-- There is one account that is the record marked with the role, and it is the one that is
shown. -/
theorem isMarked_iff : account.IsMarked record role
    ↔ account = { record with metadata := record.metadata.withAnnotation memberRoleKey role } := by
  constructor
  · rintro ⟨hmarked, hothers, hrest⟩
    have hannotations : account.metadata.annotations
        = record.metadata.annotations.insert memberRoleKey role := by
      refine Std.ExtTreeMap.ext_getElem? fun key => ?_
      rw [Std.ExtTreeMap.getElem?_insert]
      split
      · rename_i heq
        rw [← Std.LawfulEqOrd.eq_of_compare heq, hmarked]
      · rename_i hne
        refine hothers key fun hkey => hne ?_
        rw [hkey, Std.ReflOrd.compare_self]
    rw [← hrest, Metadata.withAnnotation, ← hannotations]
  · rintro rfl
    refine ⟨Std.ExtTreeMap.getElem?_insert_self, fun key hkey => ?_, rfl⟩
    refine (Std.ExtTreeMap.getElem?_insert ..).trans (if_neg fun heq => hkey ?_)
    exact (Std.LawfulEqOrd.eq_of_compare heq).symm

/-- Marking an account with a role leaves its name alone. -/
theorem IsMarked.name_eq (h : account.IsMarked record role) :
    account.metadata.name = record.metadata.name := by
  have hname := congrArg (fun user : User => user.metadata.name) h.rest
  exact hname

end User

namespace Snapshot

variable {snapshot : Snapshot} {«namespace» : String} {account other : User}

/-- The account is the entry of a member: the record of a name in the whole cluster, marked with
the role of the binding that decides on the name. -/
def IsEntry (snapshot : Snapshot) («namespace» : String) (account : User) : Prop :=
  ∃ record binding, IsLastOfKey snapshot.users record ∧ record.metadata.namespace = "" ∧
    snapshot.Decides «namespace» record.metadata.name binding ∧
    account.IsMarked record binding.roleRef.name

/-- The accounts are entries of members, no two have one name, and everyone who is appointed and
has a record has an entry. -/
structure AreMembers (snapshot : Snapshot) («namespace» : String) (accounts : List User) :
    Prop where
  entries : ∀ account ∈ accounts, snapshot.IsEntry «namespace» account
  distinct : (accounts.map fun account => account.metadata.name).Nodup
  complete : ∀ record, IsLastOfKey snapshot.users record → record.metadata.namespace = "" →
    (∃ binding, snapshot.Appoints «namespace» record.metadata.name binding) →
    ∃ account ∈ accounts, account.metadata.name = record.metadata.name

/-- A name has one entry: one record is kept under it, and one binding decides on it. -/
theorem IsEntry.unique (h : snapshot.IsEntry «namespace» account)
    (hother : snapshot.IsEntry «namespace» other)
    (hname : account.metadata.name = other.metadata.name) : account = other := by
  obtain ⟨record, binding, hrecord, hcluster, hdecides, hmarked⟩ := h
  obtain ⟨record', binding', hrecord', hcluster', hdecides', hmarked'⟩ := hother
  rw [hmarked.name_eq, hmarked'.name_eq] at hname
  obtain rfl := hrecord.unique hrecord' (hcluster.trans hcluster'.symm) hname
  obtain rfl : binding = binding' := hdecides.unique hdecides'
  rw [User.isMarked_iff.mp hmarked, User.isMarked_iff.mp hmarked']

/-- The members are the entries of the namespace, without regard to their order. What is complete by
names is complete by accounts, as a name has one entry. -/
theorem AreMembers.mem_iff {accounts : List User} (h : snapshot.AreMembers «namespace» accounts) :
    account ∈ accounts ↔ snapshot.IsEntry «namespace» account := by
  refine ⟨h.entries account, fun hentry => ?_⟩
  have ⟨record, binding, hrecord, hcluster, hdecides, hmarked⟩ := hentry
  -- the list has an entry for the name, and there is no other
  obtain ⟨found, hfound, hname⟩ :=
    h.complete record hrecord hcluster ⟨binding, hdecides.toAppoints⟩
  rw [hentry.unique (h.entries found hfound) (hmarked.name_eq.trans hname.symm)]
  exact hfound

/-- The members are determined up to their order. -/
theorem AreMembers.perm {accounts others : List User}
    (h : snapshot.AreMembers «namespace» accounts)
    (hothers : snapshot.AreMembers «namespace» others) : accounts.Perm others :=
  (List.perm_ext_iff_of_nodup h.distinct.of_map hothers.distinct.of_map).mpr fun _ =>
    h.mem_iff.trans hothers.mem_iff.symm

end Snapshot

namespace ObjectCache

section
variable (cache : ObjectCache) {snapshot : Snapshot} {«namespace» name role : String}
  {account : User}

/-- What the account of a member is: the record that is kept under the name, marked with the
role. -/
theorem memberAccount_load_eq_some_iff :
    (cache.load snapshot).memberAccount name role = some account
      ↔ ∃ record, IsLastOfKey snapshot.users record ∧ record.metadata.namespace = "" ∧
        record.metadata.name = name ∧ account.IsMarked record role := by
  have hload : (cache.load snapshot).users = .ofList snapshot.users := rfl
  simp only [memberAccount, hload, Option.map_eq_some_iff, Store.get?_ofList_eq_some_iff,
    User.isMarked_iff, eq_comm (a := account), and_assoc]
  exact Iff.rfl

/-- No two of the accounts that are gathered have one name, as the table has one entry for each. -/
theorem nodup_names_members_load :
    (((cache.load snapshot).members «namespace»).map fun user => user.metadata.name).Nodup := by
  refine List.pairwise_map.mpr (List.pairwise_filterMap.mpr
    (Std.ExtTreeMap.distinct_keys_toList.imp ?_))
  rintro ⟨name, role⟩ ⟨name', role'⟩ hdistinct account haccount account' haccount'
  obtain ⟨record, -, -, hname, hmarked⟩ := (memberAccount_load_eq_some_iff cache).mp haccount
  obtain ⟨record', -, -, hname', hmarked'⟩ := (memberAccount_load_eq_some_iff cache).mp haccount'
  rw [hmarked.name_eq, hmarked'.name_eq, hname, hname']
  exact fun hsame => hdistinct (by rw [hsame, Std.ReflOrd.compare_self])

variable (hnamespace : «namespace» ≠ "")
include hnamespace

/-- The role of a name and its record make the entry of the name. -/
theorem bind_memberAccount_load_eq_some_iff :
    ((cache.load snapshot).memberRoles «namespace»)[name]?.bind
        ((cache.load snapshot).memberAccount name) = some account
      ↔ snapshot.IsEntry «namespace» account ∧ account.metadata.name = name := by
  rw [Option.bind_eq_some_iff]
  simp only [getElem?_memberRoles_load hnamespace, memberAccount_load_eq_some_iff]
  constructor
  · rintro ⟨_, ⟨binding, hdecides, rfl⟩, record, hrecord, hcluster, rfl, hmarked⟩
    exact ⟨⟨record, binding, hrecord, hcluster, hdecides, hmarked⟩, hmarked.name_eq⟩
  · rintro ⟨⟨record, binding, hrecord, hcluster, hdecides, hmarked⟩, rfl⟩
    rw [hmarked.name_eq]
    exact ⟨_, ⟨binding, hdecides, rfl⟩, record, hrecord, hcluster, rfl, hmarked⟩

/-- The accounts that are gathered are the entries of the members, one for each name in the
table. -/
theorem mem_members_load : account ∈ (cache.load snapshot).members «namespace»
    ↔ snapshot.IsEntry «namespace» account := by
  have hentry : ∀ name, ((cache.load snapshot).memberRoles «namespace»)[name]?.bind
      ((cache.load snapshot).memberAccount name) = some account ↔ _ :=
    fun name => bind_memberAccount_load_eq_some_iff cache hnamespace
  simp only [members, List.mem_filterMap, Prod.exists,
    Std.ExtTreeMap.mem_toList_iff_getElem?_eq_some, ← Option.bind_eq_some_iff, hentry]
  constructor
  · rintro ⟨name, hentry, -⟩
    exact hentry
  · intro hentry
    exact ⟨_, hentry, rfl⟩

/-- The members that are listed after a load are those of the snapshot. -/
theorem areMembers_members :
    snapshot.AreMembers «namespace» ((cache.load snapshot).members «namespace») where
  entries account := (mem_members_load cache hnamespace).mp
  distinct := nodup_names_members_load cache
  complete record hrecord hcluster happointed := by
    obtain ⟨binding, hdecides⟩ := Snapshot.exists_decides hnamespace happointed
    have hmarked := User.isMarked_iff.mpr (rfl : _ = { record with
      metadata := record.metadata.withAnnotation memberRoleKey binding.roleRef.name })
    exact ⟨_, (mem_members_load cache hnamespace).mpr
      ⟨record, binding, hrecord, hcluster, hdecides, hmarked⟩, hmarked.name_eq⟩

end

/-- The members of a namespace can be put in a list, and however that is done, a listing is the
answer of the query to this list, and a description gives the account in it that has the name, or
fails when it has none. -/
theorem members_listed_and_described (cache : ObjectCache) (snapshot : Snapshot)
    {«namespace» : String} (hnamespace : «namespace» ≠ "") :
    (∃ accounts, snapshot.AreMembers «namespace» accounts) ∧
    ∀ accounts, snapshot.AreMembers «namespace» accounts →
      (∀ query, (cache.load snapshot).listMembers «namespace» query = query.run accounts) ∧
      ∀ member,
        (∀ account, (cache.load snapshot).describeMember «namespace» member = .ok account
          ↔ account ∈ accounts ∧ account.metadata.name = member) ∧
        ((∀ account ∈ accounts, account.metadata.name ≠ member) →
          (cache.load snapshot).describeMember «namespace» member
            = .error (.notFound ResourceName.users member)) := by
  refine ⟨⟨_, areMembers_members cache hnamespace⟩, fun accounts haccounts => ⟨?_, ?_⟩⟩
  · intro query
    exact Query.run_eq_of_perm ((areMembers_members cache hnamespace).perm haccounts)
      haccounts.distinct
  · intro member
    have hfound : ∀ account, (cache.load snapshot).describeMember «namespace» member = .ok account
        ↔ account ∈ accounts ∧ account.metadata.name = member := by
      intro account
      rw [describeMember_eq_ok_iff, bind_memberAccount_load_eq_some_iff cache hnamespace,
        haccounts.mem_iff]
    refine ⟨hfound, fun hnone => describeMember_of_forall_ne fun account hdescribed => ?_⟩
    obtain ⟨hmem, hname⟩ := (hfound account).mp hdescribed
    exact hnone account hmem hname

/-- The binding of the lesser name decides, its role takes the place of another one in the
annotation, a member without an account is left out, and a group is not a member. -/
theorem members_listed_and_described_twoBindings :
    let ann (role : String) :=
      User.ofMetadata (Metadata.withAnnotation (.named "ann") memberRoleKey role)
    let snapshot : Snapshot :=
      { users := [ann "admin", .ofMetadata (.named "bob")]
        roleBindings :=
          [⟨.namespaced "dev" "second", [⟨.user, "ann"⟩], ⟨.role, "owner"⟩⟩,
            ⟨.namespaced "dev" "first", [⟨.group, "bob"⟩, ⟨.user, "cid"⟩, ⟨.user, "ann"⟩],
              ⟨.role, "viewer"⟩⟩] }
    let cache := empty.load snapshot
    "dev" ≠ "" ∧ snapshot.AreMembers "dev" [ann "viewer"] ∧
    (∀ query, cache.listMembers "dev" query = query.run [ann "viewer"]) ∧
    cache.describeMember "dev" "ann" = .ok (ann "viewer") ∧
    cache.describeMember "dev" "cid" = .error (.notFound ResourceName.users "cid") := by
  intro ann snapshot cache
  have hnamespace : "dev" ≠ "" := by decide
  have hmembers : cache.members "dev" = [ann "viewer"] := by decide
  have haccounts : snapshot.AreMembers "dev" [ann "viewer"] :=
    hmembers ▸ areMembers_members empty hnamespace
  obtain ⟨hlist, hdescribe⟩ :=
    (members_listed_and_described empty snapshot hnamespace).2 _ haccounts
  exact ⟨hnamespace, haccounts, hlist,
    ((hdescribe "ann").1 _).mpr ⟨List.mem_singleton_self _, rfl⟩,
    (hdescribe "cid").2 (by decide)⟩

end ObjectCache

end AccessGateway
