import AccessGateway.Proofs.Membership

/-!
# `AccessGateway.Proofs.Membership.Appointment`: which binding decides on a member

Several bindings of a namespace may list one user, in several roles. The one with the least name
decides. `Snapshot.Decides` says so of the lists of a snapshot, without the table that is built and
without an order of search. Of bindings with one key a cache keeps the last, so only those are
compared (`IsLastOfKey`).

The bindings of a namespace are listed in the order of their keys, which in one namespace is that of
their names. So the first of them that appoints the user is the one whose name is least, and there
is one whenever there is any.

* `ObjectCache.find?_roleBindings_load`: the search finds the binding that decides.
* `Snapshot.exists_decides`, `Snapshot.Decides.unique`: one binding decides on each user that is
  appointed.
* `ObjectCache.getElem?_memberRoles_load`: the table holds the role of that binding.
-/

set_option autoImplicit false

namespace AccessGateway

namespace Snapshot

variable {snapshot : Snapshot} {«namespace» user : String} {binding other : RoleBinding}

/-- A role binding of a namespace appoints a user. Of bindings with one key only the last is
kept. -/
structure Appoints (snapshot : Snapshot) («namespace» user : String) (binding : RoleBinding) :
    Prop where
  kept : IsLastOfKey snapshot.roleBindings binding
  own : binding.metadata.namespace = «namespace»
  lists : binding.Appoints user

/-- Of the bindings that appoint a user, the one with the least name decides. Names are compared
octet by octet. -/
structure Decides (snapshot : Snapshot) («namespace» user : String) (binding : RoleBinding) : Prop
    extends Appoints snapshot «namespace» user binding where
  least : ∀ other, snapshot.Appoints «namespace» user other →
    other = binding ∨ Text.utf8 binding.metadata.name < Text.utf8 other.metadata.name

end Snapshot

section
variable {snapshot : Snapshot} {«namespace» user : String} (hnamespace : «namespace» ≠ "")
include hnamespace

namespace ObjectCache

variable (cache : ObjectCache)

/-- The bindings that are listed for a namespace and appoint the user are those of the snapshot that
are kept. -/
theorem mem_roleBindings_load {binding : RoleBinding} :
    (binding ∈ (cache.load snapshot).roleBindings.list «namespace» .everything ∧
        decide (binding.Appoints user) = true)
      ↔ snapshot.Appoints «namespace» user binding := by
  have hload : (cache.load snapshot).roleBindings = .ofList snapshot.roleBindings := rfl
  rw [hload, Store.mem_list_ofList, decide_eq_true_iff, Selector.everything_accepts,
    or_iff_right hnamespace]
  constructor
  · rintro ⟨⟨hkept, hown, -⟩, hlists⟩
    exact ⟨hkept, hown, hlists⟩
  · rintro ⟨hkept, hown, hlists⟩
    exact ⟨⟨hkept, hown, rfl⟩, hlists⟩

/-- The search in the order of the names ends at the binding that decides, and only there. -/
theorem find?_roleBindings_load {binding : RoleBinding} :
    ((cache.load snapshot).roleBindings.list «namespace» .everything).find?
        (fun binding => decide (binding.Appoints user)) = some binding
      ↔ snapshot.Decides «namespace» user binding := by
  have hordered : ((cache.load snapshot).roleBindings.list «namespace» .everything).Pairwise
      fun a b => Text.utf8 a.metadata.name < Text.utf8 b.metadata.name :=
    (isKeyed_load cache snapshot .roleBindings).pairwise_list hnamespace .everything
  have hmem : ∀ other, (other ∈ (cache.load snapshot).roleBindings.list «namespace» .everything ∧
      decide (other.Appoints user) = true) ↔ snapshot.Appoints «namespace» user other :=
    fun _ => mem_roleBindings_load hnamespace cache
  -- the first binding in the listing that appoints the user has the least name of those that do
  rw [find?_eq_some_iff_of_pairwise (fun _ _ => List.lt_asymm) hordered, ← and_assoc, hmem]
  simp only [← and_imp, hmem]
  constructor
  · rintro ⟨happoints, hleast⟩
    exact ⟨happoints, hleast⟩
  · intro hdecides
    exact ⟨hdecides.toAppoints, hdecides.least⟩

/-- The table gives each user the role of the binding that decides on the user. -/
theorem getElem?_memberRoles_load {role : String} :
    ((cache.load snapshot).memberRoles «namespace»)[user]? = some role
      ↔ ∃ binding, snapshot.Decides «namespace» user binding ∧ binding.roleRef.name = role := by
  rw [getElem?_memberRoles, Option.map_eq_some_iff]
  simp only [find?_roleBindings_load hnamespace]

end ObjectCache

namespace Snapshot

/-- One binding decides on each user that is appointed: the one that the search ends at, in any
cache with the snapshot. -/
theorem exists_decides (h : ∃ binding, snapshot.Appoints «namespace» user binding) :
    ∃ binding, snapshot.Decides «namespace» user binding := by
  obtain ⟨binding, happoints⟩ := h
  obtain ⟨hmem, hpass⟩ := (ObjectCache.mem_roleBindings_load hnamespace .empty).mpr happoints
  have hfound : ((ObjectCache.empty.load snapshot).roleBindings.list «namespace» .everything).find?
      (fun binding => decide (binding.Appoints user)) ≠ none :=
    fun hnone => List.find?_eq_none.mp hnone binding hmem hpass
  obtain ⟨first, hfirst⟩ := Option.ne_none_iff_exists'.mp hfound
  exact ⟨first, (ObjectCache.find?_roleBindings_load hnamespace .empty).mp hfirst⟩

end Snapshot

end

/-- No other binding decides, as no name is less than itself. -/
theorem Snapshot.Decides.unique {snapshot : Snapshot} {«namespace» user : String}
    {binding other : RoleBinding} (h : snapshot.Decides «namespace» user binding)
    (hother : snapshot.Decides «namespace» user other) : binding = other := by
  rcases h.least other hother.toAppoints with rfl | hlt
  · rfl
  rcases hother.least binding h.toAppoints with rfl | hgt
  · rfl
  exact absurd hgt (List.lt_asymm hlt)

end AccessGateway
