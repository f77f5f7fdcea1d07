import AccessGateway.Membership
import AccessGateway.Proofs.Resource.Confined

/-!
# `AccessGateway.Proofs.Resource.Agreement`: look-ups and listings agree

A listing goes through a table of searchers, the objects of a namespace, conditions, an order and a
page; a look-up goes through the same table and an index. `CallsAgree` says what the two have in
common: an object on any page is looked up under its own namespace and name, an object that is
looked up stands once in the unfiltered list of its namespace, and both are refused together.

A searcher over a store agrees with itself, as the store keeps every object under its own key. The
scope of the call is what remains: an object of a list for the whole cluster is looked up in its own
namespace, where another table may answer. So the sections that answer for the whole cluster must
hold objects without a namespace (`Snapshot.IsScoped`). A snapshot in which an account carries a
namespace is not scoped. The account is listed with the others, but in its namespace accounts are
not supported, and so it cannot be looked up there.

* `callsAgree_of_isAnsweredFrom`: calls agree when their searchers do, and answer for the namespace
  of each object that they list.
* `registries_get_agree_list`: the calls of both registries agree, and the roles of a project are
  those that the current registry has for its namespace.
-/

set_option autoImplicit false

namespace AccessGateway

/-- The sections that answer for the whole cluster hold objects without a namespace. Of the other
sections nothing is asked. -/
def Snapshot.IsScoped (snapshot : Snapshot) : Prop :=
  ∀ part : Section, part.isClusterScoped = true → ∀ object ∈ snapshot.objects part,
    (ClusterObject.metadata object).namespace = ""

/-- Look-ups and listings of one resource agree. -/
structure CallsAgree (get : String → String → Outcome StoredObject)
    (list : String → Query → Outcome (Page StoredObject)) : Prop where
  /-- What is on a page is looked up, unchanged, under its own namespace and name. -/
  get_of_listed : ∀ «namespace» query page, list «namespace» query = .ok page →
    ∀ object ∈ page.items, get object.metadata.namespace object.metadata.name = .ok object
  /-- What is looked up stands once on the page of everything in the namespace. -/
  listed_of_get : ∀ «namespace» name object, get «namespace» name = .ok object →
    ∀ query : Query, query.conditions = ∅ → query.limit < 0 → query.offset = 0 →
      ∃ page, list «namespace» query = .ok page ∧ page.items.count object = 1
  /-- A listing is refused only where each look-up is, and for the same reason. -/
  refused : ∀ «namespace» query fault, list «namespace» query = .error fault →
    ∀ name, get «namespace» name = .error fault

namespace Searcher

/-- The searcher finds what it lists, and lists once what it finds. -/
structure IsCoherent (searcher : Searcher) : Prop where
  find_of_mem : ∀ «namespace», ∀ object ∈ searcher.objects «namespace»,
    searcher.find? object.metadata.namespace object.metadata.name = some object
  count_of_find : ∀ «namespace» name object, searcher.find? «namespace» name = some object →
    (searcher.objects «namespace»).count object = 1

section
variable {cache : ObjectCache} {sort : Section → Prop} {searcher : Searcher}

/-- A searcher over a section is coherent, as objects of one key take the place of each other. So no
object is listed twice, and the index has what the list has. -/
theorem IsOver.isCoherent (h : searcher.IsOver cache sort) (hcache : cache.IsKeyed) :
    searcher.IsCoherent := by
  obtain ⟨part, label, wrap, -, hwrap, rfl⟩ := h
  constructor
  · intro «namespace» object hmem
    obtain ⟨kept, hlist, rfl⟩ := List.mem_map.mp hmem
    show ((cache.store part).get? _ _).map wrap = _
    rw [hwrap, (hcache part).get?_of_mem_toList (Store.mem_list.mp hlist).1, Option.map_some]
  · intro «namespace» name object hfind
    obtain ⟨kept, hget, rfl⟩ := Option.map_eq_some_iff.mp hfind
    have hlisted : kept ∈ (cache.store part).list «namespace» .everything :=
      Store.mem_list.mpr ⟨Store.mem_toList_of_get? hget,
        Or.inr ((hcache part).of_get? hget).1, Selector.everything_accepts _⟩
    have hnodup : (((cache.store part).list «namespace» .everything).map wrap).Nodup := by
      refine List.pairwise_map.mpr (((hcache part).pairwise_toList.filter _).imp ?_)
      intro a b hlt heq
      -- Equal objects have equal metadata, and so the same key.
      have hkey : ClusterObject.key a = ClusterObject.key b := by
        rw [ClusterObject.key, ClusterObject.key, ← hwrap, ← hwrap, heq]
      rw [hkey, Std.ReflOrd.compare_self] at hlt
      cases hlt
    exact List.count_eq_one_of_mem hnodup (List.mem_map.mpr ⟨kept, hlisted, rfl⟩)

/-- In a scoped snapshot, a section that answers for the whole cluster has objects without a
namespace. -/
theorem IsOver.namespace_of_mem {snapshot : Snapshot} (hscope : snapshot.IsScoped)
    (h : searcher.IsOver (cache.load snapshot) fun part => part.isClusterScoped = true)
    {«namespace» : String} {object : StoredObject} (hmem : object ∈ searcher.objects «namespace») :
    object.metadata.namespace = "" := by
  obtain ⟨part, label, wrap, hcluster, hwrap, rfl⟩ := h
  obtain ⟨kept, hlist, rfl⟩ := List.mem_map.mp hmem
  have hkept : kept ∈ ((cache.load snapshot).store part).toList := (Store.mem_list.mp hlist).1
  rw [ObjectCache.store_load, Store.mem_toList_ofList] at hkept
  rw [hwrap]
  exact hscope part hcluster kept hkept.mem

end

end Searcher

/-- Calls agree when their searchers are coherent, and the searcher that lists an object is the one
that answers for its namespace. Which registry it is, and whether it is asked by name or by type,
does not matter. -/
theorem callsAgree_of_isAnsweredFrom {found : String → Option Searcher} {refused : String}
    {get : String → String → Outcome StoredObject}
    {list : String → Query → Outcome (Page StoredObject)}
    (hanswer : ∀ «namespace»,
      IsAnsweredFrom (found «namespace») refused «namespace» (get «namespace») (list «namespace»))
    (hcoherent : ∀ «namespace» searcher, found «namespace» = some searcher → searcher.IsCoherent)
    (hscope : ∀ «namespace» searcher, found «namespace» = some searcher →
      ∀ object ∈ searcher.objects «namespace», found object.metadata.namespace = some searcher) :
    CallsAgree get list := by
  constructor
  · intro «namespace» query page hlist object hmem
    obtain ⟨searcher, selected, hfound, hselected, rfl⟩ := (hanswer «namespace»).of_list_ok hlist
    have hlisted := (hselected.mem_of_mem_cut hmem).1
    have hfind := (hcoherent «namespace» searcher hfound).find_of_mem «namespace» object hlisted
    rw [(hanswer _).get_eq searcher (hscope «namespace» searcher hfound object hlisted),
      Searcher.get, hfind]
  · intro «namespace» name object hget query hconditions hlimit hoffset
    obtain ⟨searcher, hfound, hfind⟩ := (hanswer «namespace»).of_get_ok hget
    obtain ⟨selected, hselected, hlist⟩ :=
      (hanswer «namespace»).list_eq searcher hfound query
    refine ⟨_, hlist, ?_⟩
    -- Everything is admitted, so the page is the searcher's list in another order.
    have hperm := hselected.perm
    rw [List.filter_eq_self.mpr fun item _ => Query.admits_of_conditions_eq_empty hconditions item]
      at hperm
    show (Page.cut selected query.limit query.offset).items.count object = 1
    rw [hoffset, Page.items_cut_of_neg selected hlimit, hperm.count_eq]
    exact (hcoherent «namespace» searcher hfound).count_of_find «namespace» name object hfind
  · intro «namespace» query fault hlist name
    cases hfound : found «namespace» with
    | none =>
      rw [((hanswer «namespace»).list_refused query).mpr hfound] at hlist
      cases hlist
      exact ((hanswer «namespace»).get_refused name).mpr hfound
    | some searcher =>
      obtain ⟨selected, -, hpage⟩ := (hanswer «namespace»).list_eq searcher hfound query
      rw [hpage] at hlist
      cases hlist

section
variable {cache : ObjectCache} {snapshot : Snapshot} (hscope : snapshot.IsScoped)
include hscope

/-- A table of the current registry answers for the namespace of each object that it lists. Without
a namespace that is because the sections are scoped, and with one because the objects are confined
to it. -/
theorem Registry.namespace_of_isOver {searcher : Searcher} {«namespace» : String}
    (h : searcher.IsOver (cache.load snapshot)
      fun part => «namespace» = "" → part.isClusterScoped = true)
    {object : StoredObject} (hmem : object ∈ searcher.objects «namespace») :
    object.metadata.namespace = «namespace» := by
  by_cases hnamespace : «namespace» = ""
  · subst hnamespace
    obtain ⟨part, label, wrap, hcluster, hover⟩ := h
    exact Searcher.IsOver.namespace_of_mem hscope ⟨part, label, wrap, hcluster rfl, hover⟩ hmem
  · exact (h.isConfined (ObjectCache.isKeyed_load _ _)).objects _ hnamespace object hmem

/-- The searcher of the legacy registry that lists an object answers for its namespace too, since
only resources of the cluster are refused there, and these have objects without one. -/
theorem LegacyRegistry.found?_of_mem {resource «namespace» : String} {searcher : Searcher}
    (hfound : (ofCache (cache.load snapshot)).found? resource «namespace» = some searcher)
    {object : StoredObject} (hmem : object ∈ searcher.objects «namespace») :
    (ofCache (cache.load snapshot)).found? resource object.metadata.namespace = some searcher := by
  have hover := isOver_of_found? hfound
  rw [found?] at hfound ⊢
  by_cases hcluster : resource ∈ clusterResources
  · -- A resource of the cluster is answered without a namespace only, and its objects have none.
    obtain ⟨part, label, wrap, hsort, hpart⟩ := hover
    have hobject : object.metadata.namespace = "" :=
      Searcher.IsOver.namespace_of_mem hscope ⟨part, label, wrap, hsort hcluster, hpart⟩ hmem
    rw [if_neg fun h => h.1 hobject]
    split at hfound
    · cases hfound
    · exact hfound
  · rw [if_neg fun h => hcluster h.2] at hfound ⊢
    exact hfound

end

/-- In a namespace, roles are those of the store of namespace roles. -/
theorem Registry.named?_roles (cache : ObjectCache) {«namespace» : String}
    (hnamespace : «namespace» ≠ "") : (ofCache cache).named? «namespace» ResourceName.roles
      = some (.ofStore ResourceName.roles .role cache.roles) := by
  rw [named?, table, if_neg hnamespace]
  rfl

/-- A role shows the same fields as an object of which the kind is not fixed. -/
theorem Query.keepsFields_role : Query.KeepsFields StoredObject.role :=
  ⟨fun _ => rfl, fun _ => rfl, fun _ => rfl⟩

/-- After a load of a snapshot whose sections for the whole cluster hold objects without a
namespace, the look-ups and listings of every resource agree, in the current registry by name and by
type, and in the legacy one. In a namespace, what is listed and described as the roles of a project
is what the current registry lists and finds as roles, down to the ones that are not found. -/
theorem registries_get_agree_list (cache : ObjectCache) (snapshot : Snapshot)
    (hscope : snapshot.IsScoped) :
    (∀ resource, CallsAgree ((Registry.ofCache (cache.load snapshot)).get resource)
      ((Registry.ofCache (cache.load snapshot)).list resource)) ∧
    (∀ type, CallsAgree ((Registry.ofCache (cache.load snapshot)).getOf type)
      ((Registry.ofCache (cache.load snapshot)).listOf type)) ∧
    (∀ resource, CallsAgree ((LegacyRegistry.ofCache (cache.load snapshot)).get resource)
      ((LegacyRegistry.ofCache (cache.load snapshot)).list resource)) ∧
    (∀ «namespace», «namespace» ≠ "" →
      (∀ query, (Registry.ofCache (cache.load snapshot)).list ResourceName.roles «namespace» query
        = .ok (((cache.load snapshot).listRoles «namespace» query).map .role)) ∧
      (∀ name, (Registry.ofCache (cache.load snapshot)).get ResourceName.roles «namespace» name
        = ((cache.load snapshot).describeRole «namespace» name).map .role)) := by
  have hkeyed := ObjectCache.isKeyed_load cache snapshot
  refine ⟨fun resource => ?_, fun type => ?_, fun resource => ?_, fun «namespace» hnamespace => ?_⟩
  · refine callsAgree_of_isAnsweredFrom (Registry.isAnsweredFrom_named? _ resource)
      (fun _ _ hfound => (Registry.isOver_of_named? hfound).isCoherent hkeyed) ?_
    intro «namespace» searcher hfound object hmem
    rw [Registry.namespace_of_isOver hscope (Registry.isOver_of_named? hfound) hmem, hfound]
  · refine callsAgree_of_isAnsweredFrom (Registry.isAnsweredFrom_table _ type)
      (fun _ _ hfound => (Registry.isOver_of_table hfound).isCoherent hkeyed) ?_
    intro «namespace» searcher hfound object hmem
    rw [Registry.namespace_of_isOver hscope (Registry.isOver_of_table hfound) hmem, hfound]
  · exact callsAgree_of_isAnsweredFrom (LegacyRegistry.isAnsweredFrom_found? _ resource)
      (fun _ _ hfound => (LegacyRegistry.isOver_of_found? hfound).isCoherent hkeyed)
      fun _ _ hfound _ hmem => LegacyRegistry.found?_of_mem hscope hfound hmem
  · have hnamed := Registry.named?_roles (cache.load snapshot) hnamespace
    constructor
    · intro query
      rw [Registry.list, Registry.searcherNamed_eq, hnamed]
      exact congrArg Except.ok (Query.run_map Query.keepsFields_role query _)
    · intro name
      rw [Registry.get, Registry.searcherNamed_eq, hnamed]
      show Searcher.get _ _ _ = _
      simp only [Searcher.get, Searcher.ofStore, ObjectCache.describeRole]
      cases (cache.load snapshot).roles.get? «namespace» name <;> rfl

/-- A role that permits nothing, in a namespace. -/
def demoViewer : Role := ⟨.namespaced "demo" "viewer", []⟩

/-- One account, and one role in a namespace. -/
def Snapshot.demo : Snapshot := { users := [.active "alice" ""], roles := [demoViewer] }

/-- This snapshot is scoped. The role is found in its namespace, and so it is listed there once, and
no other role is found. -/
theorem registries_get_agree_list_demo :
    Snapshot.demo.IsScoped ∧
    (Registry.ofCache (ObjectCache.empty.load .demo)).get ResourceName.roles "demo" "viewer"
      = .ok (.role demoViewer) ∧
    (∃ page,
      (Registry.ofCache (ObjectCache.empty.load .demo)).list ResourceName.roles "demo" .everything
        = .ok page ∧ page.items.count (.role demoViewer) = 1) ∧
    (Registry.ofCache (ObjectCache.empty.load .demo)).get ResourceName.roles "demo" "admin"
      = .error (.notFound ResourceName.roles "admin") := by
  have hscope : Snapshot.demo.IsScoped := by
    intro part hcluster object hmem
    cases part with
    | users =>
      obtain rfl := List.mem_singleton.mp hmem
      rfl
    | roles => cases hcluster
    | _ => cases hmem
  obtain ⟨hcalls, -, -, hroles⟩ := registries_get_agree_list .empty .demo hscope
  have hget := (hroles "demo" (by decide)).2
  have hviewer := (hget "viewer").trans (show _ = .ok (.role demoViewer) by rfl)
  exact ⟨hscope, hviewer,
    (hcalls ResourceName.roles).listed_of_get _ _ _ hviewer .everything rfl (by decide) rfl,
    (hget "admin").trans (by rfl)⟩

end AccessGateway
