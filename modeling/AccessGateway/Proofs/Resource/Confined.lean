import AccessGateway.Proofs.Cluster.Reachable
import AccessGateway.Proofs.Resource.Registration

/-!
# `AccessGateway.Proofs.Resource.Confined`: answers stay in their namespace

Both registries are tables of searchers over the stores of a cache, and each searcher is over the
store of one section (`Searcher.IsOver`). The tables are walked once, to say which sections answer
where: for the whole cluster those whose objects belong to no namespace.

A searcher that is asked for a namespace answers with objects of that namespace only, so whichever
of the two registries answers, and whichever searcher it picks, nothing of another namespace is
shown. Single objects are looked up under a key, and so what is found in the empty namespace has
none. Only a list without a namespace is not confined, since it is the list of everything.

* `Registry.isOver_of_table`, `LegacyRegistry.isOver_of_found?`: what the tables hold.
* `Searcher.IsOver.isConfined`: a searcher over a section stays in the namespace.
* `Registry.namespace_of_get`, `Registry.namespace_of_list`: what the current registry answers.
* `LegacyRegistry.namespace_of_get`, `LegacyRegistry.namespace_of_list`: what the legacy one does.
-/

set_option autoImplicit false

namespace AccessGateway

/-- Whether the objects of a section belong to the whole cluster, and so to no namespace. -/
def Section.isClusterScoped : Section → Bool
  | .roles | .roleBindings | .builders | .buildRuns => false
  | _ => true

namespace Searcher

/-! ### Searchers over sections -/

/-- The searcher is over the store of a section of some sort, and shows its objects with the
metadata that they have. Which fields it shows besides is left open. -/
def IsOver (cache : ObjectCache) (sort : Section → Prop) (searcher : Searcher) : Prop :=
  ∃ (part : Section) (label : String) (wrap : part.Object → StoredObject), sort part ∧
    (∀ object, (wrap object).metadata = ClusterObject.metadata object) ∧
    searcher = ofStore label wrap (cache.store part)

/-- The searchers of a table are over sections, each of the sort that its key calls for. This is the
invariant of filling a table. -/
def AreOver {κ : Type} [Ord κ] [Std.TransOrd κ] (cache : ObjectCache) (sort : κ → Section → Prop)
    (table : Std.ExtTreeMap κ Searcher) : Prop :=
  ∀ (key : κ) (searcher : Searcher), table[key]? = some searcher →
    searcher.IsOver cache (sort key)

section
variable {cache : ObjectCache} {κ : Type} [Ord κ] [Std.TransOrd κ] {sort : κ → Section → Prop}
  {table : Std.ExtTreeMap κ Searcher}

/-- An empty table has no searcher to be over anything. -/
theorem areOver_empty : AreOver cache sort (∅ : Std.ExtTreeMap κ Searcher) := by
  intro key searcher hget
  rw [Std.ExtTreeMap.getElem?_empty] at hget
  cases hget

/-- A table stays over a cache when a searcher of one of its sections is put in, if the section is
right for the key. -/
theorem AreOver.insert [Std.LawfulEqOrd κ] (h : AreOver cache sort table) (key : κ)
    (part : Section) (label : String) (wrap : part.Object → StoredObject)
    (hwrap : ∀ object, (wrap object).metadata = ClusterObject.metadata object)
    (hsort : sort key part) :
    AreOver cache sort (table.insert key (ofStore label wrap (cache.store part))) := by
  intro other found hget
  rw [Std.ExtTreeMap.getElem?_insert] at hget
  split at hget
  · rename_i hequal
    cases hget
    obtain rfl := Std.compare_eq_iff_eq.mp hequal
    exact ⟨part, label, wrap, hsort, hwrap, rfl⟩
  · exact h other found hget

end

/-! ### Searchers that stay in a namespace -/

/-- What is asked for in a namespace is found there, be it one object or a list. -/
structure IsConfined (searcher : Searcher) : Prop where
  find : ∀ «namespace» name object, searcher.find? «namespace» name = some object →
    object.metadata.namespace = «namespace»
  objects : ∀ «namespace», «namespace» ≠ "" → ∀ object ∈ searcher.objects «namespace»,
    object.metadata.namespace = «namespace»

/-- A searcher over a section stays in the namespace, since the store is keyed by namespace and
name. -/
theorem IsOver.isConfined {cache : ObjectCache} {sort : Section → Prop} {searcher : Searcher}
    (h : searcher.IsOver cache sort) (hcache : cache.IsKeyed) : searcher.IsConfined := by
  obtain ⟨part, label, wrap, -, hwrap, rfl⟩ := h
  constructor
  · intro «namespace» name object hfind
    obtain ⟨kept, hget, rfl⟩ := Option.map_eq_some_iff.mp hfind
    rw [hwrap]
    exact ((hcache part).of_get? hget).1
  · intro «namespace» hnamespace object hmem
    obtain ⟨kept, hlist, rfl⟩ := List.mem_map.mp hmem
    rw [hwrap]
    exact Store.namespace_of_mem_list hnamespace hlist

end Searcher

section
variable {found : Option Searcher} {refused «namespace» : String}
  {get : String → Outcome StoredObject} {list : Query → Outcome (Page StoredObject)}
  (h : IsAnsweredFrom found refused «namespace» get list)
  (hconfined : ∀ searcher, found = some searcher → searcher.IsConfined)
include h hconfined

/-- What is found in a namespace is in it. In the empty namespace only objects without one are
found. -/
theorem IsAnsweredFrom.namespace_of_get {name : String} {object : StoredObject}
    (hget : get name = .ok object) : object.metadata.namespace = «namespace» := by
  obtain ⟨searcher, hfound, hfind⟩ := h.of_get_ok hget
  exact (hconfined searcher hfound).find _ _ _ hfind

/-- What is listed in a namespace is in it. -/
theorem IsAnsweredFrom.namespace_of_list (hnamespace : «namespace» ≠ "") {query : Query}
    {page : Page StoredObject} (hlist : list query = .ok page) :
    ∀ object ∈ page.items, object.metadata.namespace = «namespace» := by
  intro object hmem
  obtain ⟨searcher, selected, hfound, hselected, rfl⟩ := h.of_list_ok hlist
  exact (hconfined searcher hfound).objects _ hnamespace object
    (hselected.mem_of_mem_cut hmem).1

end

namespace Registry

variable {cache : ObjectCache} {resource «namespace» : String} {searcher : Searcher}

/-- For the whole cluster the registry has searchers over sections without namespaces, one
registration after the other. -/
theorem areOver_cluster (cache : ObjectCache) :
    Searcher.AreOver cache (fun _ part => part.isClusterScoped = true) (ofCache cache).cluster :=
  have hempty : Searcher.AreOver cache (fun (_ : ResourceType) part => part.isClusterScoped = true)
      ∅ := Searcher.areOver_empty
  hempty
  |>.insert _ .devopsProjects ResourceName.devopsProjects .other (fun _ => rfl) rfl
  |>.insert _ .workspaces ResourceName.workspaces .other (fun _ => rfl) rfl
  |>.insert _ .workspaceTemplates ResourceName.workspaceTemplates .other (fun _ => rfl) rfl
  |>.insert _ .globalRoles ResourceName.globalRoles .role (fun _ => rfl) rfl
  |>.insert _ .workspaceRoles ResourceName.workspaceRoles .role (fun _ => rfl) rfl
  |>.insert _ .users ResourceName.users .user (fun _ => rfl) rfl
  |>.insert _ .globalRoleBindings ResourceName.globalRoleBindings .binding (fun _ => rfl) rfl
  |>.insert _ .workspaceRoleBindings ResourceName.workspaceRoleBindings .binding (fun _ => rfl) rfl

/-- The searchers for namespaces are over sections of the cache, of either kind. -/
theorem areOver_namespaced (cache : ObjectCache) :
    Searcher.AreOver cache (fun _ _ => True) (ofCache cache).namespaced :=
  have hempty : Searcher.AreOver cache (fun (_ : ResourceType) _ => True) ∅ :=
    Searcher.areOver_empty
  hempty
  |>.insert _ .roles ResourceName.roles .role (fun _ => rfl) trivial
  |>.insert _ .roleBindings ResourceName.roleBindings .binding (fun _ => rfl) trivial

/-- The searchers that answer for a namespace are over sections, without namespaces if none is
given. The two tables are put together here. -/
theorem isOver_of_table {type : ResourceType}
    (hget : ((ofCache cache).table «namespace»)[type]? = some searcher) :
    searcher.IsOver cache (fun part => «namespace» = "" → part.isClusterScoped = true) := by
  rw [table] at hget
  split at hget
  · obtain ⟨part, label, wrap, hcluster, hover⟩ := areOver_cluster cache type searcher hget
    exact ⟨part, label, wrap, fun _ => hcluster, hover⟩
  · rename_i hnamespace
    obtain ⟨part, label, wrap, -, hover⟩ := areOver_namespaced cache type searcher hget
    exact ⟨part, label, wrap, fun h => absurd h hnamespace, hover⟩

/-- A searcher that is found by the name of a resource is over a section, which has no namespaced
objects where no namespace is asked for. -/
theorem isOver_of_named? (hfound : (ofCache cache).named? «namespace» resource = some searcher) :
    searcher.IsOver cache (fun part => «namespace» = "" → part.isClusterScoped = true) := by
  obtain ⟨⟨type, _⟩, hfind, rfl⟩ := Option.map_eq_some_iff.mp hfound
  exact isOver_of_table (Std.ExtTreeMap.mem_toList_iff_getElem?_eq_some.mp
    (List.mem_of_find?_eq_some hfind))

/-- What the registry finds in a namespace is of that namespace. -/
theorem namespace_of_get (hcache : cache.IsKeyed) {name : String} {object : StoredObject}
    (hget : (ofCache cache).get resource «namespace» name = .ok object) :
    object.metadata.namespace = «namespace» :=
  (isAnsweredFrom_named? _ resource «namespace»).namespace_of_get
    (fun _ hfound => (isOver_of_named? hfound).isConfined hcache) hget

/-- What the registry lists of a namespace is of that namespace. -/
theorem namespace_of_list (hcache : cache.IsKeyed) (hnamespace : «namespace» ≠ "") {query : Query}
    {page : Page StoredObject}
    (hlist : (ofCache cache).list resource «namespace» query = .ok page) :
    ∀ object ∈ page.items, object.metadata.namespace = «namespace» :=
  (isAnsweredFrom_named? _ resource «namespace»).namespace_of_list
    (fun _ hfound => (isOver_of_named? hfound).isConfined hcache) hnamespace hlist

end Registry

namespace LegacyRegistry

variable {cache : ObjectCache} {resource «namespace» : String} {searcher : Searcher}

/-- Resources of the cluster are looked up in sections without namespaces. -/
theorem areOver_searchers (cache : ObjectCache) :
    Searcher.AreOver cache
      (fun resource part => resource ∈ clusterResources → part.isClusterScoped = true)
      (ofCache cache).searchers :=
  Searcher.areOver_empty
  |>.insert _ .builders ResourceName.builders .other (fun _ => rfl) (by decide)
  |>.insert _ .buildRuns ResourceName.buildRuns .other (fun _ => rfl) (by decide)
  |>.insert _ .builderTemplates ResourceName.builderTemplates .other (fun _ => rfl) (by decide)
  |>.insert _ .namespaces ResourceName.namespaces .other (fun _ => rfl) (by decide)

/-- In the first generation it is the name of the resource that tells whether its objects may be
namespaced. -/
theorem isOver_of_found? (hfound : (ofCache cache).found? resource «namespace» = some searcher) :
    searcher.IsOver cache
      (fun part => resource ∈ clusterResources → part.isClusterScoped = true) := by
  rw [found?] at hfound
  split at hfound
  · cases hfound
  · exact areOver_searchers cache resource searcher hfound

/-- What the registry finds in a namespace is of that namespace. -/
theorem namespace_of_get (hcache : cache.IsKeyed) {name : String} {object : StoredObject}
    (hget : (ofCache cache).get resource «namespace» name = .ok object) :
    object.metadata.namespace = «namespace» :=
  (isAnsweredFrom_found? _ resource «namespace»).namespace_of_get
    (fun _ hfound => (isOver_of_found? hfound).isConfined hcache) hget

/-- What the registry lists of a namespace is of that namespace. -/
theorem namespace_of_list (hcache : cache.IsKeyed) (hnamespace : «namespace» ≠ "") {query : Query}
    {page : Page StoredObject}
    (hlist : (ofCache cache).list resource «namespace» query = .ok page) :
    ∀ object ∈ page.items, object.metadata.namespace = «namespace» :=
  (isAnsweredFrom_found? _ resource «namespace»).namespace_of_list
    (fun _ hfound => (isOver_of_found? hfound).isConfined hcache) hnamespace hlist

end LegacyRegistry

end AccessGateway
