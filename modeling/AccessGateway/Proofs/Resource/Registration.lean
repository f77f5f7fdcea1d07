import AccessGateway.Proofs.Cluster.Store
import AccessGateway.Proofs.Fault
import AccessGateway.Proofs.Lists
import AccessGateway.Proofs.Query.Order
import AccessGateway.Resource.LegacyRegistry
import AccessGateway.Resource.Registry

/-!
# `AccessGateway.Proofs.Resource.Registration`: what a registry answers from

A registry is built by registrations, and a later one takes the place of an earlier one under the
same key. The answers are described on the list of registrations alone, without the tables that
they are kept in.

A call of the current registry is answered from the registrations of one scope
(`Registration.entriesFor`): those for the whole cluster if no namespace is given, and those for
namespaces otherwise. A resource type stands for the searcher that was registered last under it. A
plural name stands for the least type that has it (`IsLeastNamed`).

The legacy registry knows one scope, and a plural name is the key itself. In a namespace it refuses
the resources of the cluster, whatever is registered.

In each case `IsAnsweredFrom` says what becomes of a call once it is settled which searcher answers:
pages hold the objects that the searcher has for the namespace, in the order of the query, and the
total counts them before a page is cut out.

That a table holds what was registered last is an induction over the registrations, with one step
for each (`Registry.table_register`): it adds the entry it makes for the namespace, if it makes one.
From there on tables are maps made of lists, and the rest is what is known of these. A search for a
plural name goes along the types in their order, so the first that it meets is the least.
-/

set_option autoImplicit false

namespace AccessGateway

/-! ### The order of resource types -/

/-- Which resource type comes first: the group decides, then the version, then the plural name, each
octet by octet. -/
inductive ResourceType.Before : ResourceType → ResourceType → Prop where
  | group {a b : ResourceType} (h : Text.utf8 a.group < Text.utf8 b.group) : Before a b
  | version {a b : ResourceType} (hgroup : a.group = b.group)
      (h : Text.utf8 a.version < Text.utf8 b.version) : Before a b
  | resource {a b : ResourceType} (hgroup : a.group = b.group) (hversion : a.version = b.version)
      (h : Text.utf8 a.resource < Text.utf8 b.resource) : Before a b

/-- Types are compared by group, version and resource, in this order, and the first part that
differs decides. -/
theorem ResourceType.compare_eq_lt_iff {a b : ResourceType} : compare a b = .lt ↔ a.Before b := by
  have hparts : compare a b = (compare a.group b.group).then
      ((compare a.version b.version).then (compare a.resource b.resource)) := by
    show compare a.parts b.parts = _
    simp only [parts, List.compare_cons_cons, List.compare_nil_nil]
    cases compare a.resource b.resource <;> rfl
  simp only [hparts, Ordering.then_eq_lt, Std.compare_eq_iff_eq, Text.compare_eq_lt_iff]
  constructor
  · intro h
    rcases h with h | ⟨hgroup, h | ⟨hversion, h⟩⟩
    · exact .group h
    · exact .version hgroup h
    · exact .resource hgroup hversion h
  · intro h
    cases h with
    | group h => exact Or.inl h
    | version hgroup h => exact Or.inr ⟨hgroup, Or.inl h⟩
    | resource hgroup hversion h => exact Or.inr ⟨hgroup, Or.inr ⟨hversion, h⟩⟩

/-! ### Registrations -/

/-- A searcher that is registered under a resource type, for the whole cluster or for namespaces. A
type may be registered for both. -/
inductive Registration where
  | cluster (type : ResourceType) (searcher : Searcher)
  | namespaced (type : ResourceType) (searcher : Searcher)

namespace Registration

/-- The resource type that is registered. -/
def type : Registration → ResourceType
  | cluster type _ => type
  | namespaced type _ => type

/-- The entry that a registration makes for a namespace: one for the whole cluster counts if no
namespace is given, and one for namespaces if one is. -/
def entryFor («namespace» : String) : Registration → Option (ResourceType × Searcher)
  | cluster type searcher => if «namespace» = "" then some (type, searcher) else none
  | namespaced type searcher => if «namespace» = "" then none else some (type, searcher)

/-- The entries for a namespace, in the order in which they were made. All namespaces that have a
name have the same entries. -/
def entriesFor («namespace» : String) (registrations : List Registration) :
    List (ResourceType × Searcher) :=
  registrations.filterMap (entryFor «namespace»)

end Registration

namespace Registry

/-- Registers a searcher in its scope. -/
def register (r : Registry) : Registration → Registry
  | .cluster type searcher => r.registerCluster type searcher
  | .namespaced type searcher => r.registerNamespaced type searcher

/-- The registry of a sequence of registrations. -/
def ofRegistrations (registrations : List Registration) : Registry :=
  registrations.foldl register empty

/-- A registration adds its entry to the table that answers for a namespace, if it makes one. It
leaves the other table as it is. -/
theorem table_register (r : Registry) (registration : Registration) («namespace» : String) :
    (r.register registration).table «namespace»
      = (registration.entryFor «namespace»).elim (r.table «namespace»)
          fun entry => (r.table «namespace»).insert entry.1 entry.2 := by
  cases registration with
  | cluster type searcher =>
    simp only [register, registerCluster, table, Registration.entryFor]
    split <;> rfl
  | namespaced type searcher =>
    simp only [register, registerNamespaced, table, Registration.entryFor]
    split <;> rfl

/-- The table that answers for a namespace is made of the entries for it, by induction on the
registrations. -/
theorem table_ofRegistrations (registrations : List Registration) («namespace» : String) :
    (ofRegistrations registrations).table «namespace»
      = .ofList (Registration.entriesFor «namespace» registrations) := by
  have hfold : ∀ r : Registry, (registrations.foldl register r).table «namespace»
      = (Registration.entriesFor «namespace» registrations).foldl
          (fun (table : Std.ExtTreeMap ResourceType Searcher) entry =>
            table.insert entry.1 entry.2) (r.table «namespace») := by
    -- The registry is arbitrary, as the fold goes on with the one after the first registration.
    induction registrations with
    | nil => exact fun r => rfl
    | cons registration rest ih =>
      intro r
      rw [List.foldl_cons, ih, table_register, Registration.entriesFor, Registration.entriesFor,
        List.filterMap_cons]
      cases registration.entryFor «namespace» <;> rfl
  have hempty : empty.table «namespace» = ∅ := ite_self _
  rw [ofRegistrations, hfold, hempty, Std.ExtTreeMap.ofList_eq_foldl]

/-- The table holds what was registered last under each type, in the scope that the namespace stands
for. -/
theorem getElem?_table_ofRegistrations {registrations : List Registration} {«namespace» : String}
    {type : ResourceType} {searcher : Searcher} :
    ((ofRegistrations registrations).table «namespace»)[type]? = some searcher
      ↔ IsLastBy Prod.fst (Registration.entriesFor «namespace» registrations) (type, searcher) := by
  rw [table_ofRegistrations, getElem?_ofList_eq_some_iff]

/-- Registrations under different types may come in either order, since they are kept under
different keys or in different tables. -/
theorem register_comm (r : Registry) {a b : Registration} (htype : a.type ≠ b.type) :
    (r.register a).register b = (r.register b).register a := by
  have hinsert : ∀ (table : Std.ExtTreeMap ResourceType Searcher) (x y : Searcher),
      (table.insert a.type x).insert b.type y = (table.insert b.type y).insert a.type x := by
    intro table x y
    refine Std.ExtTreeMap.ext_getElem? fun type => ?_
    simp only [Std.ExtTreeMap.getElem?_insert, Std.compare_eq_iff_eq]
    grind
  cases a with
  | cluster type searcher =>
    cases b with
    | cluster other found => exact congrArg (Registry.mk · r.namespaced) (hinsert _ _ _)
    | namespaced other found => rfl
  | namespaced type searcher =>
    cases b with
    | cluster other found => rfl
    | namespaced other found => exact congrArg (Registry.mk r.cluster) (hinsert _ _ _)

end Registry

namespace LegacyRegistry

/-- The registry of a sequence of registrations under plural names. -/
def ofRegistrations (registrations : List (String × Searcher)) : LegacyRegistry :=
  registrations.foldl (fun r entry => r.register entry.1 entry.2) empty

/-- The table of the first generation holds the last registration of each resource. -/
theorem searchers_ofRegistrations (registrations : List (String × Searcher)) :
    (ofRegistrations registrations).searchers = .ofList registrations := by
  have hfold : ∀ r : LegacyRegistry,
      (registrations.foldl (fun r entry => r.register entry.1 entry.2) r).searchers
        = registrations.foldl (fun (table : Std.ExtTreeMap String Searcher) entry =>
            table.insert entry.1 entry.2) r.searchers := by
    induction registrations with
    | nil => exact fun r => rfl
    | cons entry rest ih => exact fun r => ih (r.register entry.1 entry.2)
  rw [Std.ExtTreeMap.ofList_eq_foldl]
  exact hfold empty

end LegacyRegistry

/-! ### Which searcher answers -/

/-- The searcher that a plural name stands for among entries: the one that was registered last under
the least resource type with that name. -/
def IsLeastNamed (entries : List (ResourceType × Searcher)) (resource : String)
    (searcher : Searcher) : Prop :=
  ∃ type : ResourceType, type.resource = resource ∧ IsLastBy Prod.fst entries (type, searcher) ∧
    ∀ entry ∈ entries, entry.1.resource = resource → entry.1 = type ∨ type.Before entry.1

/-- How calls for the objects of a namespace are answered once it is settled which searcher does so,
if any. -/
structure IsAnsweredFrom (found : Option Searcher) (refused «namespace» : String)
    (get : String → Outcome StoredObject) (list : Query → Outcome (Page StoredObject)) : Prop where
  /-- The searcher looks up single objects. -/
  get_eq : ∀ searcher, found = some searcher → ∀ name, get name = searcher.get «namespace» name
  /-- A page is cut out of the objects that the searcher has for the namespace, once they are
  filtered and put in order, and the total counts all of those. -/
  list_eq : ∀ searcher, found = some searcher → ∀ query, ∃ selected,
    query.IsOrderedSelection (searcher.objects «namespace») selected ∧
    list query = .ok ⟨selected.length, (Page.cut selected query.limit query.offset).items⟩
  /-- A look-up is refused exactly when no searcher is there. -/
  get_refused : ∀ name, get name = .error (.notSupported refused) ↔ found = none
  /-- And so is a listing. -/
  list_refused : ∀ query, list query = .error (.notSupported refused) ↔ found = none

section
variable {found : Option Searcher} {refused «namespace» : String}
  {get : String → Outcome StoredObject} {list : Query → Outcome (Page StoredObject)}

/-- An object that is given was looked up by the searcher that answers, so there is one. -/
theorem IsAnsweredFrom.of_get_ok (h : IsAnsweredFrom found refused «namespace» get list)
    {name : String} {object : StoredObject} (hget : get name = .ok object) :
    ∃ searcher, found = some searcher ∧ searcher.find? «namespace» name = some object := by
  cases hfound : found with
  | none =>
    rw [(h.get_refused name).mpr hfound] at hget
    cases hget
  | some searcher =>
    refine ⟨searcher, rfl, ?_⟩
    rw [h.get_eq searcher hfound name, Searcher.get] at hget
    split at hget
    · rename_i hfind
      cases hget
      exact hfind
    · cases hget

/-- A page that is given was cut out of the objects of the searcher that answers. -/
theorem IsAnsweredFrom.of_list_ok (h : IsAnsweredFrom found refused «namespace» get list)
    {query : Query} {page : Page StoredObject} (hlist : list query = .ok page) :
    ∃ searcher selected, found = some searcher ∧
      query.IsOrderedSelection (searcher.objects «namespace») selected ∧
      page = ⟨selected.length, (Page.cut selected query.limit query.offset).items⟩ := by
  cases hfound : found with
  | none =>
    rw [(h.list_refused query).mpr hfound] at hlist
    cases hlist
  | some searcher =>
    obtain ⟨selected, hselected, hpage⟩ := h.list_eq searcher hfound query
    exact ⟨searcher, selected, rfl, hselected, Except.ok.inj (hlist.symm.trans hpage)⟩

end

/-- Calls for the objects of a namespace are answered by the one searcher with a property, and are
refused, for lack of one, in the stated case. The two halves say of a search that it finds all there
is, and nothing else. -/
def IsAnsweredBy (answers : Searcher → Prop) (lacking : Prop) (refused «namespace» : String)
    (get : String → Outcome StoredObject) (list : Query → Outcome (Page StoredObject)) : Prop :=
  ∃ found : Option Searcher, (∀ searcher, found = some searcher ↔ answers searcher) ∧
    (found = none ↔ lacking) ∧ IsAnsweredFrom found refused «namespace» get list

/-- Calls that first ask for a searcher are answered from what they get. Both registries are made in
this way, by name and by type. -/
theorem isAnsweredFrom_of_lookup {found : Option Searcher} {refused «namespace» : String}
    {lookup : Outcome Searcher}
    (hlookup : lookup = found.elim (.error (.notSupported refused)) .ok) :
    IsAnsweredFrom found refused «namespace»
      (fun name => lookup >>= fun searcher => searcher.get «namespace» name)
      (fun query => lookup >>= fun searcher => pure (searcher.list «namespace» query)) := by
  subst hlookup
  cases found with
  | none =>
    exact ⟨nofun, nofun, fun _ => ⟨fun _ => rfl, fun _ => rfl⟩,
      fun _ => ⟨fun _ => rfl, fun _ => rfl⟩⟩
  | some searcher =>
    refine ⟨?_, ?_, ?_, ?_⟩
    · intro other hother name
      cases hother
      rfl
    · intro other hother query
      cases hother
      exact ⟨query.select (searcher.objects «namespace»), Query.isOrderedSelection_select, rfl⟩
    · intro name
      refine ⟨fun hrefused => ?_, nofun⟩
      -- A searcher either finds the object or says that it does not.
      change searcher.get «namespace» name = _ at hrefused
      rw [Searcher.get] at hrefused
      split at hrefused <;> cases hrefused
    · exact fun query => ⟨nofun, nofun⟩

namespace Registry

variable {registrations : List Registration} {«namespace» resource : String}

/-- The searcher that the table for a namespace holds under a plural name, if any, without the
refusal. -/
def named? (r : Registry) («namespace» resource : String) : Option Searcher :=
  ((r.table «namespace»).toList.find? fun (type, _) => type.resource = resource).map Prod.snd

/-- A resource that was not registered is refused by its name, as it was asked for. -/
theorem searcherNamed_eq (r : Registry) («namespace» resource : String) :
    r.searcherNamed «namespace» resource
      = (r.named? «namespace» resource).elim (.error (.notSupported resource)) .ok := by
  rw [searcherNamed, named?]
  split
  · rename_i type searcher hfind
    rw [hfind]
    rfl
  · rename_i hfind
    rw [hfind]
    rfl

/-- A type that was not registered is refused by its display, which has group and version. -/
theorem searcherOf_eq (r : Registry) («namespace» : String) (type : ResourceType) :
    r.searcherOf «namespace» type
      = (r.table «namespace»)[type]?.elim (.error (.notSupported type.display)) .ok := by
  rw [searcherOf]
  cases (r.table «namespace»)[type]? <;> rfl

/-- Requests by the name of a resource are answered from the searcher of that name. -/
theorem isAnsweredFrom_named? (r : Registry) (resource «namespace» : String) :
    IsAnsweredFrom (r.named? «namespace» resource) resource «namespace»
      (r.get resource «namespace») (r.list resource «namespace») :=
  isAnsweredFrom_of_lookup (searcherNamed_eq r «namespace» resource)

/-- Requests by type are answered from the searcher in the table. -/
theorem isAnsweredFrom_table (r : Registry) (type : ResourceType) («namespace» : String) :
    IsAnsweredFrom (r.table «namespace»)[type]? type.display «namespace»
      (r.getOf type «namespace») (r.listOf type «namespace») :=
  isAnsweredFrom_of_lookup (searcherOf_eq r «namespace» type)

/-- A plural name stands for the least type that has it. The list of a table is in the order of its
types, so this is the first that is found. -/
theorem named?_ofRegistrations_eq_some_iff {searcher : Searcher} :
    (ofRegistrations registrations).named? «namespace» resource = some searcher
      ↔ IsLeastNamed (Registration.entriesFor «namespace» registrations) resource searcher := by
  rw [named?, Option.map_eq_some_iff]
  constructor
  · rintro ⟨⟨type, found⟩, hfind, rfl⟩
    obtain ⟨hresource, hget, hleast⟩ := find?_toList_eq_some_iff.mp hfind
    refine ⟨type, of_decide_eq_true hresource, getElem?_table_ofRegistrations.mp hget, ?_⟩
    intro entry hmem hnamed
    -- The table has an entry of this type, which does not come first.
    obtain ⟨⟨_, last⟩, hlast, rfl⟩ := exists_isLastBy_of_mem Prod.fst hmem
    have hstored := getElem?_table_ofRegistrations.mpr hlast
    cases hcompare : compare type entry.1 with
    | lt => exact Or.inr (ResourceType.compare_eq_lt_iff.mp hcompare)
    | eq => exact Or.inl (Std.compare_eq_iff_eq.mp hcompare).symm
    | gt =>
      have hearlier := hleast (entry.1, last) hstored (Std.OrientedCmp.lt_of_gt hcompare)
      exact absurd hnamed (of_decide_eq_false hearlier)
  · rintro ⟨type, hresource, hlast, hleast⟩
    refine ⟨(type, searcher), find?_toList_eq_some_iff.mpr ⟨decide_eq_true hresource,
      getElem?_table_ofRegistrations.mpr hlast, fun earlier hget hlt => ?_⟩, rfl⟩
    refine decide_eq_false fun hnamed => ?_
    rcases hleast earlier (getElem?_table_ofRegistrations.mp hget).mem hnamed with heq | hbefore
    · rw [heq, Std.ReflOrd.compare_self] at hlt
      cases hlt
    · exact Std.OrientedCmp.not_lt_of_lt hlt (ResourceType.compare_eq_lt_iff.mpr hbefore)

/-- Of two groups with users, `iam.kubesphere.io` comes before `rbac.authorization.k8s.io`, though
it was registered later. -/
example (users : Store User) (roles : Store Role) :
    let ofIam : Searcher := .ofStore "users of iam" .user users
    let ofRbac : Searcher := .ofStore "users of rbac" .role roles
    ((ofRegistrations [.cluster (.rbac ResourceName.users) ofRbac,
        .cluster (.iam ResourceName.users) ofIam]).named? "" ResourceName.users).map Searcher.label
      = some "users of iam" := by
  intros
  rfl

/-- It stands for nothing exactly when no type that was registered has it. -/
theorem named?_ofRegistrations_eq_none_iff :
    (ofRegistrations registrations).named? «namespace» resource = none
      ↔ ∀ entry ∈ Registration.entriesFor «namespace» registrations,
          entry.1.resource ≠ resource := by
  rw [named?, Option.map_eq_none_iff, List.find?_eq_none]
  constructor
  · intro hnone entry hmem hnamed
    obtain ⟨⟨_, last⟩, hlast, rfl⟩ := exists_isLastBy_of_mem Prod.fst hmem
    have hstored := getElem?_table_ofRegistrations.mpr hlast
    exact hnone (entry.1, last) (Std.ExtTreeMap.mem_toList_iff_getElem?_eq_some.mpr hstored)
      (decide_eq_true hnamed)
  · intro hnone entry hmem hnamed
    have hlast := getElem?_table_ofRegistrations.mp
      (Std.ExtTreeMap.mem_toList_iff_getElem?_eq_some.mp hmem)
    exact hnone entry hlast.mem (of_decide_eq_true hnamed)

/-- The registry answers each call from the entries that registrations make for its namespace. -/
structure AnswersAs (r : Registry) (registrations : List Registration) : Prop where
  /-- A plural name stands for the least type that has it. -/
  byName : ∀ resource «namespace», IsAnsweredBy
    (IsLeastNamed (Registration.entriesFor «namespace» registrations) resource)
    (∀ entry ∈ Registration.entriesFor «namespace» registrations, entry.1.resource ≠ resource)
    resource «namespace» (r.get resource «namespace») (r.list resource «namespace»)
  /-- A type stands for the searcher that was registered last under it. -/
  byType : ∀ type «namespace», IsAnsweredBy
    (fun searcher =>
      IsLastBy Prod.fst (Registration.entriesFor «namespace» registrations) (type, searcher))
    (∀ entry ∈ Registration.entriesFor «namespace» registrations, entry.1 ≠ type)
    type.display «namespace» (r.getOf type «namespace») (r.listOf type «namespace»)

/-- A registry answers as its registrations say. -/
theorem answersAs_ofRegistrations (registrations : List Registration) :
    (ofRegistrations registrations).AnswersAs registrations where
  byName resource «namespace» :=
    ⟨(ofRegistrations registrations).named? «namespace» resource,
      fun _ => named?_ofRegistrations_eq_some_iff, named?_ofRegistrations_eq_none_iff,
      isAnsweredFrom_named? _ resource «namespace»⟩
  byType type «namespace» :=
    ⟨((ofRegistrations registrations).table «namespace»)[type]?,
      fun _ => getElem?_table_ofRegistrations,
      by rw [table_ofRegistrations, getElem?_ofList_eq_none_iff],
      isAnsweredFrom_table _ type «namespace»⟩

end Registry

namespace LegacyRegistry

/-- A resource of the cluster that is asked for in a namespace. It is refused there even if someone
registered it. -/
def IsMisplaced (resource «namespace» : String) : Prop :=
  «namespace» ≠ "" ∧ resource ∈ clusterResources

/-- The registry answers each call from the registrations under its plural name, except that it
refuses resources of the cluster in a namespace. -/
def AnswersAs (r : LegacyRegistry) (registrations : List (String × Searcher)) : Prop :=
  ∀ resource «namespace», IsAnsweredBy
    (fun searcher => ¬ IsMisplaced resource «namespace» ∧
      IsLastBy Prod.fst registrations (resource, searcher))
    (IsMisplaced resource «namespace» ∨ ∀ entry ∈ registrations, entry.1 ≠ resource)
    resource «namespace» (r.get resource «namespace») (r.list resource «namespace»)

/-- The searcher that answers for a plural name in a namespace, if any, without the refusal. -/
def found? (r : LegacyRegistry) (resource «namespace» : String) : Option Searcher :=
  if «namespace» ≠ "" ∧ resource ∈ clusterResources then none else r.searchers[resource]?

/-- In the first generation too, what was not registered is refused by its name. -/
theorem searcher_eq (r : LegacyRegistry) (resource «namespace» : String) :
    r.searcher resource «namespace»
      = (r.found? resource «namespace»).elim (.error (.notSupported resource)) .ok := by
  rw [searcher, found?]
  split
  · rfl
  · cases r.searchers[resource]? <;> rfl

/-- Requests of the first generation are answered from the searcher that is found. -/
theorem isAnsweredFrom_found? (r : LegacyRegistry) (resource «namespace» : String) :
    IsAnsweredFrom (r.found? resource «namespace») resource «namespace»
      (r.get resource «namespace») (r.list resource «namespace») :=
  isAnsweredFrom_of_lookup (searcher_eq r resource «namespace»)

/-- A registry of the first generation answers as its registrations say. -/
theorem answersAs_ofRegistrations (registrations : List (String × Searcher)) :
    (ofRegistrations registrations).AnswersAs registrations := by
  intro resource «namespace»
  refine ⟨(ofRegistrations registrations).found? resource «namespace», fun searcher => ?_, ?_,
    isAnsweredFrom_found? _ resource «namespace»⟩
  · rw [found?]
    split
    · rename_i hmisplaced
      exact ⟨nofun, fun h => absurd hmisplaced h.1⟩
    · rename_i hplaced
      rw [searchers_ofRegistrations, getElem?_ofList_eq_some_iff]
      exact (and_iff_right hplaced).symm
  · rw [found?]
    split
    · rename_i hmisplaced
      exact ⟨fun _ => Or.inl hmisplaced, fun _ => rfl⟩
    · rename_i hplaced
      rw [searchers_ofRegistrations, getElem?_ofList_eq_none_iff]
      exact (or_iff_right hplaced).symm

end LegacyRegistry

/-- What a searcher over a store has for a namespace are the objects of that namespace, or all of
them if none is given, in the order of their keys. -/
theorem Searcher.objects_ofStore {α : Type} [ClusterObject α] (label : String)
    (wrap : α → StoredObject) (store : Store α) («namespace» : String) :
    (ofStore label wrap store).objects «namespace»
      = (store.toList.filter fun object =>
          «namespace» = "" ∨ (ClusterObject.metadata object).namespace = «namespace»).map wrap := by
  show (store.list «namespace» .everything).map wrap = _
  rw [Store.list]
  congr 2
  funext object
  simp only [Selector.everything_accepts, Bool.and_true, Bool.decide_or]

/-- The registry over a cache is built by registrations, so all that is shown of these holds of
it. -/
theorem Registry.ofCache_eq_ofRegistrations (cache : ObjectCache) :
    ∃ registrations, ofCache cache = ofRegistrations registrations :=
  ⟨[.cluster _ _, .cluster _ _, .cluster _ _, .cluster _ _, .cluster _ _, .cluster _ _,
    .cluster _ _, .cluster _ _, .namespaced _ _, .namespaced _ _], rfl⟩

/-- The registry over a cache is one that was made from registrations, so all that holds of these
holds of it. -/
theorem LegacyRegistry.ofCache_eq_ofRegistrations (cache : ObjectCache) :
    ∃ registrations, ofCache cache = ofRegistrations registrations :=
  ⟨[(_, _), (_, _), (_, _), (_, _)], rfl⟩

/-- Whatever was registered, and in whichever order, a call is answered from the registrations of
its scope: by the last one under the least type with the plural name, under the exact type, or, in
the legacy registry, under the plural name; and it is refused exactly when there is none, or when
the legacy registry is asked for a resource of the cluster in a namespace. Registrations under
different types may come in either order. The registries over a cache are built by registrations
too, and a searcher over a store has the objects of the namespace. -/
theorem registries_answer_from_registrations :
    (∀ registrations, (Registry.ofRegistrations registrations).AnswersAs registrations) ∧
    (∀ (before after : List Registration) (a b : Registration), a.type ≠ b.type →
      Registry.ofRegistrations (before ++ a :: b :: after)
        = Registry.ofRegistrations (before ++ b :: a :: after)) ∧
    (∀ registrations, (LegacyRegistry.ofRegistrations registrations).AnswersAs registrations) ∧
    (∀ cache, (∃ registrations, Registry.ofCache cache = .ofRegistrations registrations) ∧
      ∃ registrations, LegacyRegistry.ofCache cache = .ofRegistrations registrations) ∧
    (∀ {α : Type} [ClusterObject α] (label : String) (wrap : α → StoredObject) (store : Store α)
      («namespace» : String), (Searcher.ofStore label wrap store).objects «namespace»
        = (store.toList.filter fun object => «namespace» = "" ∨
            (ClusterObject.metadata object).namespace = «namespace»).map wrap) := by
  refine ⟨Registry.answersAs_ofRegistrations, ?_, LegacyRegistry.answersAs_ofRegistrations,
    fun cache => ⟨Registry.ofCache_eq_ofRegistrations cache,
      LegacyRegistry.ofCache_eq_ofRegistrations cache⟩, Searcher.objects_ofStore⟩
  intro before after a b htype
  simp only [Registry.ofRegistrations, List.foldl_append, List.foldl_cons]
  rw [Registry.register_comm _ htype]

end AccessGateway
