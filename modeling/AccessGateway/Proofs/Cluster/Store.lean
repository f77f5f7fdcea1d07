import AccessGateway.Cluster.Store
import AccessGateway.Proofs.Cluster.Selector
import AccessGateway.Proofs.Lists
import AccessGateway.Proofs.Text.Utf8

/-!
# `AccessGateway.Proofs.Cluster.Store`: a store is a last-wins map

`Store.ofList` folds a list of objects into an index, and a later object takes the place of an
earlier one with the same key. `IsLastOfKey` says on the list alone which objects that leaves,
without the index.

* `Store.getElem?_ofList`: the index at a key is the last object of the list with that key.
* `Store.get?_ofList_eq_some_iff`: look-up by namespace and name.
* `Store.mem_list_ofList`: what a listing of a namespace under a selector holds.
* `Store.find?_toList_eq_some_iff`: the first object in key order that meets a test.
* `Store.IsKeyed.of_get?`, `Store.namespace_of_mem_list`: what a look-up and a listing say of the
  objects that they give.
* `Store.IsKeyed.pairwise_toList`, `Store.IsKeyed.pairwise_list`: the order in which objects are
  listed, which is that of their keys (`ObjectKey.Before`), and that of the names in a single
  namespace.
* `Store.get?_ofList_congr`, `Store.list_ofList_congr`: the objects that a look-up or a listing
  depends on.
* `Store.get?_map`, `Store.list_map`, `Store.map_ofList`: a store whose objects were converted.
-/

set_option autoImplicit false

namespace AccessGateway

/-- Which of two keys comes first: the one with the first namespace or, in one namespace, the one
with the first name, each octet by octet. It is the order in which a listing gives the objects. -/
inductive ObjectKey.Before (key other : ObjectKey) : Prop where
  | ofNamespace (h : Text.utf8 key.namespace < Text.utf8 other.namespace)
  | ofName (hnamespace : key.namespace = other.namespace)
      (h : Text.utf8 key.name < Text.utf8 other.name)

/-- Keys are compared by namespace and then by name, both by their octets in UTF-8. -/
theorem ObjectKey.compare_eq_lt_iff {key other : ObjectKey} :
    compare key other = .lt ↔ key.Before other := by
  show compare key.parts other.parts = .lt ↔ _
  simp only [ObjectKey.parts, List.compare_cons_cons, List.compare_nil_nil, Ordering.then_eq,
    Ordering.then_eq_lt, Text.compare_eq_lt_iff, Std.compare_eq_iff_eq]
  constructor
  · rintro (h | ⟨hnamespace, h⟩)
    · exact .ofNamespace h
    · exact .ofName hnamespace h
  · intro h
    cases h with
    | ofNamespace h => exact Or.inl h
    | ofName hnamespace h => exact Or.inr ⟨hnamespace, h⟩

/-- No key comes before itself, so keys in strict order are distinct. -/
theorem ObjectKey.not_before_self (key : ObjectKey) : ¬ key.Before key := by
  rw [← compare_eq_lt_iff, Std.ReflOrd.compare_self]
  decide

/-- The key under which a store keeps an object. -/
def ClusterObject.key {α : Type} [ClusterObject α] (object : α) : ObjectKey :=
  .ofMetadata (ClusterObject.metadata object)

/-- The object is in the list, and no object behind it has its key. These are the objects that a
store keeps of a list. -/
def IsLastOfKey {α : Type} [ClusterObject α] (objects : List α) (object : α) : Prop :=
  ∃ before after, objects = before ++ object :: after ∧
    ∀ other ∈ after, ClusterObject.key other ≠ ClusterObject.key object

section
variable {α : Type} [ClusterObject α]

/-- What is last of its key is one of the objects. -/
theorem IsLastOfKey.mem {objects : List α} {object : α} (h : IsLastOfKey objects object) :
    object ∈ objects :=
  have hlast : IsLastBy ClusterObject.key objects object := h
  hlast.mem

/-- A name in a namespace stands for one object: of two that are last there, both are the same. -/
theorem IsLastOfKey.unique {objects : List α} {object other : α} (h : IsLastOfKey objects object)
    (hother : IsLastOfKey objects other)
    (hnamespace : (ClusterObject.metadata object).namespace
      = (ClusterObject.metadata other).namespace)
    (hname : (ClusterObject.metadata object).name = (ClusterObject.metadata other).name) :
    object = other :=
  IsLastBy.unique h hother ((ObjectKey.mk.injEq ..).mpr ⟨hnamespace, hname⟩)

/-- What is left of two lists, one behind the other, is what the second leaves, and what the first
leaves under keys that the second has nothing for. -/
theorem isLastOfKey_append {objects others : List α} {object : α} :
    IsLastOfKey (objects ++ others) object
      ↔ IsLastOfKey others object ∨ (IsLastOfKey objects object ∧
          ∀ other ∈ others, ClusterObject.key other ≠ ClusterObject.key object) :=
  isLastBy_append

/-- In front of other objects, one is last of its key exactly when none of them has the key. -/
theorem isLastOfKey_cons {first object : α} {rest : List α} :
    IsLastOfKey (first :: rest) object
      ↔ IsLastOfKey rest object ∨
        (object = first ∧ ∀ other ∈ rest, ClusterObject.key other ≠ ClusterObject.key object) :=
  isLastBy_cons

/-- Two lists leave the same objects of some sort, whatever else they leave. Answers about that sort
are then the same from both stores. -/
def AgreeOn (sort : α → Prop) (objects others : List α) : Prop :=
  ∀ object, sort object → (IsLastOfKey objects object ↔ IsLastOfKey others object)

/-- Lists agree on a sort of which neither has an object, since agreement is about the objects of
that sort alone. -/
theorem agreeOn_of_forall_not {sort : α → Prop} {objects others : List α}
    (hobjects : ∀ object ∈ objects, ¬ sort object) (hothers : ∀ object ∈ others, ¬ sort object) :
    AgreeOn sort objects others :=
  fun object hsort =>
    ⟨fun h => absurd hsort (hobjects object h.mem),
      fun h => absurd hsort (hothers object h.mem)⟩

end

namespace Store

section
variable {α β : Type} {f : α → β} {store : Store α}

/-- The store with each object converted. -/
def map (f : α → β) (store : Store α) : Store β :=
  ⟨store.index.map fun _ => f, store.synced⟩

/-- A look-up in a converted store is the converted look-up. The conversion must leave the metadata
as they are, for it is by these that objects are keyed. -/
theorem get?_map («namespace» name : String) :
    (store.map f).get? «namespace» name = (store.get? «namespace» name).map f :=
  Std.ExtTreeMap.getElem?_map

/-- Converting the objects leaves their order alone, which is that of the keys. -/
theorem toList_map : (store.map f).toList = store.toList.map f := by
  simp only [toList, map, Std.ExtTreeMap.toList_map, List.map_map]
  rfl

/-- What is looked up is kept, whatever key it was put under. -/
theorem mem_toList_of_get? {«namespace» name : String} {object : α}
    (hget : store.get? «namespace» name = some object) : object ∈ store.toList :=
  List.mem_map.mpr ⟨_, Std.ExtTreeMap.mem_toList_iff_getElem?_eq_some.mpr hget, rfl⟩

/-- What is kept is what can be looked up: the list of a store and its look-ups show the same
objects. -/
theorem mem_toList_iff_get? {object : α} :
    object ∈ store.toList ↔ ∃ «namespace» name, store.get? «namespace» name = some object := by
  constructor
  · intro hmem
    obtain ⟨⟨key, kept⟩, hentry, rfl⟩ := List.mem_map.mp hmem
    exact ⟨key.namespace, key.name, Std.ExtTreeMap.mem_toList_iff_getElem?_eq_some.mp hentry⟩
  · rintro ⟨«namespace», name, hget⟩
    exact mem_toList_of_get? hget

/-- A search goes through the objects in the order of their keys: what it finds meets the test, and
nothing under an earlier key does. -/
theorem find?_toList_eq_some_iff {p : α → Bool} {object : α} :
    store.toList.find? p = some object
      ↔ p object = true ∧ ∃ key : ObjectKey, store.index[key]? = some object ∧
          ∀ (other : ObjectKey) (earlier : α), store.index[other]? = some earlier →
            compare other key = .lt → p earlier = false := by
  rw [toList, List.find?_map, Option.map_eq_some_iff]
  constructor
  · rintro ⟨⟨key, o⟩, hfind, rfl⟩
    obtain ⟨hp, hget, hearlier⟩ := AccessGateway.find?_toList_eq_some_iff.mp hfind
    exact ⟨hp, key, hget, fun other earlier => hearlier (other, earlier)⟩
  · rintro ⟨hp, key, hget, hearlier⟩
    exact ⟨(key, object), AccessGateway.find?_toList_eq_some_iff.mpr
      ⟨hp, hget, fun earlier => hearlier earlier.1 earlier.2⟩, rfl⟩

end

variable {α : Type} [ClusterObject α]

/-- The index after objects are added: the last one of a key, and what was there for keys that
none of them has. -/
theorem getElem?_foldl_insertObject (objects : List α) (index : Std.ExtTreeMap ObjectKey α)
    (key : ObjectKey) :
    (objects.foldl insertObject index)[key]?
      = (objects.reverse.find? fun o => decide (ClusterObject.key o = key)).or index[key]? := by
  have hinsert := getElem?_foldl_insert ClusterObject.key id objects index key
  rwa [Option.map_id_fun, id_eq] at hinsert

/-- The index of a store at a key is the last object of the list with that key, and nothing where no
object has it. -/
theorem getElem?_ofList (objects : List α) (key : ObjectKey) (object : α) :
    (ofList objects).index[key]? = some object
      ↔ IsLastOfKey objects object ∧ ClusterObject.key object = key :=
  getElem?_foldl_insert_items ClusterObject.key

/-- Look-up by namespace and name finds the last object of the list that has both. -/
theorem get?_ofList_eq_some_iff (objects : List α) («namespace» name : String) (object : α) :
    (ofList objects).get? «namespace» name = some object
      ↔ IsLastOfKey objects object ∧ (ClusterObject.metadata object).namespace = «namespace» ∧
        (ClusterObject.metadata object).name = name := by
  rw [get?, getElem?_ofList, ClusterObject.key, ObjectKey.ofMetadata, ObjectKey.mk.injEq]

/-- The objects of a store are the last ones of their keys in the list that it was made of. -/
theorem mem_toList_ofList (objects : List α) (object : α) :
    object ∈ (ofList objects).toList ↔ IsLastOfKey objects object := by
  rw [toList, List.mem_map]
  constructor
  · rintro ⟨⟨key, o⟩, hmem, rfl⟩
    rw [Std.ExtTreeMap.mem_toList_iff_getElem?_eq_some, getElem?_ofList] at hmem
    exact hmem.1
  · intro hlast
    refine ⟨(ClusterObject.key object, object), ?_, rfl⟩
    rw [Std.ExtTreeMap.mem_toList_iff_getElem?_eq_some, getElem?_ofList]
    exact ⟨hlast, rfl⟩

/-- What is listed meets the selector, and is in the namespace that was asked for. The empty
namespace asks for all of them. -/
theorem mem_list {store : Store α} {«namespace» : String} {selector : Selector} {object : α} :
    object ∈ store.list «namespace» selector
      ↔ object ∈ store.toList ∧
        («namespace» = "" ∨ (ClusterObject.metadata object).namespace = «namespace») ∧
        selector.accepts (ClusterObject.metadata object).labels = true := by
  simp only [list, List.mem_filter, Bool.and_eq_true, Bool.or_eq_true, decide_eq_true_eq]

/-- Everything is listed for the empty namespace and the selector that requires nothing. -/
theorem list_everything (store : Store α) : store.list "" .everything = store.toList := by
  rw [list, List.filter_eq_self]
  intro object _
  simp only [decide_true, Bool.true_or, Bool.true_and, Selector.everything_accepts]

/-- What is listed for a namespace has it. The empty name stands for all namespaces, so nothing
follows from it. -/
theorem namespace_of_mem_list {store : Store α} {«namespace» : String} {selector : Selector}
    {object : α} (hnamespace : «namespace» ≠ "")
    (hmem : object ∈ store.list «namespace» selector) :
    (ClusterObject.metadata object).namespace = «namespace» :=
  (mem_list.mp hmem).2.1.resolve_left hnamespace

/-- What a listing holds: objects that are last of their key, in the namespace, that meet the
selector. The empty namespace stands for all namespaces. -/
theorem mem_list_ofList (objects : List α) («namespace» : String) (selector : Selector)
    (object : α) :
    object ∈ (ofList objects).list «namespace» selector
      ↔ IsLastOfKey objects object ∧
        («namespace» = "" ∨ (ClusterObject.metadata object).namespace = «namespace») ∧
        selector.accepts (ClusterObject.metadata object).labels = true := by
  rw [mem_list, mem_toList_ofList]

/-- Every object is kept under its own key. It is the invariant of stores, which only ever hold what
they were filled with. -/
def IsKeyed (store : Store α) : Prop :=
  ∀ key object, store.index[key]? = some object → ClusterObject.key object = key

/-- The empty store has nothing under a wrong key, as it has nothing. -/
theorem isKeyed_empty : (empty : Store α).IsKeyed := by
  intro key object hget
  rw [empty, Std.ExtTreeMap.getElem?_empty] at hget
  cases hget

/-- A store that is made from objects has each under its own key. -/
theorem isKeyed_ofList (objects : List α) : (ofList objects).IsKeyed :=
  fun key object hget => ((getElem?_ofList objects key object).mp hget).2

/-- What is looked up has the namespace and the name that it was looked up by. -/
theorem IsKeyed.of_get? {store : Store α} (h : store.IsKeyed) {«namespace» name : String}
    {object : α} (hget : store.get? «namespace» name = some object) :
    (ClusterObject.metadata object).namespace = «namespace» ∧
      (ClusterObject.metadata object).name = name := by
  have hkey := h _ _ hget
  rw [ClusterObject.key, ObjectKey.ofMetadata, ObjectKey.mk.injEq] at hkey
  exact hkey

/-- What is kept is looked up by its namespace and its name, once every object stands under its own
key. -/
theorem IsKeyed.get?_of_mem_toList {store : Store α} (h : store.IsKeyed) {object : α}
    (hmem : object ∈ store.toList) :
    store.get? (ClusterObject.metadata object).namespace (ClusterObject.metadata object).name
      = some object := by
  obtain ⟨⟨key, kept⟩, hentry, rfl⟩ := List.mem_map.mp hmem
  have hget := Std.ExtTreeMap.mem_toList_iff_getElem?_eq_some.mp hentry
  obtain rfl := h key kept hget
  exact hget

/-- Objects that are kept under their own keys are in the order of these. -/
theorem IsKeyed.pairwise_toList {store : Store α} (h : store.IsKeyed) :
    store.toList.Pairwise fun a b =>
      compare (ClusterObject.key a) (ClusterObject.key b) = .lt :=
  pairwise_values_toList ClusterObject.key h

/-- In one namespace, keys are in the order of the names, compared by their octets. -/
theorem compare_key_eq_lt_iff {object other : α}
    (hnamespace : (ClusterObject.metadata object).namespace
      = (ClusterObject.metadata other).namespace) :
    compare (ClusterObject.key object) (ClusterObject.key other) = .lt
      ↔ Text.utf8 (ClusterObject.metadata object).name
        < Text.utf8 (ClusterObject.metadata other).name := by
  have hkeys : (ClusterObject.key object).namespace = (ClusterObject.key other).namespace :=
    hnamespace
  rw [ObjectKey.compare_eq_lt_iff]
  constructor
  · intro h
    cases h with
    | ofNamespace h => exact absurd (hkeys ▸ h) (List.lt_irrefl _)
    | ofName _ h => exact h
  · exact fun h => .ofName hkeys h

/-- The objects of a namespace are listed by name, and no two have the same one. -/
theorem IsKeyed.pairwise_list {store : Store α} (h : store.IsKeyed) {«namespace» : String}
    (hnamespace : «namespace» ≠ "") (selector : Selector) :
    (store.list «namespace» selector).Pairwise fun a b =>
      Text.utf8 (ClusterObject.metadata a).name < Text.utf8 (ClusterObject.metadata b).name := by
  have hkeys : (store.list «namespace» selector).Pairwise fun a b =>
      compare (ClusterObject.key a) (ClusterObject.key b) = .lt := h.pairwise_toList.filter _
  refine hkeys.imp_of_mem fun ha hb hlt => (compare_key_eq_lt_iff ?_).mp hlt
  rw [namespace_of_mem_list hnamespace ha, namespace_of_mem_list hnamespace hb]

/-! ### What the answers of a store depend on -/

/-- A look-up depends on the objects of its namespace: lists that agree on these give the same,
whatever else they hold. -/
theorem get?_ofList_congr {objects others : List α} {«namespace» : String}
    (h : AgreeOn (fun o => (ClusterObject.metadata o).namespace = «namespace») objects others)
    (name : String) :
    (ofList objects).get? «namespace» name = (ofList others).get? «namespace» name := by
  refine Option.ext fun object => ?_
  rw [get?_ofList_eq_some_iff, get?_ofList_eq_some_iff]
  exact and_congr_left fun hkey => h object hkey.1

/-- The objects of some sort, in key order, depend on the objects of that sort. Objects of other
sorts may stand between them in one store and not in the other. -/
theorem filter_toList_ofList_congr {objects others : List α} {sort : α → Bool}
    (h : AgreeOn (fun o => sort o = true) objects others) :
    (ofList objects).toList.filter sort = (ofList others).toList.filter sort := by
  have hindex : (ofList objects).index.filter (fun _ object => sort object)
      = (ofList others).index.filter (fun _ object => sort object) := by
    refine Std.ExtTreeMap.ext_getElem? fun key => Option.ext fun object => ?_
    rw [Std.ExtTreeMap.getElem?_filter', Std.ExtTreeMap.getElem?_filter',
      Option.filter_eq_some_iff, Option.filter_eq_some_iff, getElem?_ofList, getElem?_ofList]
    exact and_congr_left fun hsort => and_congr_left fun _ => h object hsort
  -- the order is that of the keys, so a listing is that of a filtered index
  have hlist : ∀ store : Store α, store.toList.filter sort
      = (store.index.filter fun _ object => sort object).toList.map Prod.snd := by
    intro store
    rw [Std.ExtTreeMap.toList_filter, toList, List.filter_map]
    rfl
  rw [hlist, hlist, hindex]

/-- A listing depends on the objects that it may list: those in the namespace, or all for the empty
one, that meet the selector. -/
theorem list_ofList_congr {objects others : List α} {«namespace» : String} {selector : Selector}
    (h : AgreeOn (fun o => («namespace» = "" ∨ (ClusterObject.metadata o).namespace = «namespace»)
      ∧ selector.accepts (ClusterObject.metadata o).labels = true) objects others) :
    (ofList objects).list «namespace» selector = (ofList others).list «namespace» selector := by
  refine filter_toList_ofList_congr fun object hsort => h object ?_
  simpa only [Bool.and_eq_true, Bool.or_eq_true, decide_eq_true_eq] using hsort

/-! ### Conversions that keep the metadata -/

section
variable {β : Type} [ClusterObject β] {f : α → β}
  (hmetadata : ∀ object, ClusterObject.metadata (f object) = ClusterObject.metadata object)
include hmetadata

/-- The objects that are listed are selected by metadata alone, so a conversion that leaves the
metadata may come before or after. -/
theorem list_map (store : Store α) («namespace» : String) (selector : Selector) :
    (store.map f).list «namespace» selector = (store.list «namespace» selector).map f := by
  simp only [list, toList_map, List.filter_map, Function.comp_def, hmetadata]

/-- Objects may be converted before they are stored, or in the store, as long as they keep their
metadata and with them their keys. -/
theorem map_ofList (objects : List α) : (ofList objects).map f = ofList (objects.map f) := by
  have hkey : ∀ key, (fun object => decide (ClusterObject.key object = key)) ∘ f
      = fun object => decide (ClusterObject.key object = key) := by
    intro key
    funext object
    have hsame : ClusterObject.key (f object) = ClusterObject.key object :=
      congrArg ObjectKey.ofMetadata (hmetadata object)
    rw [Function.comp_apply, hsame]
  have hindex : (ofList objects).index.map (fun _ => f) = (ofList (objects.map f)).index := by
    -- at each key both hold the last object of the list with that key, converted
    refine Std.ExtTreeMap.ext_getElem? fun key => ?_
    rw [Std.ExtTreeMap.getElem?_map, ofList, ofList, getElem?_foldl_insertObject,
      getElem?_foldl_insertObject, ← List.map_reverse, List.find?_map, hkey]
    simp only [Std.ExtTreeMap.getElem?_empty, Option.or_none]
  rw [map, hindex]
  rfl

end

end Store

end AccessGateway
