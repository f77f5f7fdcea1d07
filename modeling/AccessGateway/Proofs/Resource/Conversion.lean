import AccessGateway.Proofs.Cluster.Store
import AccessGateway.Proofs.Query.Page
import AccessGateway.Resource.Registry

/-!
# `AccessGateway.Proofs.Resource.Conversion`: registries of converted objects

The registry picks a searcher by the name or the type of a resource, and never by what it holds.
When the objects of all searchers are converted, a call therefore picks the converted searcher. It
gives the conversion of what it gave before, on the same page and with the same total as long as
no query can notice the conversion.

So two caches that differ in a part of their objects which no field shows give answers that differ
in this part only. The conversion that takes this part away is applied to the answers of both, and
to the registries of both, and there it leaves the same.

* `Searcher.map_ofStore`: a searcher over a store is converted with the store.
* `Registry.get_map`, `Registry.list_map`, `Registry.getOf_map`, `Registry.listOf_map`: the calls.
-/

set_option autoImplicit false

namespace AccessGateway

variable {f : StoredObject → StoredObject}

namespace Searcher

/-- The searcher with each object that it finds converted, under the same label. -/
def map (f : StoredObject → StoredObject) (searcher : Searcher) : Searcher where
  label := searcher.label
  find? «namespace» name := (searcher.find? «namespace» name).map f
  objects «namespace» := (searcher.objects «namespace»).map f

section
variable {searcher : Searcher} {«namespace» : String}

/-- What is not found is not found under the same label. -/
theorem get_map (name : String) :
    (searcher.map f).get «namespace» name = (searcher.get «namespace» name).map f := by
  simp only [get, map]
  cases searcher.find? «namespace» name <;> rfl

/-- It makes no difference whether objects are converted before or after they are listed, as long as
the conversion keeps the fields that queries look at. -/
theorem list_map (hf : Query.KeepsFields f) (query : Query) :
    (searcher.map f).list «namespace» query = (searcher.list «namespace» query).map f :=
  Query.run_map hf query _

end

section
variable {α : Type} [ClusterObject α] {label : String} {wrap : α → StoredObject} {store : Store α}

/-- The objects of a store may be converted there, if the conversion of the kind leaves the metadata
and with it the keys. -/
theorem map_ofStore {g : α → α} (hwrap : ∀ object, f (wrap object) = wrap (g object))
    (hmetadata : ∀ object, ClusterObject.metadata (g object) = ClusterObject.metadata object) :
    (ofStore label wrap store).map f = ofStore label wrap (store.map g) := by
  simp only [map, ofStore, Store.get?_map, Store.list_map hmetadata, Option.map_map, List.map_map,
    Function.comp_def, hwrap]

/-- A conversion that leaves the kind of object alone leaves the searcher alone. -/
theorem map_ofStore_of_fixed (hwrap : ∀ object, f (wrap object) = wrap object) :
    (ofStore label wrap store).map f = ofStore label wrap store := by
  simp only [map, ofStore, Option.map_map, List.map_map, Function.comp_def, hwrap]

end

/-- A searcher that is converted and then registered gives way to the same others, since the keys
are not converted. -/
theorem map_insert {κ : Type} [Ord κ] [Std.TransOrd κ] [Std.LawfulEqOrd κ]
    (table : Std.ExtTreeMap κ Searcher) (key : κ) (searcher : Searcher) :
    (table.insert key searcher).map (fun _ => map f)
      = (table.map fun _ => map f).insert key (searcher.map f) := by
  -- a table is what it has under each key
  refine Std.ExtTreeMap.ext_getElem? fun other => ?_
  rw [Std.ExtTreeMap.getElem?_map, Std.ExtTreeMap.getElem?_insert, Std.ExtTreeMap.getElem?_insert,
    Std.ExtTreeMap.getElem?_map]
  split <;> rfl

end Searcher

namespace Registry

/-- The registry with the objects of all searchers converted. Types and labels stay. -/
def map (f : StoredObject → StoredObject) (r : Registry) : Registry :=
  ⟨r.cluster.map fun _ => Searcher.map f, r.namespaced.map fun _ => Searcher.map f⟩

section
variable {r : Registry} {type : ResourceType} {«namespace» resource : String}

/-- Without any registration there is nothing to convert. -/
theorem map_empty : empty.map f = empty := by
  rfl

/-- A searcher may be converted before or after it is registered for the cluster. -/
theorem map_registerCluster (searcher : Searcher) :
    (r.registerCluster type searcher).map f
      = (r.map f).registerCluster type (searcher.map f) := by
  rw [registerCluster, map, Searcher.map_insert]
  rfl

/-- So may one for namespaces, before or after the conversion. -/
theorem map_registerNamespaced (searcher : Searcher) :
    (r.registerNamespaced type searcher).map f
      = (r.map f).registerNamespaced type (searcher.map f) := by
  rw [registerNamespaced, map, Searcher.map_insert]
  rfl

/-- The tables of a converted registry have the converted searchers. -/
theorem table_map : (r.map f).table «namespace»
    = (r.table «namespace»).map fun _ => Searcher.map f := by
  rw [table, table, map]
  split <;> rfl

/-- The least type of a name is the same one, as the types have not changed. -/
theorem searcherNamed_map : (r.map f).searcherNamed «namespace» resource
    = (r.searcherNamed «namespace» resource).map (Searcher.map f) := by
  rw [searcherNamed, searcherNamed, table_map, Std.ExtTreeMap.toList_map, List.find?_map]
  simp only [Function.comp_def]
  -- what was found is now an entry of the table as it was, or nothing
  generalize (r.table «namespace»).toList.find? _ = found
  cases found <;> rfl

/-- What is found for a type is converted, and what is not found fails as before. -/
theorem searcherOf_map : (r.map f).searcherOf «namespace» type
    = (r.searcherOf «namespace» type).map (Searcher.map f) := by
  rw [searcherOf, searcherOf, table_map, Std.ExtTreeMap.getElem?_map]
  cases (r.table «namespace»)[type]? <;> rfl

/-! ### Calls -/

/-- An object that is found by the name of its resource is converted. -/
theorem get_map (name : String) :
    (r.map f).get resource «namespace» name = (r.get resource «namespace» name).map f := by
  rw [get, get, searcherNamed_map]
  cases r.searcherNamed «namespace» resource with
  | error fault => rfl
  | ok searcher => exact Searcher.get_map name

/-- So is one that is found by its type. -/
theorem getOf_map (name : String) :
    (r.map f).getOf type «namespace» name = (r.getOf type «namespace» name).map f := by
  rw [getOf, getOf, searcherOf_map]
  cases r.searcherOf «namespace» type with
  | error fault => rfl
  | ok searcher => exact Searcher.get_map name

variable (hf : Query.KeepsFields f)
include hf

/-- A page that is listed by the name of a resource is converted item by item. -/
theorem list_map (query : Query) : (r.map f).list resource «namespace» query
    = (r.list resource «namespace» query).map (Page.map f) := by
  rw [list, list, searcherNamed_map]
  cases r.searcherNamed «namespace» resource with
  | error fault => rfl
  | ok searcher => exact congrArg Except.ok (Searcher.list_map hf query)

/-- So is one that is listed by its type: the whole page is converted, and its total stays. -/
theorem listOf_map (query : Query) : (r.map f).listOf type «namespace» query
    = (r.listOf type «namespace» query).map (Page.map f) := by
  rw [listOf, listOf, searcherOf_map]
  cases r.searcherOf «namespace» type with
  | error fault => rfl
  | ok searcher => exact congrArg Except.ok (Searcher.list_map hf query)

end

end Registry

end AccessGateway
