import AccessGateway.Proofs.Cluster.Reachable
import Mathlib.Data.Finset.Card

/-!
# `AccessGateway.Proofs.Cluster.LastWins`: a store answers from the list it was filled with

Filling a store drops what it held before, and keeps of the new objects the last one of each key.
`Store.AnswersFrom` says what that comes to for each question a store is asked, on the list of
objects alone: a look-up, a listing under a selector, and the number of objects. The index does not
occur in it, so it can be read as the contract of a store.

* `Store.answersFrom_ofList`: a store that was filled with a list answers from it.
* `Store.ofList_eq_of_perm`: objects with distinct keys may be given in any order. With a repeated
  key the order matters, since it decides which object is the last.
* `ObjectCache.replace_answersFrom`: every section of a cache that was replaced, whatever the cache
  held before. It is one statement for all fourteen sections, through `ObjectCache.store`.
-/

set_option autoImplicit false

namespace AccessGateway

namespace Store

section
variable {α : Type} [ClusterObject α]

/-- What a store answers that keeps the last object of each key of a list. Look-ups are told by a
search of the list from its end, and listings by look-ups, so that the list determines every
answer. -/
structure AnswersFrom (store : Store α) (objects : List α) : Prop where
  /-- A look-up gives the last object of the list in that namespace and with that name. -/
  get? : ∀ «namespace» name, store.get? «namespace» name = objects.reverse.find? fun object =>
    decide (ClusterObject.key object = ⟨«namespace», name⟩)
  /-- A listing is in the order of namespaces and names. -/
  sorted : ∀ «namespace» selector, (store.list «namespace» selector).Pairwise fun a b =>
    (ClusterObject.key a).Before (ClusterObject.key b)
  /-- It lists no object twice. -/
  nodup : ∀ «namespace» selector, (store.list «namespace» selector).Nodup
  /-- It lists what can be looked up, is in the namespace, unless that is empty, and meets the
  selector. -/
  mem_list : ∀ «namespace» selector object, object ∈ store.list «namespace» selector
    ↔ (∃ own name, store.get? own name = some object) ∧
      («namespace» = "" ∨ (ClusterObject.metadata object).namespace = «namespace») ∧
      selector.accepts (ClusterObject.metadata object).labels = true
  /-- There are as many objects as keys. -/
  size : store.size = (objects.map ClusterObject.key).toFinset.card

variable {objects others : List α}

/-- The keys of a store are those of the objects it was filled with. -/
theorem mem_index_ofList {key : ObjectKey} :
    key ∈ (ofList objects).index ↔ key ∈ objects.map ClusterObject.key := by
  rw [Std.ExtTreeMap.mem_iff_isSome_getElem?, Option.isSome_iff_exists, List.mem_map]
  simp only [getElem?_ofList]
  constructor
  · rintro ⟨object, hlast, hkey⟩
    exact ⟨object, hlast.mem, hkey⟩
  · rintro ⟨object, hmem, rfl⟩
    exact exists_isLastBy_of_mem ClusterObject.key hmem

/-- A store holds one object for each key that the objects have among them, however often the key
occurs. -/
theorem size_ofList (objects : List α) :
    (ofList objects).size = (objects.map ClusterObject.key).toFinset.card := by
  have hkeys : (ofList objects).index.keys.toFinset
      = (objects.map ClusterObject.key).toFinset := by
    ext key
    rw [List.mem_toFinset, List.mem_toFinset, Std.ExtTreeMap.mem_keys, mem_index_ofList]
  rw [← hkeys, List.toFinset_card_of_nodup Std.ExtTreeMap.nodup_keys, Std.ExtTreeMap.length_keys,
    size]

/-- A store answers from the list it was filled with. -/
theorem answersFrom_ofList (objects : List α) : (ofList objects).AnswersFrom objects where
  get? «namespace» name := by
    show (objects.foldl insertObject ∅)[ObjectKey.mk «namespace» name]? = _
    rw [getElem?_foldl_insertObject, Std.ExtTreeMap.getElem?_empty, Option.or_none]
  sorted «namespace» selector := by
    have hlt := (isKeyed_ofList objects).pairwise_toList
    exact (hlt.imp ObjectKey.compare_eq_lt_iff.mp).filter _
  nodup «namespace» selector := by
    have hlt := (isKeyed_ofList objects).pairwise_toList
    refine (hlt.imp fun {a b} h => ?_).filter _
    rintro rfl
    exact ObjectKey.not_before_self _ (ObjectKey.compare_eq_lt_iff.mp h)
  mem_list «namespace» selector object := by
    rw [Store.mem_list, mem_toList_iff_get?]
  size := size_ofList objects

/-- Objects with distinct keys may be given in any order. The stores are equal, so that no question
at all can tell the orders apart. -/
theorem ofList_eq_of_perm (hdistinct : (objects.map ClusterObject.key).Nodup)
    (hperm : others.Perm objects) : ofList others = ofList objects := by
  have hkeys : ∀ a ∈ objects, ∀ b ∈ objects,
      ClusterObject.key a = ClusterObject.key b → a = b :=
    fun a ha b hb => List.inj_on_of_nodup_map hdistinct ha hb
  -- an object whose key is its own is the last one of that key in any order
  have hlast : ∀ object, IsLastOfKey others object ↔ IsLastOfKey objects object := by
    intro object
    have hothers : IsLastOfKey others object ↔ object ∈ others :=
      isLastBy_iff_mem (by simpa only [hperm.mem_iff] using hkeys)
    rw [hothers, hperm.mem_iff]
    exact (isLastBy_iff_mem hkeys).symm
  have hindex : (ofList others).index = (ofList objects).index := by
    refine Std.ExtTreeMap.ext_getElem? fun key => Option.ext fun object => ?_
    rw [getElem?_ofList, getElem?_ofList, hlast]
  exact congrArg (Store.mk · true) hindex

end

end Store

namespace ObjectCache

/-- A section that was replaced answers from the objects that it was replaced with, and from nothing
that the cache held before. If these have distinct keys, it does not matter in which order they were
given, or to which cache. -/
theorem replace_answersFrom (cache : ObjectCache) (snapshot : Snapshot) (part : Section) :
    ((cache.replace snapshot part).store part).AnswersFrom (snapshot.objects part) ∧
    (((snapshot.objects part).map ClusterObject.key).Nodup →
      ∀ (other : ObjectCache) (shuffled : Snapshot),
        (shuffled.objects part).Perm (snapshot.objects part) →
          (other.replace shuffled part).store part = (cache.replace snapshot part).store part) := by
  have hstore : ∀ (cache : ObjectCache) (snapshot : Snapshot),
      (cache.replace snapshot part).store part = .ofList (snapshot.objects part) := by
    intro cache snapshot
    rw [store_replace, if_pos rfl, store_load]
  constructor
  · rw [hstore]
    exact Store.answersFrom_ofList _
  · intro hdistinct other shuffled hperm
    rw [hstore, hstore]
    exact Store.ofList_eq_of_perm hdistinct hperm

/-- Two namespaces in either order, in place of a third one, which is gone afterwards. Their keys
are distinct, so both orders give the same store. -/
theorem replace_answersFrom_swapped :
    let blue := OpaqueObject.ofMetadata (.named "blue")
    let red := OpaqueObject.ofMetadata (.named "red")
    let old : ObjectCache := .ofSnapshot { namespaces := [.ofMetadata (.named "old")] }
    let store := (old.replace { namespaces := [red, blue] } .namespaces).namespaces
    ([red, blue].map ClusterObject.key).Nodup ∧
    store.get? "" "blue" = some blue ∧ store.get? "" "old" = none ∧
    store.list "" .everything = [blue, red] ∧
    (ObjectCache.empty.replace { namespaces := [blue, red] } .namespaces).namespaces = store := by
  intro blue red old store
  have hdistinct : ([red, blue].map ClusterObject.key).Nodup := by decide
  obtain ⟨hanswers, horder⟩ :=
    replace_answersFrom old { namespaces := [red, blue] } .namespaces
  refine ⟨hdistinct, ?_, ?_, by decide, ?_⟩
  · exact (hanswers.get? "" "blue").trans rfl
  · exact (hanswers.get? "" "old").trans rfl
  · exact horder hdistinct .empty { namespaces := [blue, red] } (List.Perm.swap red blue [])

end ObjectCache

end AccessGateway
