import AccessGateway.Proofs.Cluster.Store
import Mathlib.Logic.Relation

/-!
# `AccessGateway.Proofs.Cluster.Growth`: sections that only grow

A section grows when something is put into one of its objects or an object is added under a fresh
key. Its store is last-wins, so what is put into an object that a later one hides goes unseen, and
an object under a used key would hide another. An object that can be seen can still be seen after
a growth, with the same metadata and at least the same contents.

What an object's contents are, and when they are more, is left to the kind of object: `grows` is
any relation that `IsGrowth` holds of. Roles grow by rules and bindings by subjects
(`Proofs.Access.Monotone`), and neither matters here.

* `GrowsInto.of_insertion`, `GrowsInto.of_insertions`: no object is lost, after one insertion and
  after any number of them.
* `GrowsInto.mem_list`: a listing finds what has grown where it found the objects.
-/

set_option autoImplicit false

namespace AccessGateway

section
variable {α : Type} [ClusterObject α]

/-- One insertion into the objects of a section: something is put into one of them, or an object is
added under a key that no other has. The object that grows may be one that a later one hides. -/
inductive Insertion (grows : α → α → Prop) : List α → List α → Prop
  | into {before after : List α} {object larger : α} (h : grows object larger) :
      Insertion grows (before ++ object :: after) (before ++ larger :: after)
  | added {before after : List α} {object : α}
      (fresh : ∀ other ∈ before ++ after, ClusterObject.key other ≠ ClusterObject.key object) :
      Insertion grows (before ++ after) (before ++ object :: after)

/-- Growth of objects keeps their metadata, and is a growth by any number of steps. With the
metadata it keeps the key, the namespace and the labels, which are all that stores and listings look
at. -/
structure IsGrowth (grows : α → α → Prop) : Prop where
  refl : ∀ object, grows object object
  trans : ∀ {object larger largest}, grows object larger → grows larger largest →
    grows object largest
  metadata : ∀ {object larger}, grows object larger →
    ClusterObject.metadata larger = ClusterObject.metadata object

/-- Any number of insertions, one after the other. -/
def Insertions (grows : α → α → Prop) : List α → List α → Prop :=
  Relation.ReflTransGen (Insertion grows)

/-- Each object that the first list leaves has grown into one that the second leaves. The second may
leave others as well. -/
def GrowsInto (grows : α → α → Prop) (objects others : List α) : Prop :=
  ∀ object, IsLastOfKey objects object → ∃ larger, IsLastOfKey others larger ∧ grows object larger

variable {grows : α → α → Prop} {objects others : List α}

namespace GrowsInto

/-! ### Insertions lose no object -/

/-- An insertion loses no object. What a key stood for has stayed or has grown, since an object that
is added has a key of its own. -/
theorem of_insertion (hgrows : IsGrowth grows) (h : Insertion grows objects others) :
    GrowsInto grows objects others := by
  intro kept hkept
  cases h with
  | @into before after object larger h =>
    have hkey : ClusterObject.key larger = ClusterObject.key object :=
      congrArg ObjectKey.ofMetadata (hgrows.metadata h)
    rcases isLastOfKey_append.mp hkept with hkept | ⟨hkept, hlater⟩
    · rcases isLastOfKey_cons.mp hkept with hkept | ⟨rfl, hlater⟩
      · -- the object is behind the one that grew
        exact ⟨kept, isLastOfKey_append.mpr (Or.inl (isLastOfKey_cons.mpr (Or.inl hkept))),
          hgrows.refl kept⟩
      · refine ⟨larger, isLastOfKey_append.mpr (Or.inl (isLastOfKey_cons.mpr
          (Or.inr ⟨rfl, ?_⟩))), h⟩
        rwa [hkey]
    · -- the object is before the one that grew, which had another key and still has
      refine ⟨kept, isLastOfKey_append.mpr (Or.inr ⟨hkept, ?_⟩), hgrows.refl kept⟩
      rw [List.forall_mem_cons] at hlater ⊢
      rwa [hkey]
  | @added before after object fresh =>
    -- under a fresh key the object hides none
    refine ⟨kept, isLastOfKey_append.mpr ?_, hgrows.refl kept⟩
    rcases isLastOfKey_append.mp hkept with hkept | ⟨hkept, hlater⟩
    · exact Or.inl (isLastOfKey_cons.mpr (Or.inl hkept))
    · refine Or.inr ⟨hkept, List.forall_mem_cons.mpr ⟨?_, hlater⟩⟩
      exact (fresh kept (List.mem_append_left _ hkept.mem)).symm

/-- No number of insertions loses an object. -/
theorem of_insertions (hgrows : IsGrowth grows) (h : Insertions grows objects others) :
    GrowsInto grows objects others := by
  -- the object that one insertion has left is the one that the next one finds
  induction h with
  | refl => exact fun object hkept => ⟨object, hkept, hgrows.refl object⟩
  | tail _ hstep ih =>
    intro object hkept
    obtain ⟨larger, hlarger, hgrown⟩ := ih object hkept
    obtain ⟨largest, hlargest, hgrown'⟩ := of_insertion hgrows hstep larger hlarger
    exact ⟨largest, hlargest, hgrows.trans hgrown hgrown'⟩

/-! ### What is listed from a store that has grown -/

/-- A listing has what the object has grown into: it selects by metadata, and those have not
changed. -/
theorem mem_list (hgrows : IsGrowth grows) (h : GrowsInto grows objects others) {object : α}
    {«namespace» : String} {selector : Selector}
    (hmem : object ∈ (Store.ofList objects).list «namespace» selector) :
    ∃ larger ∈ (Store.ofList others).list «namespace» selector, grows object larger := by
  obtain ⟨hkept, hselected⟩ := (Store.mem_list_ofList _ _ _ _).mp hmem
  obtain ⟨larger, hlarger, hgrown⟩ := h object hkept
  refine ⟨larger, (Store.mem_list_ofList _ _ _ _).mpr ⟨hlarger, ?_⟩, hgrown⟩
  rwa [hgrows.metadata hgrown]

end GrowsInto

end

end AccessGateway
