import AccessGateway.Proofs.Document
import AccessGateway.Settings.Environment

/-!
# `AccessGateway.Proofs.Json.Overlay`: what is found in trees that were put over each other

A tree of settings is looked at one key at a time, and a section of it is a tree again. So what
counts of putting one tree over another is what is found under each key afterwards: what the upper
one has hides what is below, or joins it where both are objects (`laidOver`). That holds when the
upper tree gives no key twice, as with the keys in order.

* `lookup_insertMember`, `InKeyOrder.insertMember`: a member is put in at its place.
* `field?_overlay`: what is found in a tree under another.
* `field?_overlay_member`: a tree of one member changes nothing but that key, whatever is below.
* `InKeyOrder.members_overlay`, `HasKeysInOrder.overlay`: keys in order stay so.
-/

set_option autoImplicit false

namespace AccessGateway.Json

/-! ### Members in key order -/

/-- The members are in the order of their keys, so no key is given twice. -/
def InKeyOrder (members : List (String × Json)) : Prop :=
  (members.map Prod.fst).Pairwise (· < ·)

/-- Keys in strict order are distinct, as no text comes before itself. -/
theorem InKeyOrder.nodup {members : List (String × Json)} (h : InKeyOrder members) :
    (members.map Prod.fst).Nodup := by
  refine List.Pairwise.imp (fun hlt heq => ?_) h
  exact String.lt_irrefl _ (heq ▸ hlt)

/-- Under a key is found what was put there, and nothing else changes. -/
theorem lookup_insertMember (key other : String) (value : Json) (members : List (String × Json)) :
    (insertMember key value members).lookup other
      = if other = key then some value else members.lookup other := by
  induction members with
  | nil => rw [insertMember, lookup_cons_eq_ite]
  | cons member rest ih =>
    obtain ⟨k, v⟩ := member
    rw [insertMember]
    split
    · rw [lookup_cons_eq_ite]
    · split
      · rename_i heq
        subst heq
        rw [lookup_cons_eq_ite, lookup_cons_eq_ite]
        split <;> rfl
      · rename_i hne
        rw [lookup_cons_eq_ite, lookup_cons_eq_ite, ih]
        split
        · rename_i hother
          rw [if_neg (hother ▸ Ne.symm hne)]
        · rfl

/-- The keys after a member was put in are those before and the one of the member. -/
theorem mem_keys_insertMember {key k : String} {value : Json} {members : List (String × Json)}
    (hk : k ∈ (insertMember key value members).map Prod.fst) :
    k = key ∨ k ∈ members.map Prod.fst := by
  induction members with
  | nil => exact Or.inl (List.mem_singleton.mp hk)
  | cons member rest ih =>
    rw [insertMember] at hk
    split at hk
    · exact List.mem_cons.mp hk
    · split at hk
      · exact (List.mem_cons.mp hk).imp_right fun hrest => List.mem_cons_of_mem _ hrest
      · rcases List.mem_cons.mp hk with hfirst | hrest
        · exact Or.inr (hfirst ▸ List.mem_cons_self)
        · exact (ih hrest).imp_right fun hrest => List.mem_cons_of_mem _ hrest

/-- A member is put in at the place of its key, so the order stays; an equal key is replaced where
it stands. -/
theorem InKeyOrder.insertMember {members : List (String × Json)} (h : InKeyOrder members)
    (key : String) (value : Json) : InKeyOrder (insertMember key value members) := by
  induction members with
  | nil => exact List.pairwise_singleton _ _
  | cons member rest ih =>
    obtain ⟨k, v⟩ := member
    obtain ⟨hfirst, hrest⟩ := List.pairwise_cons.mp h
    rw [Json.insertMember]
    split
    · rename_i hlt
      refine List.pairwise_cons.mpr ⟨fun other hother => ?_, h⟩
      rcases List.mem_cons.mp hother with rfl | hother
      · exact hlt
      · exact String.lt_trans hlt (hfirst other hother)
    · rename_i hnlt
      split
      · rename_i heq
        subst heq
        exact h
      · rename_i hne
        have hlt : k < key := Std.lt_of_le_of_ne (String.not_lt.mp hnlt) (Ne.symm hne)
        refine List.pairwise_cons.mpr ⟨fun other hother => ?_, ih hrest⟩
        rcases mem_keys_insertMember hother with rfl | hother
        · exact hlt
        · exact hfirst other hother

/-- Members that were put in order are, from whatever list. -/
theorem inKeyOrder_orderMembers (members : List (String × Json)) :
    InKeyOrder (orderMembers members) := by
  refine List.foldlRecOn members _ List.Pairwise.nil fun done hdone member _ => ?_
  exact hdone.insertMember member.1 member.2

/-- What is found among members that were put in order is one of them. -/
theorem mem_of_lookup_orderMembers {members : List (String × Json)} {key : String} {value : Json}
    (h : (orderMembers members).lookup key = some value) : (key, value) ∈ members := by
  refine List.foldlRecOn (motive := fun (done : List (String × Json)) =>
      ∀ key value, done.lookup key = some value → (key, value) ∈ members) members _ ?_
    (fun done hdone member hmember key value hlookup => ?_) key value h
  · intro key value hlookup
    cases hlookup
  rw [lookup_insertMember] at hlookup
  split at hlookup
  · rename_i heq
    cases hlookup
    exact heq ▸ hmember
  · exact hdone key value hlookup

/-! ### What is found in a tree -/

/-- The members of an object; nothing else has any. -/
def members : Json → List (String × Json)
  | .obj members => members
  | _ => []

/-- A field of a tree is looked up among its members, of which a value that is no object has
none. -/
theorem field?_eq_lookup_members (key : String) (tree : Json) :
    tree.field? key = tree.members.lookup key := by
  cases tree <;> rfl

/-- What is found where one thing was put over another, or over nothing. Nothing put over something
leaves it as it is. -/
def laidOver (under upper : Option Json) : Option Json :=
  match upper with
  | some value => some (overlay (under.getD .null) value)
  | none => under

/-- An object is put over the members below, of which only an object has any. -/
theorem overlay_obj (under : Json) (upper : List (String × Json)) :
    overlay under (.obj upper) = .obj (overlayMembers under.members upper) := by
  cases under <;> rfl

/-- What is not an object hides what is below. -/
theorem overlay_of_not_obj {value : Json} (h : ∀ members, value ≠ .obj members) (under : Json) :
    overlay under value = value := by
  cases value with
  | obj members => exact absurd rfl (h members)
  | _ => rfl

/-- Under each key there is what the lower object has there, with what the upper one has laid over
it. Keys of the upper object must be distinct, since members are laid over one by one. -/
theorem lookup_overlayMembers {under upper : List (String × Json)}
    (hupper : (upper.map Prod.fst).Nodup) (key : String) :
    (overlayMembers under upper).lookup key = laidOver (under.lookup key) (upper.lookup key) := by
  induction upper generalizing under with
  | nil => rw [overlayMembers]; rfl
  | cons member rest ih =>
    obtain ⟨k, v⟩ := member
    obtain ⟨hfresh, hrest⟩ := List.nodup_cons.mp hupper
    rw [overlayMembers, ih hrest, lookup_insertMember, lookup_cons_eq_ite]
    split
    · rename_i heq
      subst heq
      -- the key does not come again
      rw [lookup_eq_none_iff_not_mem.mpr hfresh]
      rfl
    · rfl

/-- What is found in a tree that was put over another, for an upper tree with distinct keys. -/
theorem field?_overlay {upper : List (String × Json)} (hupper : (upper.map Prod.fst).Nodup)
    (under : Json) (key : String) :
    (overlay under (.obj upper)).field? key = laidOver (under.field? key) (upper.lookup key) := by
  rw [overlay_obj, field?_eq_lookup_members, field?_eq_lookup_members]
  exact lookup_overlayMembers hupper key

/-- A tree of one member joins what is found under its key, and changes nothing else. -/
theorem field?_overlay_member (under value : Json) (key other : String) :
    (overlay under (.obj [(key, value)])).field? other
      = if other = key then some (overlay ((under.field? key).getD .null) value)
        else under.field? other := by
  have hsingle : ([(key, value)].map Prod.fst).Nodup := List.pairwise_singleton _ _
  rw [field?_overlay hsingle, lookup_cons_eq_ite]
  split
  · rename_i heq
    rw [heq]
    rfl
  · rfl

/-! ### Keys that stay in order -/

/-- Members that are laid over others are put at their places in the order of keys. -/
theorem InKeyOrder.overlayMembers {under : List (String × Json)} (h : InKeyOrder under)
    (upper : List (String × Json)) : InKeyOrder (overlayMembers under upper) := by
  induction upper generalizing under with
  | nil => rwa [Json.overlayMembers]
  | cons member rest ih =>
    rw [Json.overlayMembers]
    exact ih (h.insertMember _ _)

/-- Keys that are in order below are so above. -/
theorem InKeyOrder.members_overlay {under : Json} (h : InKeyOrder under.members) (upper : Json) :
    InKeyOrder (overlay under upper).members := by
  cases upper with
  | obj members =>
    rw [overlay_obj]
    exact h.overlayMembers members
  | _ => exact List.Pairwise.nil

/-- The members of a tree are in the order of their keys, and so are those of its sections. -/
structure HasKeysInOrder (tree : Json) : Prop where
  outside : InKeyOrder tree.members
  inside : ∀ key part, tree.field? key = some part → InKeyOrder part.members

/-- A tree without members has them in order, as has everything that is no object. -/
theorem hasKeysInOrder_of_members_eq_nil {tree : Json} (h : tree.members = []) :
    HasKeysInOrder tree := by
  refine ⟨h ▸ List.Pairwise.nil, fun key part hpart => ?_⟩
  rw [field?_eq_lookup_members, h] at hpart
  cases hpart

/-- The members of a section, which has none if there is no such section. -/
theorem HasKeysInOrder.members_part {tree : Json} (h : HasKeysInOrder tree) (key : String) :
    InKeyOrder ((tree.field? key).getD .null).members := by
  cases hpart : tree.field? key with
  | none => exact List.Pairwise.nil
  | some part => exact h.inside key part hpart

/-- A section is joined with one whose keys are in order, or with none. -/
theorem HasKeysInOrder.overlayMembers {under : List (String × Json)}
    (h : HasKeysInOrder (.obj under)) (upper : List (String × Json)) :
    HasKeysInOrder (.obj (overlayMembers under upper)) := by
  induction upper generalizing under with
  | nil => rwa [Json.overlayMembers]
  | cons member rest ih =>
    obtain ⟨key, value⟩ := member
    rw [Json.overlayMembers]
    refine ih ⟨h.outside.insertMember _ _, fun other part hpart => ?_⟩
    rw [field?, lookup_insertMember] at hpart
    split at hpart
    · cases hpart
      exact (h.members_part key).members_overlay value
    · exact h.inside other part hpart

/-- Laying any tree over one with keys in order keeps them so, in the object and in its parts. -/
theorem HasKeysInOrder.overlay {under : Json} (h : HasKeysInOrder under) (upper : Json) :
    HasKeysInOrder (overlay under upper) := by
  cases upper with
  | obj members =>
    rw [overlay_obj]
    refine HasKeysInOrder.overlayMembers ⟨h.outside, fun key part hpart => ?_⟩ members
    exact h.inside key part ((field?_eq_lookup_members key under).trans hpart)
  | _ => exact hasKeysInOrder_of_members_eq_nil rfl

end AccessGateway.Json
