import AccessGateway.Document
import AccessGateway.Proofs.Lists

/-!
# `AccessGateway.Proofs.Document`: what a record is read as

A record is written as an object of the parts that are present, in the order of their keys, and read
by looking the parts up. Where a part stands does not matter then, as long as no key comes twice,
and the reading of a type is followed part by part: each is present and read back, or left out
and replaced by its default.

* `Json.orderMembers_perm`: nothing is lost when members are put in order.
* `Decoder.record_obj_of_nodup`, `Decoder.lookup_parts`: what is found in a record.
* `Decoder.record_bind_objectOf`: what is found in a record that was written. Every wire form is
  written by `Json.objectOf`, so this is where each proof that a type is read back begins.
* `Decoder.defaulted_some`, `Decoder.defaulted_keepUnless`: a part is read back, and one that was
  left out comes back as what it was left out for.
* `Decoder.list_map`, `Decoder.map_ofTextMap`: lists and maps are read back.
* `Decoder.list_text_eq_some_iff`: what a list of strings is read from.
-/

set_option autoImplicit false

namespace AccessGateway

/-! ### Members in order -/

namespace Json

/-- A member with a new key is put in between the others, so nothing is replaced by it. -/
theorem insertMember_perm {key : String} {members : List (String × Json)}
    (hfresh : key ∉ members.map Prod.fst) (value : Json) :
    (insertMember key value members).Perm ((key, value) :: members) := by
  induction members with
  | nil => exact List.Perm.refl _
  | cons first rest ih =>
    simp only [List.map_cons, List.mem_cons, not_or] at hfresh
    rw [insertMember]
    split
    · exact List.Perm.refl _
    · rw [if_neg hfresh.1]
      exact ((ih hfresh.2).cons first).trans (List.Perm.swap _ _ _)

/-- Members put behind those that are in order already. The induction is on what is still to be put
in, over any members that are. -/
theorem foldl_insertMember_perm {members done : List (String × Json)}
    (hdistinct : ((done ++ members).map Prod.fst).Nodup) :
    (members.foldl (fun ordered (key, value) => insertMember key value ordered) done).Perm
      (done ++ members) := by
  induction members generalizing done with
  | nil => simp
  | cons member rest ih =>
    have hmoved : (member :: done ++ rest).Perm (done ++ member :: rest) := List.perm_middle.symm
    have hfresh : member.1 ∉ done.map Prod.fst := by
      have hmovedKeys := (hmoved.map Prod.fst).nodup_iff.mpr hdistinct
      intro hmem
      refine (List.nodup_cons.mp hmovedKeys).1 ?_
      show member.1 ∈ (done ++ rest).map Prod.fst
      rw [List.map_append]
      exact List.mem_append_left _ hmem
    have hnext : (insertMember member.1 member.2 done ++ rest).Perm (done ++ member :: rest) :=
      ((insertMember_perm hfresh member.2).append_right rest).trans hmoved
    rw [List.foldl_cons]
    exact (ih ((hnext.map Prod.fst).nodup_iff.mpr hdistinct)).trans hnext

/-- Members with distinct keys are only put in another order. -/
theorem orderMembers_perm {members : List (String × Json)}
    (hdistinct : (members.map Prod.fst).Nodup) : (orderMembers members).Perm members :=
  foldl_insertMember_perm hdistinct

end Json

/-! ### Records -/

namespace Decoder

/-- The members of an object with distinct keys are its parts, those that are fields. The others are
passed over. -/
theorem record_obj_of_nodup (fields : List String) {members : List (String × Json)}
    (hdistinct : (members.map Prod.fst).Nodup) :
    record fields (Json.obj members)
      = some (members.filter fun member => fields.contains member.1) :=
  if_pos (hdistinct.sublist (List.filter_sublist.map Prod.fst))

/-- The members of an object whose keys are distinct fields are its parts. -/
theorem record_obj {fields : List String} {members : List (String × Json)}
    (hfields : ∀ member ∈ members, member.1 ∈ fields)
    (hdistinct : (members.map Prod.fst).Nodup) :
    record fields (Json.obj members) = some members := by
  rw [record_obj_of_nodup fields hdistinct, List.filter_eq_self.mpr]
  exact fun member hmember => List.contains_iff_mem.mpr (hfields member hmember)

/-- Among the parts is found what the object has under a field. -/
theorem lookup_parts {fields : List String} {key : String} (hkey : key ∈ fields)
    (members : List (String × Json)) :
    (members.filter fun member => fields.contains member.1).lookup key = members.lookup key :=
  lookup_filter_keys fields.contains (List.contains_iff_mem.mpr hkey) members

/-- In a written record is found what was present, and a reader depends on nothing else: not on the
order of the members, nor on the absent ones. -/
theorem record_bind_objectOf {α : Type} {fields : List String}
    {members : List (String × Option Json)} {readParts : List (String × Json) → Option α}
    {result : α} (hfields : ∀ member ∈ members, member.1 ∈ fields)
    (hdistinct : (members.map Prod.fst).Nodup)
    (hread : ∀ parts : List (String × Json),
      (∀ member ∈ members, parts.lookup member.1 = member.2) →
      (∀ key, key ∉ members.map Prod.fst → parts.lookup key = none) →
      readParts parts = some result) :
    (record fields (Json.objectOf members)).bind readParts = some result := by
  let present := members.filterMap fun member => member.2.map (Prod.mk member.1)
  have hmem : ∀ key value, (key, value) ∈ present ↔ (key, some value) ∈ members := by
    intro key value
    simp only [present, List.mem_filterMap, Option.map_eq_some_iff, Prod.mk.injEq, Prod.exists]
    constructor
    · rintro ⟨k, _, hmem, _, rfl, rfl, rfl⟩
      exact hmem
    · intro hmem
      exact ⟨key, some value, hmem, value, rfl, rfl, rfl⟩
  have hpresent : (present.map Prod.fst).Sublist (members.map Prod.fst) := by
    rw [map_fst_filterMap_present]
    exact List.filter_sublist.map Prod.fst
  -- the parts are in the order of their keys, which no key can tell
  have hperm : (Json.orderMembers present).Perm present :=
    Json.orderMembers_perm (hdistinct.sublist hpresent)
  have hordered : ((Json.orderMembers present).map Prod.fst).Nodup :=
    (hperm.map Prod.fst).nodup_iff.mpr (hdistinct.sublist hpresent)
  have hlookup : ∀ key value,
      (Json.orderMembers present).lookup key = some value ↔ (key, some value) ∈ members := by
    intro key value
    rw [lookup_eq_some_iff_mem hordered, hperm.mem_iff, hmem]
  have hrecord : record fields (Json.objectOf members) = some (Json.orderMembers present) := by
    refine record_obj (fun member hmember => ?_) hordered
    exact hfields (member.1, some member.2) ((hmem _ _).mp (hperm.mem_iff.mp hmember))
  rw [hrecord]
  refine hread _ (fun member hmember => ?_) fun key hkey => ?_
  · ext value
    rw [hlookup, ← lookup_eq_some_iff_mem hdistinct,
      (lookup_eq_some_iff_mem hdistinct).mpr hmember, Option.some.injEq]
  · refine Option.eq_none_iff_forall_ne_some.mpr fun value hvalue => hkey ?_
    exact List.mem_map.mpr ⟨_, (hlookup key value).mp hvalue, rfl⟩

section
variable {α : Type} {part : Json.Decoder α} {key : String} {parts : List (String × Json)}
  {value : Json} {absent result : α}

/-- A required member is read as what its value is read as. -/
theorem required_some (hlookup : parts.lookup key = some value) (hpart : part value = some result) :
    required part key parts = some result := by
  rw [required, hlookup, Option.bind_some, hpart]

/-- A member that may be left out is read like a required one where it is given. -/
theorem defaulted_some (hlookup : parts.lookup key = some value)
    (hpart : part value = some result) : defaulted part key absent parts = some result := by
  rw [defaulted, hlookup]
  exact hpart

/-- A part is read from what is found under its key, wherever that is and whatever else is there. -/
theorem defaulted_congr {others : List (String × Json)}
    (hlookup : parts.lookup key = others.lookup key) :
    defaulted part key absent parts = defaulted part key absent others := by
  rw [defaulted, defaulted, hlookup]

/-- Where the member is left out, its default is taken and nothing is read. -/
theorem defaulted_none (hlookup : parts.lookup key = none) :
    defaulted part key absent parts = some absent := by
  rw [defaulted, hlookup]

/-- A part that was left out comes back as the default, so nothing else may be left out. -/
theorem defaulted_keepUnless {omitted : Bool}
    (hlookup : parts.lookup key = Json.keepUnless omitted value)
    (habsent : omitted = true → absent = result) (hpart : part value = some result) :
    defaulted part key absent parts = some result := by
  cases homitted : omitted with
  | true =>
    rw [Json.keepUnless, homitted, if_pos rfl] at hlookup
    rw [defaulted_none hlookup, habsent homitted]
  | false =>
    rw [Json.keepUnless, homitted] at hlookup
    exact defaulted_some hlookup hpart

end

/-! ### Lists and maps -/

/-- A list is read back when its items are, each as what was written for it. -/
theorem list_map {α : Type} {read : Json.Decoder α} {write : α → Json} {items : List α}
    (hitems : ∀ item ∈ items, read (write item) = some item) :
    list read (Json.arr (items.map write)) = some items :=
  mapM'_map_of_pure hitems

/-- A list of strings is read back. -/
theorem list_strings (items : List String) : list text (Json.strings items) = some items :=
  list_map fun _ _ => rfl

/-- A list of strings is read from an array of just these strings, and from nothing else. -/
theorem list_text_eq_some_iff {value : Json} {texts : List String} :
    list text value = some texts ↔ value = Json.strings texts := by
  have hitems : ∀ (items : List Json) (texts : List String),
      items.mapM' text = some texts → items = texts.map .str := by
    intro items
    induction items with
    | nil =>
      rintro texts ⟨⟩
      rfl
    | cons item rest ih =>
      intro texts h
      rw [List.mapM'_cons] at h
      obtain ⟨first, hfirst, hrest⟩ := Option.bind_eq_some_iff.mp h
      obtain ⟨others, hothers, heq⟩ := Option.bind_eq_some_iff.mp hrest
      cases heq
      cases item with
      | str value =>
        cases hfirst
        rw [ih others hothers, List.map_cons]
      | _ => cases hfirst
  constructor
  · intro h
    cases value with
    | arr items => exact congrArg Json.arr (hitems items texts h)
    | _ => cases h
  · rintro rfl
    exact list_strings texts

/-- A map of strings is read back: it lists its keys once and in order. -/
theorem map_ofTextMap (texts : Std.ExtTreeMap String String) :
    map text (Json.ofTextMap texts) = some texts := by
  let readEntry := fun entry : String × Json => (text entry.2).map fun value => (entry.1, value)
  let writeEntry := fun entry : String × String => (entry.1, Json.str entry.2)
  let insertEntry := fun (read : Std.ExtTreeMap String String) (entry : String × String) =>
    read.insert entry.1 entry.2
  have hentries : (texts.toList.map writeEntry).mapM' readEntry = some texts.toList :=
    mapM'_map_of_pure fun _ _ => rfl
  show ((texts.toList.map writeEntry).mapM' readEntry).bind
    (fun entries => some (entries.foldl insertEntry ∅)) = _
  rw [hentries, Option.bind_some]
  exact congrArg some (foldl_insert_of_perm (List.Perm.refl _))

end Decoder

end AccessGateway
