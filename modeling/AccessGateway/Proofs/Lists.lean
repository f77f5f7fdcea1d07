import Std.Data.ExtTreeMap

/-!
# `AccessGateway.Proofs.Lists`: lists that are read back, and look-ups in them

Much of what is written is a list, of items or of entries under keys, and what is read is a list
again, a look-up or a map. Keys may repeat in what is read, in a snapshot as in a query, and then
the last item counts. `IsLastBy` says which that is without a search from the end, so that a
statement about a snapshot can be about its lists.

* `mapM'_map_of_pure`, `exists_of_mem_mapM'`: a list is read back when its items are, and what was
  read comes from them.
* `lookup_cons_eq_ite`, `lookup_filter_keys`, `lookup_eq_none_iff_not_mem`,
  `lookup_eq_some_iff_mem`: a look-up among entries, the last one among such with distinct keys.
* `foldl_insert_of_perm`: a map from its entries in any order.
* `getElem?_foldl_insert`, `getElem?_foldl_insert_items`, `getElem?_ofList_eq_some_iff`: a map from
  items of which some share a key, where the last one stays (`IsLastBy`).
* `getElem?_foldl_insertIfNew`: the same where the first one stays.
* `isLastBy_append`, `isLastBy_cons`, `isLastBy_map`: what is last in a list that was put together
  or converted.
* `find?_eq_some_iff_of_pairwise`: a search in an ordered list finds the least item.
* `find?_toList_eq_some_iff`, `pairwise_values_toList`: a search in a map, and its values, go in the
  order of the keys.
-/

set_option autoImplicit false

namespace AccessGateway

/-- Items that can be read back one by one can be read back one after the other. -/
theorem mapM'_map_of_pure {m : Type → Type} [Monad m] [LawfulMonad m] {α β : Type} {read : β → m α}
    {write : α → β} {items : List α} (hitems : ∀ item ∈ items, read (write item) = pure item) :
    (items.map write).mapM' read = pure items := by
  induction items with
  | nil => rfl
  | cons item rest ih =>
    have hrest := ih fun other hother => hitems other (List.mem_cons_of_mem item hother)
    rw [List.map_cons, List.mapM'_cons, hitems item List.mem_cons_self, hrest, pure_bind, pure_bind]

/-- What was read from a list was read from its items: each result has an item that it was read
from. -/
theorem exists_of_mem_mapM' {α β : Type} {read : β → Option α} {items : List β} {results : List α}
    (h : items.mapM' read = some results) {result : α} (hresult : result ∈ results) :
    ∃ item ∈ items, read item = some result := by
  induction items generalizing results with
  | nil =>
    cases h
    exact absurd hresult List.not_mem_nil
  | cons item rest ih =>
    rw [List.mapM'_cons] at h
    obtain ⟨first, hfirst, h⟩ := Option.bind_eq_some_iff.mp h
    obtain ⟨others, hothers, heq⟩ := Option.bind_eq_some_iff.mp h
    cases heq
    rcases List.mem_cons.mp hresult with rfl | hmem
    · exact ⟨item, List.mem_cons_self, hfirst⟩
    · obtain ⟨other, hother, hread⟩ := ih hothers hmem
      exact ⟨other, List.mem_cons_of_mem item hother, hread⟩

section
variable {β : Type}

/-- A look-up stops at the first entry under its key. This form decides by an equation of the keys,
which rewriting can split on, instead of by their comparison. -/
theorem lookup_cons_eq_ite (key other : String) (value : β) (rest : List (String × β)) :
    ((key, value) :: rest).lookup other
      = if other = key then some value else rest.lookup other := by
  rw [List.lookup_cons]
  split
  · rename_i heq
    rw [if_pos (beq_iff_eq.mp heq)]
  · rename_i hne
    rw [if_neg (beq_eq_false_iff_ne.mp hne)]

/-- Nothing is found under a key that the list does not have, and only then. -/
theorem lookup_eq_none_iff_not_mem {entries : List (String × β)} {key : String} :
    entries.lookup key = none ↔ key ∉ entries.map Prod.fst := by
  rw [List.lookup_eq_none_iff, List.mem_map, not_exists]
  refine forall_congr' fun entry => ?_
  rw [not_and', bne_iff_ne]
  exact ⟨fun h heq hmem => h hmem heq.symm, fun h hmem heq => h heq.symm hmem⟩

/-- Entries with other keys may be left out without changing what is found under this one. -/
theorem lookup_filter_keys (keep : String → Bool) {key : String} (hkey : keep key = true)
    (entries : List (String × β)) :
    (entries.filter fun entry => keep entry.1).lookup key = entries.lookup key := by
  induction entries with
  | nil => rfl
  | cons entry rest ih =>
    obtain ⟨k, value⟩ := entry
    rw [List.filter_cons]
    split
    · rw [lookup_cons_eq_ite, lookup_cons_eq_ite, ih]
    · rename_i hleft
      have hother : key ≠ k := by
        rintro rfl
        exact hleft hkey
      rw [ih, lookup_cons_eq_ite, if_neg hother]

/-- With distinct keys, what is found under a key is what the list has with that key. -/
theorem lookup_eq_some_iff_mem {entries : List (String × β)}
    (hdistinct : (entries.map Prod.fst).Nodup) {key : String} {value : β} :
    entries.lookup key = some value ↔ (key, value) ∈ entries := by
  induction entries with
  | nil => simp
  | cons entry rest ih =>
    obtain ⟨k, v⟩ := entry
    obtain ⟨hfresh, hrest⟩ := List.nodup_cons.mp hdistinct
    rw [List.mem_cons, Prod.mk.injEq]
    by_cases hkey : key = k
    · subst hkey
      have hnone : (key, value) ∉ rest := by
        intro hmem
        exact hfresh (List.mem_map.mpr ⟨_, hmem, rfl⟩)
      simp [hnone, eq_comm]
    · rw [List.lookup_cons, beq_false_of_ne hkey, ih hrest]
      simp [hkey]

/-- The keys of the entries that have a value, in their order. -/
theorem map_fst_filterMap_present (entries : List (String × Option β)) :
    (entries.filterMap fun entry => entry.2.map (Prod.mk entry.1)).map Prod.fst
      = (entries.filter fun entry => entry.2.isSome).map Prod.fst := by
  induction entries with
  | nil => rfl
  | cons entry rest ih =>
    obtain ⟨key, _ | value⟩ := entry
    · simpa using ih
    · simpa using ih

/-- A map is put together again from its entries, in whichever order they come. -/
theorem foldl_insert_of_perm {map : Std.ExtTreeMap String β} {entries : List (String × β)}
    (hentries : entries.Perm map.toList) :
    entries.foldl (fun read (key, value) => read.insert key value) ∅ = map := by
  have hdistinct : entries.Pairwise fun a b => ¬ compare a.1 b.1 = .eq :=
    (hentries.pairwise_iff fun h heq => h (Std.OrientedCmp.eq_symm heq)).mpr
      Std.ExtTreeMap.distinct_keys_toList
  have hlist : entries.foldl (fun read (key, value) => read.insert key value) ∅
      = Std.ExtTreeMap.ofList entries := Std.ExtTreeMap.ofList_eq_foldl.symm
  rw [hlist]
  refine Std.ExtTreeMap.ext_getElem? fun key => ?_
  cases hfound : map[key]? with
  | some value =>
    have hmem : (key, value) ∈ entries :=
      hentries.mem_iff.mpr (Std.ExtTreeMap.mem_toList_iff_getElem?_eq_some.mpr hfound)
    exact Std.ExtTreeMap.getElem?_ofList_of_mem Std.ReflCmp.compare_self hdistinct hmem
  | none =>
    have habsent : key ∉ entries.map Prod.fst := by
      intro hkey
      obtain ⟨⟨_, value⟩, hmem, rfl⟩ := List.mem_map.mp hkey
      have hsome := Std.ExtTreeMap.mem_toList_iff_getElem?_eq_some.mp (hentries.mem_iff.mp hmem)
      rw [hfound] at hsome
      cases hsome
    refine Std.ExtTreeMap.getElem?_ofList_of_contains_eq_false ?_
    rw [List.contains_eq_mem, decide_eq_false habsent]

end

/-! ### The last of a key -/

/-- The item is in the list, and no item behind it has its key. -/
def IsLastBy {α κ : Type} (key : α → κ) (items : List α) (item : α) : Prop :=
  ∃ before after, items = before ++ item :: after ∧ ∀ other ∈ after, key other ≠ key item

section
variable {α κ : Type} {key : α → κ} {items : List α} {item : α}

/-- What is last with its key is one of the items. -/
theorem IsLastBy.mem (h : IsLastBy key items item) : item ∈ items := by
  obtain ⟨before, after, rfl, -⟩ := h
  exact List.mem_append_right _ List.mem_cons_self

variable (key) in
/-- `IsLastBy` as a search from the end of the list. -/
theorem isLastBy_iff_find? [DecidableEq κ] {k : κ} :
    IsLastBy key items item ∧ key item = k
      ↔ items.reverse.find? (fun other => decide (key other = k)) = some item := by
  rw [List.find?_eq_some_iff_append]
  constructor
  · rintro ⟨⟨before, after, rfl, hafter⟩, rfl⟩
    refine ⟨by simp, after.reverse, before.reverse, by simp, fun other hother => ?_⟩
    simpa using hafter other (List.mem_reverse.mp hother)
  · rintro ⟨hkey, after, before, hrev, hafter⟩
    have hkey : key item = k := by simpa using hkey
    refine ⟨⟨before.reverse, after.reverse, ?_, fun other hother => ?_⟩, hkey⟩
    · rw [← List.reverse_reverse items, hrev]
      simp
    · have := hafter other (List.mem_reverse.mp hother)
      simpa [hkey] using this

variable (key) in
/-- Every key in the list has a last item, so a look-up fails only for keys that no item has. -/
theorem exists_isLastBy_of_mem [DecidableEq κ] (hmem : item ∈ items) :
    ∃ last, IsLastBy key items last ∧ key last = key item := by
  have hsome : (items.reverse.find? fun other => decide (key other = key item)).isSome = true := by
    rw [List.find?_isSome]
    exact ⟨item, List.mem_reverse.mpr hmem, decide_eq_true rfl⟩
  obtain ⟨last, hlast⟩ := Option.isSome_iff_exists.mp hsome
  exact ⟨last, (isLastBy_iff_find? _).mpr hlast⟩

section
variable [DecidableEq κ] {first : α} {rest others : List α}

/-- What is last with its key is what a search for that key finds from the end. -/
theorem isLastBy_iff_find?_self : IsLastBy key items item
    ↔ items.reverse.find? (fun other => decide (key other = key item)) = some item := by
  rw [← isLastBy_iff_find?, and_iff_left rfl]

/-- Only one item is last with a key, so speaking of the last one is justified. -/
theorem IsLastBy.unique {other : α} (h : IsLastBy key items item)
    (hother : IsLastBy key items other) (hkey : key item = key other) : item = other := by
  have hitem := (isLastBy_iff_find? key).mp ⟨h, hkey⟩
  exact Option.some.inj (hitem.symm.trans (isLastBy_iff_find?_self.mp hother))

/-- Under keys that tell the items apart, every item is the last of its key. -/
theorem isLastBy_iff_mem (hdistinct : ∀ a ∈ items, ∀ b ∈ items, key a = key b → a = b) :
    IsLastBy key items item ↔ item ∈ items := by
  refine ⟨IsLastBy.mem, fun hmem => ?_⟩
  obtain ⟨last, hlast, hkey⟩ := exists_isLastBy_of_mem key hmem
  rwa [hdistinct item hmem last hlast.mem hkey.symm]

/-- What is last is so after a conversion that keeps the keys. More than one item may be converted
to one result. -/
theorem isLastBy_map {f : α → α} (hkey : ∀ other, key (f other) = key other) {result : α} :
    IsLastBy key (items.map f) result ↔ ∃ item, IsLastBy key items item ∧ f item = result := by
  have hsame : ∀ k, (fun other => decide (key other = k)) ∘ f
      = fun other => decide (key other = k) := by
    intro k
    funext other
    rw [Function.comp_apply, hkey]
  rw [isLastBy_iff_find?_self, ← List.map_reverse, List.find?_map, hsame, Option.map_eq_some_iff]
  refine exists_congr fun item => and_congr_left ?_
  rintro rfl
  rw [hkey, isLastBy_iff_find?_self]

/-- What is last in two lists, one behind the other, is last in the second, or last in the first
under a key that the second does not have. -/
theorem isLastBy_append : IsLastBy key (items ++ others) item
    ↔ IsLastBy key others item ∨
      (IsLastBy key items item ∧ ∀ other ∈ others, key other ≠ key item) := by
  simp only [isLastBy_iff_find?_self, List.reverse_append, List.find?_append,
    Option.or_eq_some_iff, List.find?_eq_none, List.mem_reverse, decide_eq_true_eq]
  rw [and_comm]

/-- In front of a list, an item is last with its key exactly when no later item has the key. What
was last in the list stays so. -/
theorem isLastBy_cons : IsLastBy key (first :: rest) item
    ↔ IsLastBy key rest item ∨ (item = first ∧ ∀ other ∈ rest, key other ≠ key item) := by
  have hsingle : IsLastBy key [first] item ↔ item = first := by
    constructor
    · exact fun h => List.mem_singleton.mp h.mem
    · rintro rfl
      exact ⟨[], [], rfl, nofun⟩
  rw [← List.singleton_append, isLastBy_append, hsingle]

/-- Items with other keys do not matter, so the list may be narrowed to one key first. -/
theorem isLastBy_filter :
    IsLastBy key (items.filter fun other => decide (key other = key item)) item
      ↔ IsLastBy key items item := by
  simp only [isLastBy_iff_find?_self, ← List.filter_reverse, List.find?_filter, and_self,
    decide_eq_true_eq]

/-- An item that a later one hides, or that has another key, may be left out. -/
theorem isLastBy_append_cons
    (hhidden : key first = key item → ∃ other ∈ rest, key other = key first) :
    IsLastBy key (items ++ first :: rest) item ↔ IsLastBy key (items ++ rest) item := by
  have hfirst : (item = first ∧ ∀ other ∈ rest, key other ≠ key item) → False := by
    rintro ⟨rfl, hnone⟩
    obtain ⟨other, hother, hkey⟩ := hhidden rfl
    exact hnone other hother hkey
  have hrest : (∀ other ∈ rest, key other ≠ key item) → key first ≠ key item := by
    intro hnone hkey
    obtain ⟨other, hother, hsame⟩ := hhidden hkey
    exact hnone other hother (hsame.trans hkey)
  rw [isLastBy_append, isLastBy_append, isLastBy_cons, List.forall_mem_cons,
    or_iff_left hfirst, and_iff_right_of_imp hrest]

end

end

/-! ### The first that passes a test -/

/-- In a list that is ordered, what a search finds is the least item that passes the test. -/
theorem find?_eq_some_iff_of_pairwise {α : Type} {before : α → α → Prop}
    (hasymm : ∀ a b, before a b → ¬ before b a) {items : List α} (hordered : items.Pairwise before)
    {p : α → Bool} {item : α} : items.find? p = some item
      ↔ item ∈ items ∧ p item = true ∧
        ∀ other ∈ items, p other = true → other = item ∨ before item other := by
  constructor
  · intro hfind
    obtain ⟨hp, earlier, later, rfl, hearlier⟩ := List.find?_eq_some_iff_append.mp hfind
    refine ⟨List.mem_of_find?_eq_some hfind, hp, fun other hother hpass => ?_⟩
    rw [List.pairwise_append, List.pairwise_cons] at hordered
    rcases List.mem_append.mp hother with hmem | hmem
    · exact absurd hpass (by simpa using hearlier other hmem)
    · exact (List.mem_cons.mp hmem).imp_right (hordered.2.1.1 other)
  · rintro ⟨hmem, hp, hleast⟩
    obtain ⟨earlier, later, rfl⟩ := List.append_of_mem hmem
    refine List.find?_eq_some_iff_append.mpr ⟨hp, earlier, later, rfl, fun other hother => ?_⟩
    have hbefore := (List.pairwise_append.mp hordered).2.2 other hother item List.mem_cons_self
    rw [Bool.not_eq_true', ← Bool.not_eq_true]
    intro hpass
    -- the item would have to stand before itself, or before one that it stands behind
    rcases hleast other (List.mem_append_left _ hother) hpass with rfl | hafter
    · exact hasymm other other hbefore hbefore
    · exact hasymm other item hbefore hafter

/-! ### Maps with keys in order -/

section
variable {α β κ : Type} [Ord κ] [Std.TransOrd κ] [Std.LawfulEqOrd κ]

/-- A map after insertions: what was inserted last under a key, and what was there for keys under
which nothing was inserted. -/
theorem getElem?_foldl_insert [DecidableEq κ] (key : α → κ) (value : α → β) (items : List α)
    (map : Std.ExtTreeMap κ β) (k : κ) :
    (items.foldl (fun map item => map.insert (key item) (value item)) map)[k]?
      = ((items.reverse.find? fun item => decide (key item = k)).map value).or map[k]? := by
  -- The map is arbitrary, as the fold goes on with the one that holds the first item.
  induction items generalizing map with
  | nil => simp
  | cons item rest ih =>
    rw [List.foldl_cons, ih, List.reverse_cons, List.find?_append]
    by_cases hkey : key item = k
    · simp [hkey]
    · have hother : (map.insert (key item) (value item))[k]? = map[k]? := by
        rw [Std.ExtTreeMap.getElem?_insert, if_neg]
        exact fun heq => hkey (Std.LawfulEqOrd.eq_of_compare heq)
      simp [hother, hkey]

/-- A map after insertions that give way to what is there: what was there, and what was inserted
first under a key for keys under which there was nothing. -/
theorem getElem?_foldl_insertIfNew [DecidableEq κ] (key : α → κ) (value : α → β) (items : List α)
    (map : Std.ExtTreeMap κ β) (k : κ) :
    (items.foldl (fun map item => map.insertIfNew (key item) (value item)) map)[k]?
      = map[k]?.or ((items.find? fun item => decide (key item = k)).map value) := by
  -- The map is arbitrary, as the fold goes on with the one that holds the first item.
  induction items generalizing map with
  | nil => simp
  | cons item rest ih =>
    rw [List.foldl_cons, ih, Std.ExtTreeMap.getElem?_insertIfNew]
    by_cases hkey : key item = k
    · subst hkey
      cases hfound : map[key item]? <;> simp [Std.ExtTreeMap.mem_iff_isSome_getElem?, hfound]
    · have hother : ¬ compare (key item) k = .eq :=
        fun heq => hkey (Std.LawfulEqOrd.eq_of_compare heq)
      simp [hother, hkey]

/-- A map of items that were inserted under their keys holds the last one of each key. -/
theorem getElem?_foldl_insert_items [DecidableEq κ] (key : α → κ) {items : List α} {k : κ}
    {item : α} :
    (items.foldl (fun (map : Std.ExtTreeMap κ α) item => map.insert (key item) item) ∅)[k]?
        = some item
      ↔ IsLastBy key items item ∧ key item = k := by
  have hinsert := getElem?_foldl_insert key id items (∅ : Std.ExtTreeMap κ α) k
  rw [Std.ExtTreeMap.getElem?_empty, Option.or_none, Option.map_id_fun, id_eq] at hinsert
  rw [isLastBy_iff_find?, ← hinsert]
  exact Iff.rfl

/-- Items that a map holds under their own keys are in the order of these, and strictly so: no two
share one. -/
theorem pairwise_values_toList (key : β → κ) {map : Std.ExtTreeMap κ β}
    (hkeys : ∀ k item, map[k]? = some item → key item = k) :
    (map.toList.map Prod.snd).Pairwise fun a b => compare (key a) (key b) = .lt := by
  have hkey : ∀ entry ∈ map.toList, key entry.2 = entry.1 :=
    fun entry hmem => hkeys _ _ (Std.ExtTreeMap.mem_toList_iff_getElem?_eq_some.mp hmem)
  refine List.pairwise_map.mpr (List.Pairwise.imp_of_mem ?_ Std.ExtTreeMap.ordered_keys_toList)
  intro a b ha hb hlt
  rwa [hkey a ha, hkey b hb]

/-- A map of a list of entries holds the last one of each key. -/
theorem getElem?_ofList_eq_some_iff [DecidableEq κ] {entries : List (κ × β)} {k : κ} {value : β} :
    (Std.ExtTreeMap.ofList entries)[k]? = some value ↔ IsLastBy Prod.fst entries (k, value) := by
  rw [Std.ExtTreeMap.ofList_eq_foldl, getElem?_foldl_insert, Std.ExtTreeMap.getElem?_empty,
    Option.or_none, Option.map_eq_some_iff]
  constructor
  · rintro ⟨entry, hfind, rfl⟩
    obtain ⟨hlast, rfl⟩ := (isLastBy_iff_find? _).mpr hfind
    exact hlast
  · exact fun hlast => ⟨(k, value), (isLastBy_iff_find? _).mp ⟨hlast, rfl⟩, rfl⟩

/-- It holds nothing under a key exactly when no entry has it. -/
theorem getElem?_ofList_eq_none_iff [DecidableEq κ] {entries : List (κ × β)} {k : κ} :
    (Std.ExtTreeMap.ofList entries)[k]? = none ↔ ∀ entry ∈ entries, entry.1 ≠ k := by
  rw [Std.ExtTreeMap.ofList_eq_foldl, getElem?_foldl_insert, Std.ExtTreeMap.getElem?_empty,
    Option.or_none, Option.map_eq_none_iff, List.find?_eq_none]
  simp only [List.mem_reverse, decide_eq_true_eq]

/-- What a search in a map finds is the entry with the least key of those that meet the test. -/
theorem find?_toList_eq_some_iff {map : Std.ExtTreeMap κ β} {p : κ × β → Bool} {entry : κ × β} :
    map.toList.find? p = some entry
      ↔ p entry = true ∧ map[entry.1]? = some entry.2 ∧
        ∀ earlier : κ × β, map[earlier.1]? = some earlier.2 →
          compare earlier.1 entry.1 = .lt → p earlier = false := by
  have hmem : ∀ other : κ × β, other ∈ map.toList ↔ map[other.1]? = some other.2 :=
    fun other => Std.ExtTreeMap.mem_toList_iff_getElem?_eq_some
  have hasymm : ∀ a b : κ × β, compare a.1 b.1 = .lt → ¬ compare b.1 a.1 = .lt :=
    fun _ _ hlt => Std.OrientedCmp.not_lt_of_lt hlt
  rw [find?_eq_some_iff_of_pairwise hasymm Std.ExtTreeMap.ordered_keys_toList]
  simp only [hmem]
  constructor
  · rintro ⟨hget, hp, hleast⟩
    refine ⟨hp, hget, fun earlier hearlier hlt => ?_⟩
    rw [← Bool.not_eq_true]
    intro hpass
    rcases hleast earlier hearlier hpass with rfl | hgt
    · rw [Std.ReflOrd.compare_self] at hlt
      cases hlt
    · exact Std.OrientedCmp.not_lt_of_lt hlt hgt
  · rintro ⟨hp, hget, hearlier⟩
    refine ⟨hget, hp, fun other hother hpass => ?_⟩
    cases hcompare : compare entry.1 other.1 with
    | lt => exact Or.inr rfl
    | eq =>
      -- one key holds one value
      have hkey := Std.LawfulEqOrd.eq_of_compare hcompare
      rw [← hkey, hget] at hother
      exact Or.inl (Prod.ext hkey.symm (Option.some.inj hother).symm)
    | gt =>
      rw [hearlier other hother (Std.OrientedCmp.lt_of_gt hcompare)] at hpass
      cases hpass

end

end AccessGateway
