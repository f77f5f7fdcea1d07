import AccessGateway.Object.Opaque
import AccessGateway.Proofs.Query.Page
import AccessGateway.Proofs.Text.Utf8
import Mathlib.Data.List.Nodup

/-!
# `AccessGateway.Proofs.Query.Order`: the order of an answer

A query ranks an item by the value of one field and by the name. `Rank.Before` says which of two
ranks comes first; the comparison that the sort runs on decides just that, and the other way round
when the order is reversed. Texts are ordered by their octets, so the order does not depend on a
language, and an item without the field stands in front of all that have it.

Three facts pin down what a query selects (`Query.IsOrderedSelection`, and
`Query.IsOrderedSelection.unique`): it holds what is admitted, each item as often as it was there;
its ranks never descend; and among items of one rank it keeps the order in which they came. That
they leave only one answer is an induction over two lists at once. Each of them holds the first item
of the other one, so neither of the two can be behind the other, which makes them one rank, and then
it is the third fact that makes them equal.

When no two admitted items share a rank, the ranks alone determine the answer
(`Query.eq_select_of_nodup`), so the order of the list makes no difference, and the other direction
gives the reversed answer. Items with distinct names are a case of that (`Query.run_eq_of_perm`).
-/

set_option autoImplicit false

namespace AccessGateway.Query

/-! ### Ranks -/

/-- What an item is ordered by: the value of a field, if it has one, and its name. -/
structure Rank where
  value : Option String
  name : String
  deriving DecidableEq

namespace Rank

/-- Which rank comes first. No value comes before any value, and values that differ are ordered
octet by octet; if the values agree, the names are. -/
inductive Before : Rank → Rank → Prop where
  | absent (name name' value : String) : Before ⟨none, name⟩ ⟨some value, name'⟩
  | value (name name' : String) {value value' : String}
      (h : Text.utf8 value < Text.utf8 value') : Before ⟨some value, name⟩ ⟨some value', name'⟩
  | name (value : Option String) {name name' : String}
      (h : Text.utf8 name < Text.utf8 name') : Before ⟨value, name⟩ ⟨value, name'⟩

/-- Ranks are compared by value, then by name. -/
instance : Ord Rank where
  compare := compareLex (compareOn Rank.value) (compareOn Rank.name)

instance : Std.TransOrd Rank :=
  inferInstanceAs (Std.TransCmp (compareLex (compareOn Rank.value) (compareOn Rank.name)))

instance : Std.LawfulEqOrd Rank where
  eq_of_compare {rank other} h := by
    have hparts : compare rank.value other.value = .eq ∧ compare rank.name other.name = .eq :=
      compareLex_eq_eq.mp h
    exact (Rank.mk.injEq ..).mpr
      ⟨Std.compare_eq_iff_eq.mp hparts.1, Std.compare_eq_iff_eq.mp hparts.2⟩

/-- Comparing two ranks decides which of them is before the other. Only the comparison of texts has
to be taken to their octets. -/
theorem compare_eq_lt_iff {rank other : Rank} : compare rank other = .lt ↔ rank.Before other := by
  obtain ⟨value, name⟩ := rank
  obtain ⟨value', name'⟩ := other
  show (compare value value').then (compare name name') = .lt ↔ _
  rw [Ordering.then_eq_lt]
  constructor
  · intro hlt
    rcases hlt with hvalue | ⟨hvalue, hname⟩
    · match value, value', hvalue with
      | none, some value', _ => exact .absent name name' value'
      | some value, some value', h => exact .value name name' (Text.compare_eq_lt_iff.mp h)
    · obtain rfl := Std.compare_eq_iff_eq.mp hvalue
      exact .name value (Text.compare_eq_lt_iff.mp hname)
  · intro hbefore
    cases hbefore with
    | absent => exact Or.inl rfl
    | value _ _ h => exact Or.inl (Text.compare_eq_lt_iff.mpr h)
    | name _ h => exact Or.inr ⟨Std.ReflOrd.compare_self, Text.compare_eq_lt_iff.mpr h⟩

/-- One that is not after the other is the same or before it. -/
theorem isLE_compare_iff {rank other : Rank} :
    (compare rank other).isLE = true ↔ rank = other ∨ rank.Before other := by
  rw [Ordering.isLE_iff_eq_lt_or_eq_eq, compare_eq_lt_iff, Std.compare_eq_iff_eq, or_comm]

end Rank

section
variable {α : Type} [Queryable α] {q : Query} {items result : List α} {a b c : α}

/-- What a query orders an item by. The direction is not a part of it. -/
def rank (q : Query) (item : α) : Rank := ⟨Queryable.field item q.orderBy, Queryable.name item⟩

/-- Whether an item may stand in front of another one in an answer: their ranks agree, or its rank
comes first, or last if the order is reversed. -/
def InOrder (q : Query) (a b : α) : Prop :=
  q.rank a = q.rank b ∨
    if q.reverse then (q.rank b).Before (q.rank a) else (q.rank a).Before (q.rank b)

/-- The comparison of a query is that of the ranks, in one direction or the other. So what is known
of ranks is known of both. -/
theorem comparison_eq : (q.comparison : α → α → Ordering)
    = if q.reverse then fun a b => compareOn q.rank b a else compareOn q.rank := by
  funext a b
  rw [comparison]
  split
  · show (compareOn q.rank a b).swap = _
    exact Std.OrientedCmp.eq_swap.symm
  · rfl

instance : Std.TransCmp (q.comparison : α → α → Ordering) := by
  rw [comparison_eq]
  split
  · exact Std.TransCmp.opposite
  · infer_instance

/-- The comparison decides which of two items may stand in front of the other. -/
theorem isLE_comparison_iff : (q.comparison a b).isLE = true ↔ q.InOrder a b := by
  rw [comparison_eq, InOrder]
  split
  · show (compare (q.rank b) (q.rank a)).isLE = true ↔ _
    rw [Rank.isLE_compare_iff, eq_comm]
  · exact Rank.isLE_compare_iff

/-- The comparison of a query is transitive, which sorting needs. -/
theorem isLE_comparison_trans (a b c : α) (hab : (q.comparison a b).isLE = true)
    (hbc : (q.comparison b c).isLE = true) : (q.comparison a c).isLE = true :=
  Std.TransCmp.isLE_trans hab hbc

/-- It says of any two items which may stand first. -/
theorem isLE_comparison_total (a b : α) :
    ((q.comparison a b).isLE || (q.comparison b a).isLE) = true := by
  have hswap : q.comparison b a = (q.comparison a b).swap := Std.OrientedCmp.eq_swap
  rw [hswap]
  cases q.comparison a b <;> rfl

/-- Items that may stand either way round have one rank. -/
theorem InOrder.rank_eq (hab : q.InOrder a b) (hba : q.InOrder b a) : q.rank a = q.rank b := by
  have heq : q.comparison a b = .eq := Std.OrientedCmp.isLE_antisymm
    (isLE_comparison_iff.mpr hab) (isLE_comparison_iff.mpr hba)
  rw [comparison_eq] at heq
  split at heq
  · exact (Std.compare_eq_iff_eq.mp heq).symm
  · exact Std.compare_eq_iff_eq.mp heq

/-- Reversing the order turns round what may stand in front of what. -/
theorem inOrder_reverse :
    ({ q with reverse := !q.reverse } : Query).InOrder a b ↔ q.InOrder b a := by
  show q.rank a = q.rank b ∨ (if (!q.reverse) = true then _ else _) ↔ _
  rw [InOrder, eq_comm]
  cases q.reverse <;> exact Iff.rfl

/-! ### What is selected -/

/-- What it takes to be the answer to a query, before a page is cut from it. None of the three facts
speaks of a way to sort. -/
structure IsOrderedSelection (q : Query) (items result : List α) : Prop where
  /-- It holds the items that are admitted, each as often as it was there. -/
  perm : result.Perm (items.filter q.admits)
  /-- They are in order. -/
  sorted : result.Pairwise q.InOrder
  /-- Items of one rank are in the order in which they came. -/
  stable : ∀ rank, result.filter (q.rank · = rank)
    = (items.filter q.admits).filter (q.rank · = rank)

/-- What is on a page of an answer was in the list, and is admitted. -/
theorem IsOrderedSelection.mem_of_mem_cut (h : IsOrderedSelection q items result) {limit : Int}
    {offset : Nat} (hmem : a ∈ (Page.cut result limit offset).items) :
    a ∈ items ∧ q.admits a = true :=
  List.mem_filter.mp (h.perm.mem_iff.mp (Page.mem_of_mem_cut hmem))

/-- Lists in order that have the same items of each rank, in the same order, are equal. -/
theorem eq_of_filter_rank_eq {others : List α} (hsorted : items.Pairwise q.InOrder)
    (hsorted' : others.Pairwise q.InOrder)
    (hties : ∀ rank, items.filter (q.rank · = rank) = others.filter (q.rank · = rank)) :
    items = others := by
  have hmem : ∀ {list list' : List α},
      (∀ rank, list.filter (q.rank · = rank) = list'.filter (q.rank · = rank)) →
        ∀ item ∈ list, item ∈ list' := by
    intro list list' h item hitem
    have hown : item ∈ list.filter (q.rank · = q.rank item) :=
      List.mem_filter.mpr ⟨hitem, decide_eq_true rfl⟩
    rw [h] at hown
    exact (List.mem_filter.mp hown).1
  induction items generalizing others with
  | nil =>
    cases others with
    | nil => rfl
    | cons b rest' => cases hmem (fun rank => (hties rank).symm) b List.mem_cons_self
  | cons a rest ih =>
    cases others with
    | nil => cases hmem hties a List.mem_cons_self
    | cons b rest' =>
      obtain ⟨hfirst, hrest⟩ := List.pairwise_cons.mp hsorted
      obtain ⟨hfirst', hrest'⟩ := List.pairwise_cons.mp hsorted'
      -- Each list has the first item of the other one, so these two are of one rank.
      have hrank : q.rank a = q.rank b := by
        rcases List.mem_cons.mp (hmem hties a List.mem_cons_self) with heq | ha
        · rw [heq]
        rcases List.mem_cons.mp (hmem (fun rank => (hties rank).symm) b List.mem_cons_self)
          with heq | hb
        · rw [heq]
        exact (hfirst b hb).rank_eq (hfirst' a ha)
      have hheads := hties (q.rank a)
      simp only [List.filter_cons, hrank, decide_true, if_true] at hheads
      obtain ⟨rfl, -⟩ := List.cons.inj hheads
      refine congrArg (a :: ·) (ih hrest hrest' fun rank => ?_)
      have htails := hties rank
      simp only [List.filter_cons] at htails
      split at htails
      · exact (List.cons.inj htails).2
      · exact htails

/-- There is one answer to a query. Whatever else sorts the admitted items like this finds the
same. -/
theorem IsOrderedSelection.unique {other : List α} (h : IsOrderedSelection q items result)
    (hother : IsOrderedSelection q items other) : result = other :=
  eq_of_filter_rank_eq h.sorted hother.sorted fun rank =>
    (h.stable rank).trans (hother.stable rank).symm

/-- Selecting loses and adds nothing: what is selected is what the query admits, in some order. -/
theorem select_perm : (q.select items).Perm (items.filter q.admits) :=
  List.mergeSort_perm _ _

/-- No item that is selected stands behind one that it should precede. -/
theorem pairwise_select : (q.select items).Pairwise q.InOrder := by
  have hsorted : (q.select items).Pairwise fun a b => (q.comparison a b).isLE = true :=
    List.pairwise_mergeSort isLE_comparison_trans isLE_comparison_total _
  exact hsorted.imp isLE_comparison_iff.mp

/-- Sorting does not move items of one rank past each other, since the sort is stable and each of
them may stand in front of the other. -/
theorem filter_rank_select (rank : Rank) : (q.select items).filter (q.rank · = rank)
    = (items.filter q.admits).filter (q.rank · = rank) := by
  let ties := (items.filter q.admits).filter (q.rank · = rank)
  have hrank : ∀ a ∈ ties, q.rank a = rank := fun a ha =>
    of_decide_eq_true (List.mem_filter.mp ha).2
  have hties : ties.Pairwise fun a b => (q.comparison a b).isLE = true :=
    List.pairwise_of_forall_mem_list fun a ha b hb =>
      isLE_comparison_iff.mpr (Or.inl ((hrank a ha).trans (hrank b hb).symm))
  -- A sorted part of the list is left as it is, and there are no more of them than before.
  have hsublist : ties.Sublist ((q.select items).filter (q.rank · = rank)) := by
    have hpart : ties.Sublist (q.select items) := List.sublist_mergeSort isLE_comparison_trans
      isLE_comparison_total hties List.filter_sublist
    have hfilter := hpart.filter (q.rank · = rank)
    rwa [List.filter_eq_self.mpr fun a ha => decide_eq_true (hrank a ha)] at hfilter
  exact (hsublist.eq_of_length (select_perm.filter _).length_eq.symm).symm

/-- A query selects what it takes: the three facts hold of the sorted list. -/
theorem isOrderedSelection_select : IsOrderedSelection q items (q.select items) :=
  ⟨select_perm, pairwise_select, filter_rank_select⟩

/-- When no two admitted items share a rank, whatever holds the admitted items in order is what is
selected. -/
theorem eq_select_of_nodup (hnodup : ((items.filter q.admits).map q.rank).Nodup)
    (hperm : result.Perm (items.filter q.admits)) (hsorted : result.Pairwise q.InOrder) :
    result = q.select items := by
  refine List.Perm.eq_of_pairwise ?_ hsorted pairwise_select (hperm.trans select_perm.symm)
  intro a b ha hb hab hba
  exact List.inj_on_of_nodup_map hnodup (hperm.mem_iff.mp ha) (select_perm.mem_iff.mp hb)
    (hab.rank_eq hba)

/-- Of items with distinct names no two share a rank, so the order in which they come makes no
difference to the answer. -/
theorem run_eq_of_perm {others : List α} (hperm : others.Perm items)
    (hnames : (items.map Queryable.name).Nodup) : q.run others = q.run items := by
  have hranks : (items.map q.rank).Nodup := by
    refine List.Nodup.of_map Rank.name ?_
    rwa [List.map_map]
  have hnodup : ((items.filter q.admits).map q.rank).Nodup :=
    hranks.sublist (List.filter_sublist.map _)
  rw [run, run, eq_select_of_nodup hnodup (select_perm.trans (hperm.filter _)) pairwise_select]

/-- The answer to a query is the items that satisfy each condition, in order and with ties as they
came. If no two of them share a rank, it does not depend on how the list is ordered, and the query
in the other direction gives the reversed answer. -/
theorem select_ordered {α : Type} [Queryable α] (q : Query) (items : List α) :
    IsOrderedSelection q items (q.select items) ∧
    (∀ item : α, q.admits item = true ↔ ∀ field condition,
      q.conditions[field]? = some condition →
        Queryable.satisfies item field condition = true) ∧
    (((items.filter q.admits).map q.rank).Nodup →
      (∀ others : List α, others.Perm items → q.select others = q.select items) ∧
      ({ q with reverse := !q.reverse } : Query).select items = (q.select items).reverse) := by
  refine ⟨isOrderedSelection_select, fun item => admits_iff, ?_⟩
  intro hnodup
  constructor
  · intro others hothers
    exact eq_select_of_nodup hnodup (select_perm.trans (hothers.filter _)) pairwise_select
  · let reversed : Query := { q with reverse := !q.reverse }
    have hsorted : (reversed.select items).reverse.Pairwise q.InOrder := by
      rw [List.pairwise_reverse]
      exact pairwise_select.imp inOrder_reverse.mp
    have hperm : (reversed.select items).reverse.Perm (items.filter q.admits) :=
      (List.reverse_perm _).trans select_perm
    rw [← eq_select_of_nodup hnodup hperm hsorted, List.reverse_reverse]

/-- Two namespaces in the order of their names, whichever is listed first, and the other way round
in the reversed order. -/
theorem select_ordered_namespaces :
    let byName := everything.orderedBy FieldName.name false
    let blue := OpaqueObject.ofMetadata (.named "blue")
    let red := OpaqueObject.ofMetadata (.named "red")
    (([red, blue].filter byName.admits).map byName.rank).Nodup ∧
    byName.select [blue, red] = byName.select [red, blue] ∧
    (everything.orderedBy FieldName.name true).select [red, blue]
      = (byName.select [red, blue]).reverse := by
  intro byName blue red
  have hnodup : (([red, blue].filter byName.admits).map byName.rank).Nodup := by decide
  obtain ⟨horder, hreverse⟩ := (select_ordered byName [red, blue]).2.2 hnodup
  exact ⟨hnodup, horder _ (List.Perm.swap red blue []), hreverse⟩

end

end AccessGateway.Query
