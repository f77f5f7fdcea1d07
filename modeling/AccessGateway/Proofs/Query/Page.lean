import AccessGateway.Query.Page

/-!
# `AccessGateway.Proofs.Query.Page`: what a page holds

However a query orders the items and whichever page it takes, the page holds items of the list that
satisfy every condition, and its total counts all of those.

A query has one condition for each field. `Query.withoutCondition` takes the one of a field away, so
that a query with a condition that was set can be compared with the query before. Setting a
condition is taking away the one that was there and asking for another, and an item is admitted by
the result when both halves hold of it (`Query.admits_withCondition`). The rest follows from this:
where a list is already confined to the items of one value, a condition for the same value makes no
difference, and one for another value leaves nothing.

* `Query.mem_run`: what is on the page was in the list, and is admitted.
* `Query.admits_iff`: what is admitted satisfies each condition.
* `Query.totalCount_run`, `Query.mem_run_unpaged`: what is counted, and what is shown without a
  limit.
* `Query.run_withCondition`: a condition that is set may be held against the items beforehand.
* `Query.run_map`: a conversion of the items that keeps their fields converts the page.
-/

set_option autoImplicit false

namespace AccessGateway

/-- A page is cut out of the list, so whatever is on it was in the list. -/
theorem Page.mem_of_mem_cut {α : Type} {items : List α} {limit : Int} {offset : Nat} {item : α}
    (hmem : item ∈ (Page.cut items limit offset).items) : item ∈ items := by
  rw [Page.cut] at hmem
  split at hmem
  · exact List.mem_of_mem_drop hmem
  · exact List.mem_of_mem_drop (List.mem_of_mem_take hmem)

/-- It makes no difference whether items are converted before or after a page is cut from them. -/
theorem Page.cut_map {α β : Type} (f : α → β) (items : List α) (limit : Int) (offset : Nat) :
    Page.cut (items.map f) limit offset = (Page.cut items limit offset).map f := by
  simp only [Page.cut, Page.map, List.length_map]
  split
  · rw [List.map_drop]
  · rw [List.map_take, List.map_drop]

/-- Without limit and offset, a page is the whole list. -/
theorem Page.items_cut_of_neg {α : Type} (items : List α) {limit : Int} (hlimit : limit < 0) :
    (Page.cut items limit 0).items = items := by
  simp only [Page.cut, List.drop_zero, if_pos hlimit]

namespace Query

/-- The same query without a condition on a field. The conditions on other fields stay. -/
def withoutCondition (q : Query) (field : String) : Query :=
  { q with conditions := q.conditions.erase field }

/-! ### Conditions -/

/-- A value that is there equals the one that an exact condition asks for, and a field without a
value has none that could. -/
theorem satisfiesBy_exact_iff {found : Option String} {value : String} :
    Queryable.satisfiesBy found (.exact value) = true ↔ found = some value := by
  rw [Queryable.satisfiesBy, Option.any_eq_true]
  constructor
  · rintro ⟨own, hown, haccepts⟩
    have hequal : own = value := beq_iff_eq.mp haccepts
    rw [hown, hequal]
  · exact fun h => ⟨value, h, beq_self_eq_true value⟩

section
variable {α : Type} [Queryable α] {q : Query} {items : List α} {item : α} {field : String}
  {condition : Condition}

/-- An item is admitted exactly when it satisfies each condition. Conditions are looked up by their
field here, and not listed. -/
theorem admits_iff : q.admits item = true ↔ ∀ field condition,
    q.conditions[field]? = some condition → Queryable.satisfies item field condition = true := by
  rw [admits, List.all_eq_true]
  constructor
  · intro h field condition hcondition
    exact h (field, condition) (Std.ExtTreeMap.mem_toList_iff_getElem?_eq_some.mpr hcondition)
  · rintro h ⟨field, condition⟩ hmem
    exact h field condition (Std.ExtTreeMap.mem_toList_iff_getElem?_eq_some.mp hmem)

/-- What is admitted satisfies each condition. -/
theorem satisfies_of_admits (hadmits : q.admits item = true)
    (hcondition : q.conditions[field]? = some condition) :
    Queryable.satisfies item field condition = true :=
  admits_iff.mp hadmits field condition hcondition

/-- Without conditions, everything is admitted. -/
theorem admits_of_conditions_eq_empty (hconditions : q.conditions = ∅) (item : α) :
    q.admits item = true := by
  rw [admits_iff]
  intro field condition hcondition
  rw [hconditions, Std.ExtTreeMap.getElem?_empty] at hcondition
  cases hcondition

/-- What is left without a condition on a field are the conditions on the other fields. -/
theorem getElem?_withoutCondition {other : String} :
    (q.withoutCondition field).conditions[other]? = some condition
      ↔ other ≠ field ∧ q.conditions[other]? = some condition := by
  rw [withoutCondition, Std.ExtTreeMap.getElem?_erase]
  split
  · rename_i hequal
    exact ⟨nofun, fun h => absurd (Std.compare_eq_iff_eq.mp hequal).symm h.1⟩
  · rename_i hdiffers
    exact ⟨fun h => ⟨fun heq => hdiffers (Std.compare_eq_iff_eq.mpr heq.symm), h⟩, And.right⟩

/-- A condition that is set takes the place of the one that was there. -/
theorem getElem?_withCondition {other : String} {found : Condition} :
    (q.withCondition field condition).conditions[other]? = some found
      ↔ (other = field ∧ found = condition) ∨
        (q.withoutCondition field).conditions[other]? = some found := by
  rw [getElem?_withoutCondition, withCondition, Std.ExtTreeMap.getElem?_insert]
  by_cases hequal : other = field
  · subst hequal
    simp [eq_comm]
  · have hdiffers : compare field other ≠ .eq := fun h => hequal (Std.compare_eq_iff_eq.mp h).symm
    simp [hequal, hdiffers]

/-- A query without a condition on a field is the same without it. -/
theorem withoutCondition_of_not_mem (hfree : field ∉ q.conditions) :
    q.withoutCondition field = q := by
  have hconditions : q.conditions.erase field = q.conditions :=
    Std.ExtTreeMap.ext_getElem? fun other => Option.ext fun condition => by
      refine getElem?_withoutCondition.trans ⟨And.right, fun h => ⟨?_, h⟩⟩
      rintro rfl
      exact hfree (Std.ExtTreeMap.mem_iff_isSome_getElem?.mpr (Option.isSome_of_eq_some h))
  rw [withoutCondition, hconditions]

/-- What a query admits is admitted without its condition on a field, and satisfies that one. -/
theorem admits_iff_withoutCondition (field : String) : q.admits item = true
    ↔ (q.withoutCondition field).admits item = true ∧ ∀ condition,
        q.conditions[field]? = some condition →
          Queryable.satisfies item field condition = true := by
  rw [admits_iff, admits_iff]
  constructor
  · exact fun h => ⟨fun other condition hother => h other condition
      (getElem?_withoutCondition.mp hother).2, h field⟩
  · rintro ⟨hothers, hfield⟩ other condition hother
    by_cases hequal : other = field
    · subst hequal
      exact hfield condition hother
    · exact hothers other condition (getElem?_withoutCondition.mpr ⟨hequal, hother⟩)

/-- A condition on a field replaces the one that was on it, and is asked for beside those on other
fields. -/
theorem admits_withCondition : (q.withCondition field condition).admits item
    = ((q.withoutCondition field).admits item && Queryable.satisfies item field condition) := by
  rw [Bool.eq_iff_iff, Bool.and_eq_true, admits_iff, admits_iff]
  constructor
  · exact fun h => ⟨fun other found hfound => h other found (getElem?_withCondition.mpr
      (Or.inr hfound)), h field condition (getElem?_withCondition.mpr (Or.inl ⟨rfl, rfl⟩))⟩
  · rintro ⟨hothers, hset⟩ other found hfound
    rcases getElem?_withCondition.mp hfound with ⟨rfl, rfl⟩ | hfound
    · exact hset
    · exact hothers other found hfound

/-! ### Pages -/

/-- What is on the page was in the list, and satisfies every condition. -/
theorem mem_run (hmem : item ∈ (q.run items).items) : item ∈ items ∧ q.admits item = true := by
  have hselect : item ∈ q.select items := Page.mem_of_mem_cut hmem
  rw [select, List.mem_mergeSort] at hselect
  exact List.mem_filter.mp hselect

/-- The total counts what is admitted, wherever the page is. So it is the same for all pages of a
list. -/
theorem totalCount_run : (q.run items).totalCount = (items.filter q.admits).length :=
  List.length_mergeSort _

/-- Nothing is found among nothing. -/
theorem run_nil : q.run ([] : List α) = ⟨0, []⟩ := by
  have hselect : q.select ([] : List α) = [] := List.mergeSort_nil
  rw [run, hselect, Page.cut]
  simp

/-- Without a limit and an offset, a page holds all that is admitted, and nothing else. -/
theorem mem_run_unpaged :
    item ∈ ((q.paged noLimit 0).run items).items ↔ item ∈ items ∧ q.admits item = true := by
  show item ∈ (items.filter q.admits).mergeSort _ ↔ _
  rw [List.mem_mergeSort, List.mem_filter]

/-- A condition that is set may as well be held against the items beforehand. -/
theorem run_withCondition : (q.withCondition field condition).run items
    = (q.withoutCondition field).run
        (items.filter fun item => Queryable.satisfies item field condition) := by
  have hadmits : (q.withCondition field condition).admits = fun item : α =>
      (q.withoutCondition field).admits item && Queryable.satisfies item field condition :=
    funext fun _ => admits_withCondition
  have hselect : (q.withCondition field condition).select items
      = (q.withoutCondition field).select
          (items.filter fun item => Queryable.satisfies item field condition) := by
    -- both orders are by the same field, so only the filters differ
    rw [select, select, List.filter_filter, hadmits]
    rfl
  rw [run, run, hselect]
  rfl

/-- A condition that leaves nothing out which the others admit makes no difference, neither to the
items nor to their count. -/
theorem run_withoutCondition (h : ∀ item ∈ items,
    (q.withoutCondition field).admits item = true → q.admits item = true) :
    (q.withoutCondition field).run items = q.run items := by
  have hselect : (q.withoutCondition field).select items = q.select items := by
    rw [select, select, List.filter_congr fun item hmem => ?_]
    · rfl
    · rw [Bool.eq_iff_iff]
      exact ⟨h item hmem, fun hadmits => ((admits_iff_withoutCondition field).mp hadmits).1⟩
  rw [run, run, hselect]
  rfl

end

/-- A conversion that no query can notice: it keeps the name and each field, and what conditions
hold. -/
structure KeepsFields {α β : Type} [Queryable α] [Queryable β] (f : α → β) : Prop where
  name : ∀ item, Queryable.name (f item) = Queryable.name item
  field : ∀ item, Queryable.field (f item) = Queryable.field item
  satisfies : ∀ item, Queryable.satisfies (f item) = Queryable.satisfies item

/-- Such a conversion of the items converts the page and nothing else. It is what lets the items be
filtered before or after they are converted. -/
theorem run_map {α β : Type} [Queryable α] [Queryable β] {f : α → β} (hf : KeepsFields f)
    (q : Query) (items : List α) : q.run (items.map f) = (q.run items).map f := by
  have hadmits : q.admits ∘ f = q.admits := by
    funext item
    simp only [Function.comp_apply, admits, hf.satisfies]
  have hcomparison : ∀ a b, q.comparison (f a) (f b) = q.comparison a b := by
    intro a b
    simp only [comparison, compareBy, hf.name, hf.field]
  have hselect : q.select (items.map f) = (q.select items).map f := by
    -- sorting is stable, so a conversion that keeps the comparison may come before or after it
    rw [select, select, List.filter_map, hadmits, List.map_mergeSort]
    exact fun a _ b _ => by rw [hcomparison]
  rw [run, run, hselect, Page.cut_map]

end Query

end AccessGateway
