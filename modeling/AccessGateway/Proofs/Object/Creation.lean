import AccessGateway.Proofs.Object.Fields
import AccessGateway.Proofs.Object.Wire
import AccessGateway.Proofs.Query.Order
import AccessGateway.Proofs.Time.Chronology

/-!
# `AccessGateway.Proofs.Object.Creation`: objects in the order of their creation

The creation time is a field by two names, and a list is ordered by one of them unless something
else is asked for. What is compared is the text of the second in which an object was created, which
within the years of four digits is as good as that second, so that a list is in the order of time
and, within a second, in that of the names.

Three things are put together here. By either name the field is left to the metadata, by every kind
of object (`ReadsMetadata`). A query orders by a rank, which is the text of the second and the name
(`Query.rank_of_isByCreation`). And the texts of two seconds are in the order of the seconds, leap
seconds included. The order that comes out is stated on the times themselves (`InCreationOrder`).

* `Query.inCreationOrder_of_inOrder`: what may stand in front of what in such a list.
* `Query.pairwise_select_created`: the whole list.
* `StoredObject.listed_byCreation`: objects of any kind.
-/

set_option autoImplicit false

namespace AccessGateway

/-- One object may stand in front of another in a list by creation: the second in which it was
created is the earlier one, or it is the same and its name is not the later one. -/
inductive InCreationOrder {α : Type} [ClusterObject α] (a b : α) : Prop where
  | earlier (h : (ClusterObject.metadata a).created.wholeSecond.Before
      (ClusterObject.metadata b).created.wholeSecond)
  | tie (hsecond : (ClusterObject.metadata a).created.wholeSecond
      = (ClusterObject.metadata b).created.wholeSecond)
      (h : Text.utf8 (ClusterObject.metadata a).name ≤ Text.utf8 (ClusterObject.metadata b).name)

/-- The query orders by creation time, by one name of the field or the other. -/
def Query.IsByCreation (q : Query) : Prop :=
  q.orderBy = FieldName.createTime ∨ q.orderBy = FieldName.creationTimestamp

/-- By either name, the field has the text of the second. -/
theorem Metadata.field_created (m : Metadata) {field : String}
    (hfield : field = FieldName.createTime ∨ field = FieldName.creationTimestamp) :
    m.field field = some m.created.secondText := by
  rcases hfield with rfl | rfl <;> rfl

namespace Query

section
variable {α : Type} [ClusterObject α] {q : Query} {items : List α} {a b : α}

/-- In a list that is ordered by creation, an object ranks by the text of its creation second, and
then by its name. No object is without a creation time. -/
theorem rank_of_isByCreation (hα : ReadsMetadata α) (hq : q.IsByCreation) (object : α) :
    q.rank object = ⟨some (ClusterObject.metadata object).created.secondText,
      (ClusterObject.metadata object).name⟩ := by
  have hkind : q.orderBy ∉ FieldName.ofKind := by
    rcases hq with h | h <;> rw [h] <;> decide
  rw [rank, hα.name, hα.field object hkind, Metadata.field_created _ hq]

/-- An object whose rank comes first was created first, or in the same second as one with a later
name. -/
theorem inCreationOrder_of_rank (hα : ReadsMetadata α) (hq : q.IsByCreation)
    (ha : (ClusterObject.metadata a).created.HasFourDigitYear)
    (hb : (ClusterObject.metadata b).created.HasFourDigitYear)
    (h : q.rank a = q.rank b ∨ (q.rank a).Before (q.rank b)) : InCreationOrder a b := by
  rw [rank_of_isByCreation hα hq, rank_of_isByCreation hα hq] at h
  rcases h with hsame | hbefore
  · obtain ⟨htext, hname⟩ := (Rank.mk.injEq ..).mp hsame
    refine .tie ((Time.Timestamp.secondText_eq_iff ha hb).mp (Option.some.inj htext)) ?_
    rw [hname]
    exact List.le_refl _
  · -- both ranks have a text, so an object without one is not in front of anything here
    generalize htext : some (ClusterObject.metadata a).created.secondText = text at hbefore
    generalize htext' : some (ClusterObject.metadata b).created.secondText = text' at hbefore
    cases hbefore with
    | absent => cases htext
    | value _ _ hlt =>
      cases htext
      cases htext'
      exact .earlier ((Time.Timestamp.secondText_lt_iff ha hb).mp (Text.utf8_lt_iff.mp hlt))
    | name _ hlt =>
      refine .tie ((Time.Timestamp.secondText_eq_iff ha hb).mp ?_) (List.le_of_lt hlt)
      exact Option.some.inj (htext.trans htext'.symm)

/-- What may stand in front of what, in either direction. Reversed, the names of one second are
reversed too. -/
theorem inCreationOrder_of_inOrder (hα : ReadsMetadata α) (hq : q.IsByCreation)
    (ha : (ClusterObject.metadata a).created.HasFourDigitYear)
    (hb : (ClusterObject.metadata b).created.HasFourDigitYear) (h : q.InOrder a b) :
    if q.reverse then InCreationOrder b a else InCreationOrder a b := by
  rw [InOrder] at h
  split
  · rename_i hreverse
    rw [if_pos hreverse] at h
    exact inCreationOrder_of_rank hα hq hb ha (h.imp_left Eq.symm)
  · rename_i hreverse
    rw [if_neg hreverse] at h
    exact inCreationOrder_of_rank hα hq ha hb h

/-- A list by creation is in that order, or in the reversed one, whatever else the query asks
for. -/
theorem pairwise_select_created (hα : ReadsMetadata α) (hq : q.IsByCreation)
    (hitems : ∀ item ∈ items, (ClusterObject.metadata item).created.HasFourDigitYear) :
    (q.select items).Pairwise fun a b =>
      if q.reverse then InCreationOrder b a else InCreationOrder a b := by
  have hmem : ∀ item ∈ q.select items, (ClusterObject.metadata item).created.HasFourDigitYear :=
    fun item hitem => hitems item (List.mem_filter.mp (select_perm.mem_iff.mp hitem)).1
  refine pairwise_select.imp_of_mem fun ha hb h => ?_
  exact inCreationOrder_of_inOrder hα hq (hmem _ ha) (hmem _ hb) h

end

end Query

namespace StoredObject

/-- For objects that were created in years of four digits, the texts of their creation times are in
the order of the seconds in which they were created, and are the same only for the same second. So
a list by creation time, in which order a query puts everything unless it asks for another, is in
the order of these seconds and then of the names, or the other way round if it is reversed. -/
theorem listed_byCreation :
    (∀ a b : StoredObject, a.created.HasFourDigitYear → b.created.HasFourDigitYear →
      ∃ text text', Queryable.field a FieldName.createTime = some text ∧
        Queryable.field b FieldName.createTime = some text' ∧
        (Text.utf8 text < Text.utf8 text'
          ↔ a.created.wholeSecond.Before b.created.wholeSecond) ∧
        (text = text' ↔ a.created.wholeSecond = b.created.wholeSecond)) ∧
    Query.everything.IsByCreation ∧ Query.everything.reverse = false ∧
    ∀ (q : Query) (items : List StoredObject), q.IsByCreation →
      (∀ item ∈ items, item.created.HasFourDigitYear) →
        (q.select items).Perm (items.filter q.admits) ∧
        (q.select items).Pairwise fun a b =>
          if q.reverse then InCreationOrder b a else InCreationOrder a b := by
  refine ⟨fun a b ha hb => ?_, Or.inl rfl, rfl, fun q items hq hitems => ?_⟩
  · have hfield : ∀ object : StoredObject,
        Queryable.field object FieldName.createTime = some object.created.secondText := by
      intro object
      rw [readsMetadata.field object (by decide), Metadata.field_created _ (Or.inl rfl), created]
    refine ⟨_, _, hfield a, hfield b, ?_, Time.Timestamp.secondText_eq_iff ha hb⟩
    rw [Text.utf8_lt_iff]
    exact Time.Timestamp.secondText_lt_iff ha hb
  · exact ⟨Query.select_perm, Query.pairwise_select_created readsMetadata hq hitems⟩

/-- A project that was created in the second behind the leap second in which `leapAccount` was. -/
def lateProject : StoredObject :=
  .other (.ofMetadata { Metadata.named "a" with
    created := { second := 1483228800, nano := 250000000, leap := false } })

/-- A project that was created in the second that the leap second follows. -/
def earlyProject : StoredObject :=
  .other (.ofMetadata { Metadata.named "z" with
    created := { second := 1483228799, nano := 900000000, leap := false } })

/-- Objects around a leap second, listed against the order of their names. The second that is
counted as sixty comes before the next day by its text, as it does in time. -/
theorem listed_byCreation_leapSecond :
    let items := [lateProject, user leapAccount, earlyProject]
    (∀ item ∈ items, item.created.HasFourDigitYear) ∧
    (user leapAccount).created.wholeSecond.Before lateProject.created.wholeSecond ∧
    Text.utf8 "2016-12-31T23:59:60Z" < Text.utf8 "2017-01-01T00:00:00Z" ∧
    (Query.everything.select items).Pairwise InCreationOrder := by
  intro items
  have hyears : ∀ item ∈ items, item.created.HasFourDigitYear := by decide +kernel
  have hbefore : (user leapAccount).created.wholeSecond.Before lateProject.created.wholeSecond :=
    .bySecond (by decide)
  have hleap : Queryable.field (user leapAccount) FieldName.createTime
      = some "2016-12-31T23:59:60Z" := by decide +kernel
  have hlate : Queryable.field lateProject FieldName.createTime
      = some "2017-01-01T00:00:00Z" := by decide +kernel
  obtain ⟨hfields, hdefault, -, hlist⟩ := listed_byCreation
  obtain ⟨text, text', htext, htext', hlt, -⟩ := hfields (user leapAccount) lateProject
    (hyears _ (by simp [items])) (hyears _ (by simp [items]))
  obtain rfl := Option.some.inj (hleap.symm.trans htext)
  obtain rfl := Option.some.inj (hlate.symm.trans htext')
  exact ⟨hyears, hbefore, hlt.mpr hbefore, (hlist .everything items hdefault hyears).2⟩

end StoredObject

end AccessGateway
