import AccessGateway.Proofs.Object.Fields
import AccessGateway.Proofs.Text.Split

/-!
# `AccessGateway.Proofs.Object.Conditions`: conditions on the values that lists are ordered by

A list is filtered by what objects say of a condition, and ordered by what they say of a field. Each
kind of object answers the two questions in functions of its own, with its own special fields. A
condition on labels or annotations is about a whole map, which is no value to order by; on every
other field the two answers agree (`FiltersByValue`).

The agreement is one equation for each kind, between what is said of a condition and what the value
of the field would say. Outside of the special fields of the kinds it is the same equation for all
of them, that of the metadata. The three properties of `FiltersByValue` follow from it: a condition
holds when it accepts the value, an absent field satisfies none, and the condition that accepts
every value tells whether there is one.

* `ReadsMetadata.satisfies_eq`: where objects leave the answers to their metadata, these agree.
* `objects_filterByValue`: no kind of object has answers that disagree.
-/

set_option autoImplicit false

namespace AccessGateway

/-- Objects that are filtered by the values of their fields. A condition holds exactly when there is
a value that it accepts, so none holds of a field that is absent, and the one that accepts every
value asks whether there is any. -/
structure FiltersByValue (α : Type) [Queryable α] : Prop where
  satisfies_iff : ∀ (object : α) {field : String}, field ≠ FieldName.label →
    field ≠ FieldName.annotation → ∀ condition,
      (Queryable.satisfies object field condition = true
        ↔ ∃ value, Queryable.field object field = some value ∧ condition.accepts value = true)
  of_absent : ∀ (object : α) {field : String}, field ≠ FieldName.label →
    field ≠ FieldName.annotation → Queryable.field object field = none →
      ∀ condition, Queryable.satisfies object field condition = false
  fuzzy_empty_iff : ∀ (object : α) {field : String}, field ≠ FieldName.label →
    field ≠ FieldName.annotation →
      (Queryable.satisfies object field (.fuzzy "") = true
        ↔ (Queryable.field object field).isSome = true)

/-- Every value has the empty text as a part. -/
theorem Condition.accepts_fuzzy_empty (value : String) : (fuzzy "").accepts value = true := by
  show Text.contains [] value.toList = true
  exact Text.contains_iff.mpr List.nil_infix

/-- It is enough that conditions are decided by the value of their field. -/
theorem FiltersByValue.of_eq {α : Type} [Queryable α]
    (heq : ∀ (object : α) {field : String}, field ≠ FieldName.label →
      field ≠ FieldName.annotation → ∀ condition,
        Queryable.satisfies object field condition
          = Queryable.satisfiesBy (Queryable.field object field) condition) :
    FiltersByValue α where
  satisfies_iff object field hlabel hnote condition := by
    rw [heq object hlabel hnote, Queryable.satisfiesBy, Option.any_eq_true]
  of_absent object field hlabel hnote habsent condition := by
    rw [heq object hlabel hnote, habsent]
    rfl
  fuzzy_empty_iff object field hlabel hnote := by
    rw [heq object hlabel hnote, Queryable.satisfiesBy, Option.any_eq_true,
      Option.isSome_iff_exists]
    simp only [Condition.accepts_fuzzy_empty, and_true]

section
variable {field : String} (hlabel : field ≠ FieldName.label)
  (hnote : field ≠ FieldName.annotation) (condition : Condition)
include hlabel hnote

/-- Metadata are filtered by their values, except for the two maps, whatever the other fields
are. -/
theorem Metadata.satisfies_eq (m : Metadata) :
    m.satisfies field condition = Queryable.satisfiesBy (m.field field) condition := by
  rw [satisfies, if_neg hlabel, if_neg hnote]

/-- Where an object leaves both answers to its metadata, they agree, for all kinds at once. -/
theorem ReadsMetadata.satisfies_eq {α : Type} [ClusterObject α] (h : ReadsMetadata α) (object : α)
    (hkind : field ∉ FieldName.ofKind) :
    Queryable.satisfies object field condition
      = Queryable.satisfiesBy (Queryable.field object field) condition := by
  rw [h.satisfies object condition hkind, h.field object hkind,
    Metadata.satisfies_eq hlabel hnote]

/-- The address and the state of an account are looked up for a condition as they are for the
order, so an empty address and an absent state satisfy none. -/
theorem User.satisfies_eq (u : User) :
    u.satisfies field condition = Queryable.satisfiesBy (u.field field) condition := by
  by_cases hkind : field = FieldName.email ∨ field = FieldName.state ∨ field = FieldName.status
  · rw [satisfies, if_pos hkind]
  · have hplain : field ∉ FieldName.ofKind :=
      FieldName.not_mem_ofKind_iff.mpr (by simpa only [not_or] using hkind)
    exact User.readsMetadata.satisfies_eq hlabel hnote condition u hplain

/-- So is the status of an object of no special kind, phase before state; that it has neither
address nor state of its own is left to the metadata both times. -/
theorem OpaqueObject.satisfies_eq (object : OpaqueObject) :
    object.satisfies field condition = Queryable.satisfiesBy (object.field field) condition := by
  by_cases hstatus : field = FieldName.status
  · rw [satisfies, if_pos hstatus]
  · rw [satisfies, if_neg hstatus, OpaqueObject.field, if_neg hstatus,
      Metadata.satisfies_eq hlabel hnote]

end

/-- Accounts, roles, bindings and objects of no special kind are filtered by the values of their
fields: a condition on a field other than label and annotation holds of an object exactly when the
object has that field and its value meets the condition. Some types have fields of their own, or
answer for a field from elsewhere than the others do, and on these too the two answers agree. -/
theorem objects_filterByValue : FiltersByValue User ∧ FiltersByValue Role ∧
    FiltersByValue RoleBinding ∧ FiltersByValue OpaqueObject := by
  refine ⟨.of_eq fun u _ hlabel hnote condition => ?_,
    .of_eq fun role _ hlabel hnote condition => ?_,
    .of_eq fun binding _ hlabel hnote condition => ?_,
    .of_eq fun object _ hlabel hnote condition => ?_⟩
  · exact u.satisfies_eq hlabel hnote condition
  · exact role.metadata.satisfies_eq hlabel hnote condition
  · exact binding.metadata.satisfies_eq hlabel hnote condition
  · exact object.satisfies_eq hlabel hnote condition

end AccessGateway
