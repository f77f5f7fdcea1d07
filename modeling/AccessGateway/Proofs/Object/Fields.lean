import AccessGateway.Proofs.Cluster.Reachable
import AccessGateway.Resource.Searcher

/-!
# `AccessGateway.Proofs.Object.Fields`: what objects read from their metadata

Each kind of object answers for its own fields and conditions, in two functions that need not know
of each other. The fields in which the kinds differ are few (`FieldName.ofKind`), and for any other
name a kind turns to the metadata, whether it is asked for the value or for a condition
(`ReadsMetadata`).

What is shown of creation times, labels or the workspace is then shown once, of the metadata, and
holds for the objects of all sections. A new kind of object would only have to be shown to read its
metadata.

* `Section.readsMetadata`, `StoredObject.readsMetadata`: the objects of every section do so, and so
  do objects of any kind.
-/

set_option autoImplicit false

namespace AccessGateway

/-- The fields that an object may have by its kind. All other fields mean the same for every
kind. -/
def FieldName.ofKind : List String := [email, state, status]

/-- Objects that leave name and all fields to their metadata, except for those of their kind. -/
structure ReadsMetadata (α : Type) [ClusterObject α] : Prop where
  name : ∀ object : α, Queryable.name object = (ClusterObject.metadata object).name
  field : ∀ (object : α) {field : String}, field ∉ FieldName.ofKind →
    Queryable.field object field = (ClusterObject.metadata object).field field
  satisfies : ∀ (object : α) {field : String} (condition : Condition), field ∉ FieldName.ofKind →
    Queryable.satisfies object field condition
      = (ClusterObject.metadata object).satisfies field condition

/-- Three fields mean something for some kinds of objects only; of all others each kind answers by
its metadata. -/
theorem FieldName.not_mem_ofKind_iff {field : String} :
    field ∉ ofKind ↔ field ≠ email ∧ field ≠ state ∧ field ≠ status := by
  simp [ofKind]

/-- An account has an address and a state of its own, and answers for all other fields by its
metadata. -/
theorem User.readsMetadata : ReadsMetadata User where
  name _ := rfl
  field u name hname := by
    obtain ⟨hemail, hstate, hstatus⟩ := FieldName.not_mem_ofKind_iff.mp hname
    show u.field name = _
    rw [User.field, if_neg hemail, if_neg (not_or.mpr ⟨hstate, hstatus⟩)]
    rfl
  satisfies u name condition hname := by
    obtain ⟨hemail, hstate, hstatus⟩ := FieldName.not_mem_ofKind_iff.mp hname
    show u.satisfies name condition = _
    rw [User.satisfies, if_neg (not_or.mpr ⟨hemail, not_or.mpr ⟨hstate, hstatus⟩⟩)]
    rfl

/-- A role has nothing but its metadata to show, whatever rules it has. -/
theorem Role.readsMetadata : ReadsMetadata Role where
  name _ := rfl
  field _ _ _ := rfl
  satisfies _ _ _ _ := rfl

/-- Nor has a binding, whatever it binds. -/
theorem RoleBinding.readsMetadata : ReadsMetadata RoleBinding where
  name _ := rfl
  field _ _ _ := rfl
  satisfies _ _ _ _ := rfl

/-- An object of no special kind has a status of its own, and answers for all other fields by its
metadata. -/
theorem OpaqueObject.readsMetadata : ReadsMetadata OpaqueObject where
  name _ := rfl
  field object name hname := by
    obtain ⟨-, -, hstatus⟩ := FieldName.not_mem_ofKind_iff.mp hname
    show object.field name = _
    rw [OpaqueObject.field, if_neg hstatus]
    rfl
  satisfies object name condition hname := by
    obtain ⟨-, -, hstatus⟩ := FieldName.not_mem_ofKind_iff.mp hname
    show object.satisfies name condition = _
    rw [OpaqueObject.satisfies, if_neg hstatus]
    rfl

/-- The objects of every section leave all other fields to their metadata. -/
theorem Section.readsMetadata : (part : Section) → ReadsMetadata part.Object
  | .users => User.readsMetadata
  | .globalRoles | .workspaceRoles | .roles => Role.readsMetadata
  | .globalRoleBindings | .workspaceRoleBindings | .roleBindings => RoleBinding.readsMetadata
  | .namespaces | .workspaces | .workspaceTemplates | .devopsProjects
  | .builders | .buildRuns | .builderTemplates => OpaqueObject.readsMetadata

/-- So do objects of which the kind is not fixed. -/
theorem StoredObject.readsMetadata : ReadsMetadata StoredObject where
  name _ := rfl
  field object _ hname := by
    cases object with
    | user u => exact User.readsMetadata.field u hname
    | role r => exact Role.readsMetadata.field r hname
    | binding b => exact RoleBinding.readsMetadata.field b hname
    | other o => exact OpaqueObject.readsMetadata.field o hname
  satisfies object _ condition hname := by
    cases object with
    | user u => exact User.readsMetadata.satisfies u condition hname
    | role r => exact Role.readsMetadata.satisfies r condition hname
    | binding b => exact RoleBinding.readsMetadata.satisfies b condition hname
    | other o => exact OpaqueObject.readsMetadata.satisfies o condition hname

end AccessGateway
