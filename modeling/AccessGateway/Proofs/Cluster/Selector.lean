import AccessGateway.Cluster.Selector

/-!
# `AccessGateway.Proofs.Cluster.Selector`: what a selector requires

A selector walks the list of its requirements, in the order of their keys. `accepts_iff` reads the
walk as a statement on the map of requirements, in which the order is gone: whatever is required
under a key, the labels meet it.

The other lemmas give the selectors of a single requirement. Authorization uses two of them, the
one that requires nothing and the one that requires the label of a workspace; selectors that are
built in several steps are in `Proofs.Cluster.Requirement`.
-/

set_option autoImplicit false

namespace AccessGateway.Selector

/-- Labels meet one requirement: a value, or presence with any value. -/
def Meets (labels : TextMap) (key : String) : Option String → Prop
  | some value => labels[key]? = some value
  | none => key ∈ labels

/-- Labels are accepted when they meet the requirement of every key. A selector has one requirement
for a key, so nothing is asked of a label twice. -/
theorem accepts_iff (s : Selector) (labels : TextMap) :
    s.accepts labels = true
      ↔ ∀ key required, s.requirements[key]? = some required → Meets labels key required := by
  rw [accepts, List.all_eq_true]
  constructor
  · intro h key required hreq
    have hmem : (key, required) ∈ s.requirements.toList :=
      Std.ExtTreeMap.mem_toList_iff_getElem?_eq_some.mpr hreq
    have := h _ hmem
    cases required with
    | some value => simpa [Meets] using this
    | none => simpa [Meets] using this
  · rintro h ⟨key, required⟩ hmem
    have := h key required (Std.ExtTreeMap.mem_toList_iff_getElem?_eq_some.mp hmem)
    cases required with
    | some value => simpa [Meets] using this
    | none => simpa [Meets] using this

/-- The empty selector accepts all labels: it has no requirement that they could fail. -/
@[simp] theorem everything_accepts (labels : TextMap) : everything.accepts labels = true := by
  rw [accepts_iff]
  intro key required hreq
  simp [everything] at hreq

/-- A single requirement accepts exactly the labels that meet it. The selectors that require one
value or one key are cases of this. -/
theorem accepts_singleton_iff (labels : TextMap) (key : String) (required : Option String) :
    (⟨(∅ : Std.ExtTreeMap String (Option String)).insert key required⟩ : Selector).accepts labels
        = true
      ↔ Meets labels key required := by
  rw [accepts_iff]
  constructor
  · intro h
    exact h key required Std.ExtTreeMap.getElem?_insert_self
  · intro h k other hreq
    simp only [Std.ExtTreeMap.getElem?_insert, Std.compare_eq_iff_eq] at hreq
    split at hreq
    · rename_i hk
      subst hk
      cases hreq
      exact h
    · simp at hreq

/-- A single required value accepts exactly the labels that have it. -/
theorem everything_withLabel_accepts (labels : TextMap) (key value : String) :
    (everything.withLabel key value).accepts labels = true ↔ labels[key]? = some value :=
  accepts_singleton_iff labels key (some value)

/-- A single required key accepts exactly the labels that have a value for it. -/
theorem everything_withKey_accepts (labels : TextMap) (key : String) :
    (everything.withKey key).accepts labels = true ↔ key ∈ labels :=
  accepts_singleton_iff labels key none

end AccessGateway.Selector
