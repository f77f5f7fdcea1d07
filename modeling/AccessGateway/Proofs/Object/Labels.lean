import AccessGateway.Proofs.Object.Fields
import AccessGateway.Proofs.Query.Page
import AccessGateway.Proofs.Text.Split

/-!
# `AccessGateway.Proofs.Object.Labels`: conditions on labels and selectors

Labels can be asked for in three ways: by a selector, by a condition on the field `label` that is
written as one text, and, where it is the workspace, by a condition on a field of its own. The text
of a condition is cut at the first `=`, so a key without one can be told from any value, and the
value may have as many as it likes. That the key has none is the only thing that is asked.

A condition that gives a bare key is about its presence, and so it does not matter whether it is
exact or not. One that gives a value has to be exact, as selectors know of no other comparison.

* `Metadata.mapSatisfies_pair`, `Metadata.mapSatisfies_key`: what the two forms of a text ask of a
  map.
* `Section.satisfies_eq_accepts`: the three ways agree on the objects of every section.
-/

set_option autoImplicit false

namespace AccessGateway

namespace Text

/-- A text without a separator is not cut. -/
theorem splitOnce?_eq_none {sep : Char} {text : List Char} (hsep : sep ∉ text) :
    splitOnce? sep text = none := by
  refine Option.eq_none_iff_forall_ne_some.mpr fun ⟨before, after⟩ hcut => ?_
  obtain ⟨rfl, -⟩ := splitOnce?_eq_some_iff.mp hcut
  exact hsep (List.mem_append_right _ List.mem_cons_self)

end Text

namespace Metadata

section
variable (map : TextMap) (kind : MatchKind) {key : String} (hkey : '=' ∉ key.toList)
include hkey

/-- A key and a value ask for the value of that key, and compare it as the condition does. -/
theorem mapSatisfies_pair (value : String) :
    mapSatisfies map ⟨kind, key ++ "=" ++ value⟩
      = map[key]?.any (Condition.mk kind value).accepts := by
  have htext : (key ++ "=" ++ value).toList = key.toList ++ '=' :: value.toList := by
    rw [String.toList_append, String.toList_append, List.append_assoc]
    rfl
  rw [mapSatisfies, htext, Text.splitOnce?_append '=' key.toList value.toList hkey]
  simp only [String.ofList_toList]

/-- A bare key asks for its presence, exactly or not. -/
theorem mapSatisfies_key : mapSatisfies map ⟨kind, key⟩ = map.contains key := by
  rw [mapSatisfies, Text.splitOnce?_eq_none hkey]

end

end Metadata

/-- For the objects of every section, a condition on the labels that gives a key and a value selects
what a selector with that value does, one that gives a key alone what a selector with that key does,
and one on the workspace what a selector with the label of the workspace does. -/
theorem Section.satisfies_eq_accepts (part : Section) (object : part.Object) (value : String) :
    let labels := (ClusterObject.metadata object).labels
    (∀ key, '=' ∉ key.toList →
      Queryable.satisfies object FieldName.label (.exact (key ++ "=" ++ value))
          = (Selector.everything.withLabel key value).accepts labels ∧
        ∀ kind, Queryable.satisfies object FieldName.label ⟨kind, key⟩
          = (Selector.everything.withKey key).accepts labels) ∧
    Queryable.satisfies object FieldName.workspace (.exact value)
      = (Selector.everything.withLabel workspaceLabel value).accepts labels := by
  intro labels
  have hlabel : ∀ condition, Queryable.satisfies object FieldName.label condition
      = Metadata.mapSatisfies labels condition :=
    fun condition => part.readsMetadata.satisfies object condition (by decide)
  have hworkspace : Queryable.satisfies object FieldName.workspace (.exact value)
      = Queryable.satisfiesBy labels[workspaceLabel]? (.exact value) :=
    part.readsMetadata.satisfies object (.exact value) (by decide)
  refine ⟨fun key hkey => ⟨?_, fun kind => ?_⟩, ?_⟩
  · -- the text is cut behind the key, whatever stands in the value
    rw [hlabel, Condition.exact, Metadata.mapSatisfies_pair labels .exact hkey, Bool.eq_iff_iff,
      Selector.everything_withLabel_accepts]
    exact Query.satisfiesBy_exact_iff
  · rw [hlabel, Metadata.mapSatisfies_key labels kind hkey, Bool.eq_iff_iff,
      Selector.everything_withKey_accepts, Std.ExtTreeMap.mem_iff_contains]
  · rw [hworkspace, Bool.eq_iff_iff, Selector.everything_withLabel_accepts]
    exact Query.satisfiesBy_exact_iff

/-- An account with a label whose value holds the separator: the condition is cut at the first one,
so the value is compared whole. -/
theorem Section.satisfies_eq_accepts_separatorInValue :
    let alice : User := .ofMetadata ((Metadata.named "alice").withLabel "app" "a=b")
    '=' ∉ "app".toList ∧
    Queryable.satisfies alice FieldName.label (.exact "app=a=b")
      = (Selector.everything.withLabel "app" "a=b").accepts alice.metadata.labels ∧
    (Selector.everything.withLabel "app" "a=b").accepts alice.metadata.labels = true := by
  intro alice
  have hkey : '=' ∉ "app".toList := by decide
  have hagree := (Section.users.satisfies_eq_accepts alice "a=b").1 "app" hkey
  exact ⟨hkey, hagree.1, by decide⟩

end AccessGateway
