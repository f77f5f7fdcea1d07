import AccessGateway.Proofs.Lists
import AccessGateway.Proofs.Query.Parameter
import AccessGateway.Proofs.Text.Split

/-!
# `AccessGateway.Proofs.Query.Legacy`: every query has a form in the first generation

A query is written as a condition list with one term for each condition, an ordering, a direction,
a limit and an offset. What is written is read back: a term is cut at its operator, which no field
name contains, so a value may contain the operators again; and the list is cut at its commas, which
is why no value may contain one. A parameter that is given leaves no room for a default.

What can be written is said by `Query.IsWritable`: the interface has no way to speak of a field that
is not known, or of a number that is no signed word, and there is no escape for a comma. Nothing
else is left out, empty values and values with operators in them included.

* `Query.readTerm_termText`: a term is read back.
* `Query.readConditions_conditionsText`: so is a condition list.
* `Query.ofLegacyParameters_written`: so is the whole query, in whichever order its parameters come
  and whatever unknown parameters stand between them.
-/

set_option autoImplicit false

namespace AccessGateway

open Text (natText intText)
open Text.Numeral (maxSigned)

/-- The operator between the field and the value of a term, one for each kind of match. -/
def MatchKind.operator : MatchKind → Char
  | .exact => '='
  | .fuzzy => '~'

namespace Query

/-! ### Written queries -/

/-- A term of a condition list. -/
def termText (term : String × Condition) : List Char :=
  term.1.toList ++ term.2.kind.operator :: term.2.value.toList

/-- A condition list: terms with commas between them, and none at its ends. -/
def conditionsText (terms : List (String × Condition)) : String :=
  String.ofList ([','].intercalate (terms.map termText))

/-- A flag as a word. -/
def flagText (flag : Bool) : String := if flag then "true" else "false"

/-- The parameters that say all of a query, with its conditions in some order. Page and `paging` are
not among them, since the offset says more than both. -/
def legacyParameters (q : Query) (terms : List (String × Condition)) : List (String × String) :=
  [(Parameter.conditions, conditionsText terms), (Parameter.orderBy, q.orderBy),
    (Parameter.reverse, flagText q.reverse), (Parameter.limit, intText q.limit),
    (Parameter.offset, natText q.offset)]

/-- The keys of the parameters that the first generation knows. All others are ignored. -/
def legacyKeys : List String :=
  [Parameter.conditions, Parameter.paging, Parameter.orderBy, Parameter.reverse, Parameter.limit,
    Parameter.offset, Parameter.page]

/-- What a query must be like to be written: its fields are known, no value has a comma, and its
numbers are within the bounds of their words. -/
structure IsWritable (q : Query) : Prop where
  orderBy : q.orderBy ∈ FieldName.known
  field : ∀ term ∈ q.conditions.toList, term.1 ∈ FieldName.known
  value : ∀ term ∈ q.conditions.toList, ',' ∉ term.2.value.toList
  limit : noLimit ≤ q.limit ∧ q.limit ≤ maxSigned
  offset : q.offset ≤ maxSigned

/-! ### Terms -/

/-- Known field names contain none of the characters that a condition list is cut at, as can be seen
from each of them. -/
theorem not_separator_of_mem_known {field : String} (hfield : field ∈ FieldName.known) :
    ∀ c ∈ field.toList, c ≠ ',' ∧ c ≠ '=' ∧ c ≠ '~' := by
  have hknown : (FieldName.known.all fun field =>
      field.toList.all fun c => c ≠ ',' ∧ c ≠ '=' ∧ c ≠ '~') = true := by
    decide
  intro c hc
  exact of_decide_eq_true (List.all_eq_true.mp (List.all_eq_true.mp hknown field hfield) c hc)

/-- A term is cut at its operator, whatever its value contains, since that is the first one. -/
theorem readTerm_termText {field : String} (condition : Condition)
    (hfield : field ∈ FieldName.known) :
    readTerm (termText (field, condition)) = .ok (field, condition) := by
  obtain ⟨kind, value⟩ := condition
  have hname : ∀ c ∈ field.toList, (c == '=' || c == '~') = false := by
    intro c hc
    have hc := not_separator_of_mem_known hfield c hc
    simp [hc.2.1, hc.2.2]
  have hoperator : (kind.operator == '=' || kind.operator == '~') = true := by
    cases kind <;> rfl
  have hcut := Text.splitFirst?_append value.toList hname hoperator
  rw [readTerm, termText, hcut]
  simp only [String.ofList_toList, Parameter.readField, if_pos hfield]
  cases kind <;> rfl

/-- A term holds its operator, and a comma only where its value does. -/
theorem termText_ne_nil_and_comma_not_mem {term : String × Condition}
    (hfield : term.1 ∈ FieldName.known) (hvalue : ',' ∉ term.2.value.toList) :
    termText term ≠ [] ∧ ',' ∉ termText term := by
  have hoperator : ',' ≠ term.2.kind.operator := by
    cases term.2.kind <;> decide
  rw [termText, List.mem_append, List.mem_cons]
  refine ⟨List.append_ne_nil_of_right_ne_nil _ (List.cons_ne_nil _ _), ?_⟩
  rintro (hname | hsep | hrest)
  · exact (not_separator_of_mem_known hfield ',' hname).1 rfl
  · exact hoperator hsep
  · exact hvalue hrest

/-! ### Condition lists -/

/-- A condition list is read back, in whatever order its terms are written: no two of them are on
one field. -/
theorem readConditions_conditionsText {q : Query} {terms : List (String × Condition)}
    (hq : q.IsWritable) (hterms : terms.Perm q.conditions.toList) :
    readConditions (conditionsText terms) = .ok q.conditions := by
  have hfields : ∀ term ∈ terms, term.1 ∈ FieldName.known := fun term hterm =>
    hq.field term (hterms.mem_iff.mp hterm)
  have hparts : ∀ part ∈ terms.map termText, part ≠ [] ∧ ',' ∉ part := by
    intro part hpart
    obtain ⟨term, hterm, rfl⟩ := List.mem_map.mp hpart
    exact termText_ne_nil_and_comma_not_mem (hfields term hterm)
      (hq.value term (hterms.mem_iff.mp hterm))
  have hread : (terms.map termText).mapM' readTerm = .ok terms :=
    mapM'_map_of_pure fun term hterm => readTerm_termText term.2 (hfields term hterm)
  rw [readConditions, conditionsText, String.toList_ofList, Text.nonemptyPieces_intercalate hparts,
    hread]
  exact congrArg Except.ok (foldl_insert_of_perm hterms)

/-! ### Queries -/

/-- A flag is read back from its word. -/
theorem readFlag_flagText (parameter : String) (flag : Bool) :
    Parameter.readFlag parameter (flagText flag) = .ok flag := by
  cases flag <;> rfl

/-- No key comes twice among the parameters of a written query. -/
theorem nodup_legacyParameters (q : Query) (terms : List (String × Condition)) :
    ((q.legacyParameters terms).map Prod.fst).Nodup := by
  have hkeys : [Parameter.conditions, Parameter.orderBy, Parameter.reverse, Parameter.limit,
    Parameter.offset].Nodup := by decide
  exact hkeys

/-- A query is read back from its parameters, in whichever order they and its conditions come, and
whatever parameters that the first generation does not know stand between them. It must be one that
can be written: fields that are known, values without a comma and numbers that are words
(`IsWritable`). -/
theorem ofLegacyParameters_written {q : Query} {terms : List (String × Condition)}
    {parameters : List (String × String)} (hq : q.IsWritable)
    (hterms : terms.Perm q.conditions.toList)
    (hparameters : (parameters.filter fun parameter => legacyKeys.contains parameter.1).Perm
      (q.legacyParameters terms)) :
    ofLegacyParameters parameters = .ok q := by
  have hnodup := nodup_legacyParameters q terms
  -- what is written under a known key is what counts, and nothing else is written
  have hvalue : ∀ key ∈ legacyKeys,
      lastValue parameters key = lastValue (q.legacyParameters terms) key := fun key hkey =>
    (lastValue_filter legacyKeys.contains (List.contains_iff_mem.mpr hkey)).symm.trans
      (lastValue_perm hparameters hnodup key)
  rw [ofLegacyParameters_eq_ok_iff, hvalue Parameter.conditions (by decide),
    hvalue Parameter.orderBy (by decide), hvalue Parameter.reverse (by decide),
    hvalue Parameter.paging (by decide), hvalue Parameter.limit (by decide),
    hvalue Parameter.page (by decide), hvalue Parameter.offset (by decide)]
  exact ⟨readConditions_conditionsText hq hterms, if_pos hq.orderBy, readFlag_flagText _ q.reverse,
    ⟨legacyLimit, none⟩, none, rfl, Parameter.readLimit_intText hq.limit.1 hq.limit.2, rfl,
    Parameter.readOffset_natText hq.offset⟩

/-- Operators in a value, an empty value, the limit that stands for none and the largest offset come
back, and neither the other generation's ordering nor a stray parameter makes a difference. -/
theorem ofLegacyParameters_written_operators :
    let q : Query := (((everything.withCondition FieldName.label (.exact "app=web~1")).withCondition
      FieldName.name (.fuzzy "")).orderedBy FieldName.status true).paged noLimit maxSigned
    let parameters := [("offset", "9223372036854775807"), ("sortBy", "name"), ("limit", "-1"),
      ("conditions", "name~,label=app=web~1"), ("reverse", "true"), ("trace", "on"),
      ("orderBy", "status")]
    q.IsWritable ∧ ofLegacyParameters parameters = .ok q := by
  intro q parameters
  have hq : q.IsWritable := ⟨by decide, by decide, by decide, by decide, by decide⟩
  have hterms : [(FieldName.name, Condition.fuzzy ""), (FieldName.label, .exact "app=web~1")].Perm
      q.conditions.toList := by decide
  have hlimit : intText noLimit = "-1" := by
    show String.ofList ('-' :: Text.Numeral.ofNat 1) = "-1"
    rw [Text.Numeral.ofNat]
    rfl
  refine ⟨hq, ofLegacyParameters_written hq hterms ?_⟩
  show List.Perm _ [_, _, _, (_, intText noLimit), (_, natText maxSigned)]
  rw [hlimit, Text.natText_maxSigned]
  decide

end Query

end AccessGateway
