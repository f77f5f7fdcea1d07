import AccessGateway.Query.Parameter

/-!
# `AccessGateway.Query.Current`: list parameters of the current generation

Parameters are taken one after the other: `limit`, `page`, `sortBy` and `ascending`, and any
known field name as a filter on that field. The page number counts only at the end, when the
limit is known.

The first parameter that cannot be taken ends the reading. Unlike in the first generation a key that
is not known is refused, and a value counts as refused even where a later one with its key would
have replaced it.
-/

set_option autoImplicit false

namespace AccessGateway.Query

/-- A query under construction: all but the offset, and the page number given so far. The offset of
the query is not looked at before the end. -/
structure Draft where
  query : Query
  page : Option Int

namespace Draft

/-- Newest first, and everything, which is what is asked for without any parameter. -/
def start : Draft :=
  ⟨{ everything with orderBy := FieldName.creationTimestamp, reverse := true }, none⟩

/-- A filter on the name asks for a part of it, any other for the whole value. -/
def filterCondition (field value : String) : Condition :=
  if field = FieldName.name then .fuzzy value else .exact value

/-- Takes one parameter. The four keys that are no fields come first, and none of them is the name
of a field. -/
def take (draft : Draft) (parameter : String × String) : Except QueryFault Draft :=
  let (key, value) := parameter
  if key = Parameter.limit then do
    return { draft with query := { draft.query with limit := ← Parameter.readLimit value } }
  else if key = Parameter.page then do
    return { draft with page := some (← Parameter.readPage value) }
  else if key = Parameter.sortBy then do
    return { draft with query := { draft.query with orderBy := ← Parameter.readField value } }
  else if key = Parameter.ascending then do
    let ascending ← Parameter.readFlag Parameter.ascending value
    return { draft with query := { draft.query with reverse := !ascending } }
  else do
    let field ← Parameter.readField key
    return { draft with query := draft.query.withCondition field (filterCondition field value) }

/-- The query with the offset of its page, which depends on the last limit and on the last page. -/
def finish (draft : Draft) : Query :=
  { draft.query with offset := Parameter.offsetOfPage draft.page draft.query.limit }

end Draft

/-- The query that parameters of the current generation ask for, or why the first of those that
cannot be taken is refused. -/
def ofParameters (parameters : List (String × String)) : Except QueryFault Query :=
  (parameters.foldlM Draft.take Draft.start).map Draft.finish

end AccessGateway.Query
