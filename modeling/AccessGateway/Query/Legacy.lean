import AccessGateway.Query.Parameter

/-!
# `AccessGateway.Query.Legacy`: list parameters of the first generation

Every parameter counts with its last value. `conditions` lists terms `field=value` (equal) and
`field~value` (contained); a page is given by `paging`, by `limit` and `page`, or by an
`offset`, later ones taking precedence.

Keys that are not known are ignored, and so are values that a later one with the same key replaces,
even where they could not be read. The order in which the keys are read decides only which of two
refusals is shown.
-/

set_option autoImplicit false

namespace AccessGateway.Query

/-- The limit when no parameter gives one. The other generation has none in this case. -/
def legacyLimit : Int := 10

/-- The last value of a parameter, if it is given at all. -/
def lastValue (parameters : List (String × String)) (key : String) : Option String :=
  parameters.reverse.lookup key

/-- A term of a condition list: a field, `=` or `~`, and a value. It is cut at the first of the two
signs, and the value may contain both. -/
def readTerm (term : List Char) : Except QueryFault (String × Condition) :=
  match Text.splitFirst? (fun c => c == '=' || c == '~') term with
  | none => .error (.malformedCondition (String.ofList term))
  | some (field, operator, value) => do
    let field ← Parameter.readField (String.ofList field)
    let value := String.ofList value
    return (field, if operator == '~' then .fuzzy value else .exact value)

/-- A list of terms between commas; empty terms do not count, and of two terms on one field
the last one does. -/
def readConditions (raw : String) : Except QueryFault (Std.ExtTreeMap String Condition) := do
  let terms ← (Text.nonemptyPieces ',' raw.toList).mapM' readTerm
  return terms.foldl (fun conditions (field, condition) => conditions.insert field condition) ∅

/-- Limit and page number given so far, by the terms of one parameter. -/
structure Paging where
  limit : Int
  page : Option Int
  deriving DecidableEq, Repr

namespace Paging

/-- Takes one term of a `paging` parameter, which reads `limit=` or `page=` and a number. -/
def takeTerm (raw : String) (paging : Paging) (term : List Char) : Except QueryFault Paging :=
  match Text.splitOnce? '=' term with
  | none => .error (.invalidValue Parameter.paging raw)
  | some (key, value) =>
    if String.ofList key = Parameter.limit then do
      return { paging with limit := ← Parameter.readLimit (String.ofList value) }
    else if String.ofList key = Parameter.page then do
      return { paging with page := some (← Parameter.readPage (String.ofList value)) }
    else .error (.invalidValue Parameter.paging raw)

/-- Takes a whole `paging` parameter: terms between commas, of which empty ones do not count. -/
def take (paging : Paging) (raw : String) : Except QueryFault Paging :=
  (Text.nonemptyPieces ',' raw.toList).foldlM (takeTerm raw) paging

end Paging

/-- Reads a value that may be absent, in which case something else is taken. -/
def readOr {α : Type} (absent : α) (read : String → Except QueryFault α) :
    Option String → Except QueryFault α
  | some raw => read raw
  | none => .ok absent

/-- The query that parameters of the first generation ask for. Limit and page of the one `paging`
parameter are what those of parameters of their own replace. -/
def ofLegacyParameters (parameters : List (String × String)) : Except QueryFault Query := do
  let value := lastValue parameters
  let conditions ← readOr ∅ readConditions (value Parameter.conditions)
  let orderBy ← readOr FieldName.createTime Parameter.readField (value Parameter.orderBy)
  let reverse ← readOr false (Parameter.readFlag Parameter.reverse) (value Parameter.reverse)
  let paging ← readOr ⟨legacyLimit, none⟩ (Paging.take ⟨legacyLimit, none⟩)
    (value Parameter.paging)
  let limit ← readOr paging.limit Parameter.readLimit (value Parameter.limit)
  let page ← readOr paging.page (fun raw => (Parameter.readPage raw).map some)
    (value Parameter.page)
  let offset ← readOr (Parameter.offsetOfPage page limit) Parameter.readOffset
    (value Parameter.offset)
  return { conditions, orderBy, reverse, limit, offset }

end AccessGateway.Query
