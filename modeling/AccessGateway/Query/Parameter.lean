import AccessGateway.Query.Basic
import AccessGateway.Text.Numeral

/-!
# `AccessGateway.Query.Parameter`: reading list parameters

The values that both generations of list parameters share: limits, page numbers, flags and
field names, and the offset that a page number stands for.

Numbers are read as signed words, so a number beyond them is refused like a text that is no number.
The product behind an offset does not leave the words either: it stops at the largest of them.
-/

set_option autoImplicit false

namespace AccessGateway

/-- Why list parameters are refused. Each refusal names what was wrong, and the parameter it stood
in where that is not plain. -/
inductive QueryFault where
  | invalidValue (parameter value : String)
  | unknownField (field : String)
  | malformedCondition (term : String)
  | negativeOffset
  deriving DecidableEq, Repr

namespace QueryFault

/-- The wording of a refusal, as it is shown to the client. -/
def message : QueryFault → String
  | .invalidValue parameter value =>
    "invalid value '" ++ value ++ "' for parameter '" ++ parameter ++ "'"
  | .unknownField field => "unknown field: " ++ field
  | .malformedCondition term => "malformed condition: " ++ term
  | .negativeOffset => "offset must not be negative"

end QueryFault

/-! ### The names of list parameters, and their values -/

namespace Parameter

/-- The list of terms that the fields are held against. -/
def conditions : String := "conditions"

/-- Limit and page in one parameter. -/
def paging : String := "paging"

/-- The field to order by, in the first generation. -/
def orderBy : String := "orderBy"

/-- Whether the order is reversed, in the first generation. -/
def reverse : String := "reverse"

/-- How many items a page has. -/
def limit : String := "limit"

/-- How many items stand in front of the page. -/
def offset : String := "offset"

/-- The number of the page, counted from one. -/
def page : String := "page"

/-- The field to order by, in the current generation. -/
def sortBy : String := "sortBy"

/-- Whether the order is not reversed, in the current generation. -/
def ascending : String := "ascending"

/-- A field name, which must be a known one and is taken as it is, case included. -/
def readField (field : String) : Except QueryFault String :=
  if field ∈ FieldName.known then .ok field else .error (.unknownField field)

/-- A signed number that satisfies `p`. Both a text that is no number and a number that does not
satisfy it are refused with the whole value. -/
def readInt (parameter : String) (p : Int → Bool) (raw : String) : Except QueryFault Int :=
  match Text.Numeral.readInt raw.toList with
  | .ok n => if p n then .ok n else .error (.invalidValue parameter raw)
  | .error _ => .error (.invalidValue parameter raw)

/-- A limit: at least -1, which stands for no limit. -/
def readLimit (raw : String) : Except QueryFault Int :=
  readInt limit (fun n => decide (Query.noLimit ≤ n)) raw

/-- A page number: at least one. -/
def readPage (raw : String) : Except QueryFault Int :=
  readInt page (fun n => decide (1 ≤ n)) raw

/-- An offset: a number, of which a negative one is refused for its sign. -/
def readOffset (raw : String) : Except QueryFault Nat := do
  let n ← readInt offset (fun _ => true) raw
  if n < 0 then .error .negativeOffset else .ok n.toNat

/-- A flag, as a word or as a digit. No other spelling of the words is read. -/
def readFlag (parameter raw : String) : Except QueryFault Bool :=
  if raw = "true" ∨ raw = "1" then .ok true
  else if raw = "false" ∨ raw = "0" then .ok false
  else .error (.invalidValue parameter raw)

/-- The offset at which a page begins. It stops at the largest signed word, and without a page
number or with no limit it is zero. -/
def offsetOfPage (page : Option Int) (limit : Int) : Nat :=
  match page with
  | some page => if 0 < limit then min ((page - 1) * limit).toNat Text.Numeral.maxSigned else 0
  | none => 0

end Parameter

end AccessGateway
