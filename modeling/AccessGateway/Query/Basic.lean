import AccessGateway.Text.Split
import Std.Data.ExtTreeMap

/-!
# `AccessGateway.Query.Basic`: list queries

A `Query` carries what a list call asks for: conditions on fields, an ordering and a page.
Anything with named fields can be queried (`Queryable`), so every kind of object is filtered
and ordered by the same rules.

A query has one condition for each field at most, so a condition that is added replaces the one on
its field. Which names of fields there are is not a matter of the query: a query for a field that an
item does not have is a query that the item does not satisfy. Parameters may speak of the names in
`FieldName.known` only.
-/

set_option autoImplicit false

namespace AccessGateway

/-- How a condition compares with a field value: the whole of it, or a part. -/
inductive MatchKind where
  | exact
  | fuzzy
  deriving DecidableEq, Repr

/-- The wire name of a kind of match, as it stands in queries that are written down. -/
def MatchKind.name : MatchKind → String
  | .exact => "exact"
  | .fuzzy => "fuzzy"

/-- A requirement on one field. A field without a value satisfies none. -/
structure Condition where
  kind : MatchKind
  value : String
  deriving DecidableEq, Repr

namespace Condition

/-- Requires equality. -/
def exact (value : String) : Condition := ⟨.exact, value⟩

/-- Requires the value as a part. The empty value is a part of every value that a field has. -/
def fuzzy (value : String) : Condition := ⟨.fuzzy, value⟩

/-- Whether a field value meets the condition. Case counts in both kinds of match. -/
def accepts (c : Condition) (candidate : String) : Bool :=
  match c.kind with
  | .exact => candidate == c.value
  | .fuzzy => Text.contains c.value.toList candidate.toList

end Condition

/-! ### The names of the fields that parameters may speak of -/

namespace FieldName

/-- The name of an object. -/
def name : String := "name"

/-- The namespace of an object. -/
def «namespace» : String := "namespace"

/-- The creation time, by the older of its two names. -/
def createTime : String := "createTime"

/-- The creation time. -/
def creationTimestamp : String := "creationTimestamp"

/-- The status of an object. -/
def status : String := "status"

/-- The labels of an object. -/
def label : String := "label"

/-- The annotations of an object. -/
def annotation : String := "annotation"

/-- The workspace that an object belongs to. -/
def workspace : String := "workspace"

/-- The mail address of a user. -/
def email : String := "email"

/-- The state of a user. -/
def state : String := "state"

/-- The display alias of an object. -/
def aliasName : String := "alias"

/-- All field names that are accepted in parameters. What a kind of object does with one of them is
its own matter. -/
def known : List String :=
  [name, «namespace», createTime, creationTimestamp, status, label, annotation, workspace, email,
    state, aliasName]

end FieldName

/-- What a list call asks for. A negative limit means everything after the offset, and a limit of
zero nothing but the count. -/
structure Query where
  conditions : Std.ExtTreeMap String Condition
  orderBy : String
  reverse : Bool
  limit : Int
  offset : Nat
  deriving DecidableEq

namespace Query

/-- The limit that stands for no limit. -/
def noLimit : Int := -1

/-- Everything in creation order, the oldest first, on one page. -/
def everything : Query :=
  { conditions := ∅, orderBy := FieldName.createTime, reverse := false, limit := noLimit,
    offset := 0 }

instance : Inhabited Query := ⟨everything⟩

/-- Adds a condition on a field; an earlier one on the same field gives way, whatever it asked
for. -/
def withCondition (q : Query) (field : String) (condition : Condition) : Query :=
  { q with conditions := q.conditions.insert field condition }

/-- Sets the field that items are ordered by, and the direction. -/
def orderedBy (q : Query) (field : String) (reverse : Bool) : Query :=
  { q with orderBy := field, reverse }

/-- Sets limit and offset, and with them the page. -/
def paged (q : Query) (limit : Int) (offset : Nat) : Query := { q with limit, offset }

end Query

/-- Things with a name and further named fields. A kind may have conditions on a field that are
about more than one value, as those on labels are, and so `satisfies` is its own function. -/
class Queryable (α : Type) where
  /-- The name, which decides between items of equal rank. -/
  name : α → String
  /-- The value of a field, if the item has it. -/
  field : α → String → Option String
  /-- Whether a condition on a field holds. -/
  satisfies : α → String → Condition → Bool

/-- A condition on a plain field holds of a value that the field has, and fails where it has
none. -/
def Queryable.satisfiesBy (value : Option String) (condition : Condition) : Bool :=
  value.any condition.accepts

end AccessGateway
