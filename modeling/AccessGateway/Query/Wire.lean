import AccessGateway.Document
import AccessGateway.Query.Basic

/-!
# `AccessGateway.Query.Wire`: queries as JSON

A query with all its parts under their names. Reading it checks types and ranges, and nothing
about the fields that it names: a condition on a field that no object has is a condition that no
object satisfies. The conditions are written in the order of their fields.
-/

set_option autoImplicit false

namespace AccessGateway

/-- The wire form of a condition. -/
def Condition.wire (c : Condition) : Json :=
  .obj [("kind", .str c.kind.name), ("value", .str c.value)]

open Decoder in
/-- Reads the wire form of a condition, of which both parts must be given. -/
def Condition.read : Json.Decoder Condition := fun value => do
  let parts ← record ["kind", "value"] value
  let kinds := [MatchKind.exact, .fuzzy].map fun kind => (kind.name, kind)
  return ⟨← required (oneOf kinds) "kind" parts, ← required text "value" parts⟩

namespace Query

/-- The wire form of a query, its parts in the order of their names. -/
def wire (q : Query) : Json :=
  .obj [("conditions", .obj (q.conditions.toList.map fun (field, c) => (field, c.wire))),
    ("limit", .num q.limit), ("offset", Json.nat q.offset), ("order_by", .str q.orderBy),
    ("reverse", .bool q.reverse)]

open Decoder in
/-- Reads the wire form of a query, of which every part must be given. -/
def read : Json.Decoder Query := fun value => do
  let parts ← record ["conditions", "order_by", "reverse", "limit", "offset"] value
  return {
    conditions := ← required (map Condition.read) "conditions" parts
    orderBy := ← required text "order_by" parts
    reverse := ← required flag "reverse" parts
    limit := ← required signed "limit" parts
    offset := ← required word "offset" parts }

end Query

end AccessGateway
