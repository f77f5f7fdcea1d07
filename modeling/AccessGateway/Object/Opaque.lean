import AccessGateway.Object.Metadata

/-!
# `AccessGateway.Object.Opaque`: objects of no special kind

Namespaces, workspaces, projects and builds are kept with the JSON of their specification and
status. The field `status` is the phase of the status, or else its state.

Nothing checks what stands in the two, so whoever looks into them has to reckon with anything. A
text under a key is one only if the status is an object and the value a string.
-/

set_option autoImplicit false

namespace AccessGateway

/-- An object whose specification and status are not interpreted; null stands for none. -/
structure OpaqueObject where
  metadata : Metadata
  spec : Json
  status : Json
  deriving DecidableEq

namespace OpaqueObject

/-- An object without specification and status. -/
def ofMetadata (metadata : Metadata) : OpaqueObject := ⟨metadata, .null, .null⟩

instance : Inhabited OpaqueObject := ⟨ofMetadata default⟩

/-- The string under a key of the status. Anything that is no string is none. -/
def statusText (object : OpaqueObject) (key : String) : Option String :=
  (object.status.field? key).bind Json.text?

/-- The value of a field: the status, or a field of the metadata. An empty phase is a phase. -/
def field (object : OpaqueObject) (field : String) : Option String :=
  if field = FieldName.status then object.statusText "phase" <|> object.statusText "state"
  else object.metadata.field field

/-- Whether a condition on a field holds, by the value of the status or as the metadata have it. -/
def satisfies (object : OpaqueObject) (field : String) (condition : Condition) : Bool :=
  if field = FieldName.status then Queryable.satisfiesBy (object.field field) condition
  else object.metadata.satisfies field condition

/-- The wire form; specification and status are left out when they are null. -/
def wire (object : OpaqueObject) : Json :=
  Json.objectOf
    [("metadata", some object.metadata.wire),
     ("spec", Json.keepUnless (object.spec = .null) object.spec),
     ("status", Json.keepUnless (object.status = .null) object.status)]

instance : ClusterObject OpaqueObject where
  name object := object.metadata.name
  field := field
  satisfies := satisfies
  metadata := metadata
  wire := wire

open Decoder in
/-- Reads the wire form, of which every part may be left out. -/
def read {V : Type} [Document V] : Decoder V OpaqueObject := fun value => do
  let parts ← record ["metadata", "spec", "status"] value
  return {
    metadata := ← defaulted Metadata.read "metadata" default parts
    spec := ← defaulted any "spec" .null parts
    status := ← defaulted any "status" .null parts }

end OpaqueObject

end AccessGateway
