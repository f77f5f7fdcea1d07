import AccessGateway.Document
import AccessGateway.Query.Basic
import AccessGateway.Time.Timestamp

/-!
# `AccessGateway.Object.Metadata`: what every object carries

Name, namespace, creation time, labels and annotations, their queryable fields and their wire
form. Objects of the whole cluster have an empty namespace.

There are two questions that a query may ask of an object, and two functions for them. What a list
is ordered by is the value of a field (`Metadata.field`), and what it is filtered by is whether a
condition holds (`Metadata.satisfies`). For most fields the second comes down to the first. Labels
and annotations have no single value, and a condition on them is a text of its own, which may name a
key or a key and a value.

Objects are read from a document of any format (`Document`), since snapshots are YAML files and
clients speak JSON.
-/

set_option autoImplicit false

namespace AccessGateway

open Time (Timestamp)

/-- A map from names to texts, in the order of the names. -/
abbrev TextMap := Std.ExtTreeMap String String

/-- The label that names the workspace an object belongs to. -/
def workspaceLabel : String := "kubesphere.io/workspace"

/-- The annotation that holds a display alias. -/
def aliasAnnotationKey : String := "kubesphere.io/alias-name"

/-- The metadata of an object. The creation time is kept to the nanosecond, and shown so, but
compared in whole seconds. -/
structure Metadata where
  name : String
  «namespace» : String
  created : Timestamp
  labels : TextMap
  annotations : TextMap
  deriving DecidableEq

namespace Metadata

/-- Metadata of a name in a namespace, created at the epoch and without labels. -/
def namespaced («namespace» name : String) : Metadata :=
  { name, «namespace», created := Timestamp.epoch, labels := ∅, annotations := ∅ }

/-- Metadata of an object of the whole cluster. -/
def named (name : String) : Metadata := namespaced "" name

instance : Inhabited Metadata := ⟨named ""⟩

/-- Sets a label, over any value that it had. -/
def withLabel (m : Metadata) (key value : String) : Metadata :=
  { m with labels := m.labels.insert key value }

/-- Sets an annotation, over any value that it had. -/
def withAnnotation (m : Metadata) (key value : String) : Metadata :=
  { m with annotations := m.annotations.insert key value }

/-- The workspace that the object belongs to, if it carries the label. -/
def workspace (m : Metadata) : Option String := m.labels[workspaceLabel]?

/-- The value of a plain field. The creation time goes by two names, and the namespace of an object
of the cluster is absent and not empty. -/
def field (m : Metadata) (field : String) : Option String :=
  if field = FieldName.name then some m.name
  else if field = FieldName.namespace then if m.namespace = "" then none else some m.namespace
  else if field = FieldName.createTime ∨ field = FieldName.creationTimestamp then
    some m.created.secondText
  else if field = FieldName.workspace then m.workspace
  else if field = FieldName.aliasName then m.annotations[aliasAnnotationKey]?
  else none

/-- A condition on a map: `key=value` compares the value of that key, and a bare key asks for its
presence. The text is cut at its first equals sign, so no key with one in it can be asked for. -/
def mapSatisfies (map : TextMap) (condition : Condition) : Bool :=
  match Text.splitOnce? '=' condition.value.toList with
  | some (key, expected) =>
    map[String.ofList key]?.any
      (Condition.mk condition.kind (String.ofList expected)).accepts
  | none => map.contains condition.value

/-- Whether a condition on a field holds, labels and annotations included. -/
def satisfies (m : Metadata) (field : String) (condition : Condition) : Bool :=
  if field = FieldName.label then mapSatisfies m.labels condition
  else if field = FieldName.annotation then mapSatisfies m.annotations condition
  else Queryable.satisfiesBy (m.field field) condition

/-- The wire form. An empty namespace and empty maps are left out. -/
def wire (m : Metadata) : Json :=
  Json.objectOf
    [("name", some (.str m.name)),
     ("namespace", Json.keepUnless (m.namespace == "") (.str m.namespace)),
     ("creationTimestamp", some (.str m.created.text)),
     ("labels", Json.keepUnless m.labels.isEmpty (Json.ofTextMap m.labels)),
     ("annotations", Json.keepUnless m.annotations.isEmpty (Json.ofTextMap m.annotations))]

/-- A creation time in its wire form, with any offset from UTC. -/
def readTime {V : Type} [Document V] : Decoder V Timestamp := fun value =>
  (Document.text? value).bind Timestamp.read?

/-- Reads the wire form, of which every part may be left out. What is left out is empty, and the
creation time is the epoch. -/
def read {V : Type} [Document V] : Decoder V Metadata := fun value => do
  let parts ← Decoder.record
    ["name", "namespace", "creationTimestamp", "labels", "annotations"] value
  let name ← Decoder.defaulted Decoder.text "name" "" parts
  let «namespace» ← Decoder.defaulted Decoder.text "namespace" "" parts
  let created ← Decoder.defaulted readTime "creationTimestamp" Timestamp.epoch parts
  let labels ← Decoder.defaulted (Decoder.map Decoder.text) "labels" ∅ parts
  let annotations ←
    Decoder.defaulted (Decoder.map Decoder.text) "annotations" ∅ parts
  return { name, «namespace», created, labels, annotations }

end Metadata

/-- Objects that the gateway keeps: they have metadata and a wire form, and can be queried. -/
class ClusterObject (α : Type) extends Queryable α where
  /-- The metadata. -/
  metadata : α → Metadata
  /-- The form in which clients see the object. -/
  wire : α → Json

end AccessGateway
