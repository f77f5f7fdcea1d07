import AccessGateway.Object.Metadata

/-!
# `AccessGateway.Object.Role`: roles and their rules

A rule grants verbs on resources, to all objects or to named ones. A role is a list of rules;
global roles, workspace roles and namespace roles have the same form.

Rules only ever grant. There is none that denies, so more rules never allow less, and the order of
the rules of a role does not matter. How far a role reaches is not written in it: it is decided by
the section it is kept in and by the binding that refers to it.
-/

set_option autoImplicit false

namespace AccessGateway

/-- A permission. With no names it is not restricted to named objects, and with some it does not
speak of actions that have no name. -/
structure Rule where
  verbs : List String
  resources : List String
  names : List String
  deriving DecidableEq, Inhabited

namespace Rule

/-- Stands for every verb or every resource. Among the names of objects it is a name like any
other. -/
def wildcard : String := "*"

/-- Whether a list of names, or the wildcard in it, covers a word. -/
def covers (granted : List String) (word : String) : Bool :=
  granted.any fun g => g == wildcard || g == word

/-- Whether the rule grants a verb on a resource, and on the named object if it is restricted
to names. -/
def allows (rule : Rule) (verb resource : String) (name : Option String) : Bool :=
  covers rule.verbs verb && covers rule.resources resource &&
    (rule.names.isEmpty || name.any rule.names.contains)

/-- The wire form. -/
def wire (rule : Rule) : Json :=
  Json.objectOf
    [("verbs", some (Json.strings rule.verbs)),
     ("resources", some (Json.strings rule.resources)),
     ("resourceNames", Json.keepUnless rule.names.isEmpty (Json.strings rule.names))]

open Decoder in
/-- Reads the wire form, of which every part may be left out. -/
def read {V : Type} [Document V] : Decoder V Rule := fun value => do
  let parts ← record ["verbs", "resources", "resourceNames"] value
  return {
    verbs := ← defaulted (list text) "verbs" [] parts
    resources := ← defaulted (list text) "resources" [] parts
    names := ← defaulted (list text) "resourceNames" [] parts }

end Rule

/-- A set of rules under a name. A role without rules permits nothing. -/
structure Role where
  metadata : Metadata
  rules : List Rule
  deriving DecidableEq, Inhabited

namespace Role

/-- The wire form. -/
def wire (role : Role) : Json :=
  Json.objectOf
    [("metadata", some role.metadata.wire), ("rules", some (.arr (role.rules.map Rule.wire)))]

instance : ClusterObject Role where
  name role := role.metadata.name
  field role := role.metadata.field
  satisfies role := role.metadata.satisfies
  metadata := metadata
  wire := wire

open Decoder in
/-- Reads the wire form, of which every part may be left out. -/
def read {V : Type} [Document V] : Decoder V Role := fun value => do
  let parts ← record ["metadata", "rules"] value
  return {
    metadata := ← defaulted Metadata.read "metadata" default parts
    rules := ← defaulted (list Rule.read) "rules" [] parts }

end Role

end AccessGateway
