import AccessGateway.Fault
import AccessGateway.Identity
import AccessGateway.Text.Quoted

/-!
# `AccessGateway.Access.Scope`: actions and decisions

An action is a verb on a resource, perhaps on one named object, in a scope: the whole cluster, a
workspace or a namespace. Verbs and resources are plain words, which the rules of roles name or
cover with a wildcard.

A decision allows or denies an action and says why. The reason of a denial is what a refused
request is told, so `Decision.require` puts it into the fault.
-/

set_option autoImplicit false

namespace AccessGateway

/-- Where an action takes place. A workspace is not a part of a namespace nor the other way round:
neither gives access to the other. -/
inductive Scope where
  | cluster
  | workspace (name : String)
  | «namespace» (name : String)
  deriving DecidableEq, Repr

namespace Scope

/-- The form in messages: the kind of the scope and, after a slash, what it is the scope of. -/
def display : Scope → String
  | cluster => "cluster"
  | workspace name => "workspace/" ++ name
  | «namespace» name => "namespace/" ++ name

/-- The wire form. -/
def wire : Scope → Json
  | cluster => .obj [("kind", .str "cluster")]
  | workspace name => .obj [("kind", .str "workspace"), ("name", .str name)]
  | «namespace» name => .obj [("kind", .str "namespace"), ("name", .str name)]

/-- The scope of a namespace in a path. The empty name, which is what a path without a namespace has
in its place, stands for the whole cluster. -/
def ofNamespace (name : String) : Scope := if name = "" then cluster else «namespace» name

end Scope

/-- Something that someone wants to do. Without a name it is about all objects of the resource, and
a rule that is restricted to some names does not permit it. -/
structure Action where
  verb : String
  resource : String
  name : Option String
  scope : Scope
  deriving DecidableEq, Repr

/-- Allowed or not, and why. -/
structure Decision where
  allowed : Bool
  reason : String
  deriving DecidableEq, Repr

namespace Decision

/-- The wire name of the verdict. -/
def verdict (d : Decision) : String := if d.allowed then "allow" else "deny"

/-- Nothing if the action is allowed, or else the refusal, with the reason of the decision as its
text. -/
def require (d : Decision) : Outcome Unit :=
  if d.allowed then .ok () else .error (.forbidden d.reason)

end Decision

end AccessGateway
