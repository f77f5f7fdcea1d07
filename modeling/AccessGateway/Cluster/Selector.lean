import AccessGateway.Object.Metadata

/-!
# `AccessGateway.Cluster.Selector`: label selectors

A selector requires labels to be present or to have a value. It holds at most one requirement
for each key, the one that was set last. So asking for the presence of a label whose value was asked
for before takes that value back.
-/

set_option autoImplicit false

namespace AccessGateway

/-- Requirements on labels, by key: a value, or presence with any value. -/
structure Selector where
  requirements : Std.ExtTreeMap String (Option String)
  deriving DecidableEq

namespace Selector

/-- Requires nothing. -/
def everything : Selector := ⟨∅⟩

/-- Requires a value of a label, in place of whatever was required of it. -/
def withLabel (s : Selector) (key value : String) : Selector :=
  ⟨s.requirements.insert key (some value)⟩

/-- Requires a label to be present, in place of whatever was required of it, a value included. -/
def withKey (s : Selector) (key : String) : Selector := ⟨s.requirements.insert key none⟩

/-- Whether labels meet every requirement. Labels of which nothing is required do not matter. -/
def accepts (s : Selector) (labels : TextMap) : Bool :=
  s.requirements.toList.all fun (key, required) =>
    match required with
    | some value => labels[key]? == some value
    | none => labels.contains key

end Selector

end AccessGateway
