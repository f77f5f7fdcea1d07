import AccessGateway.Document
import Std.Data.ExtTreeSet

/-!
# `AccessGateway.Identity`: who makes a request

An identity has a name, a set of groups and further attributes. Requests without credentials
are made by the anonymous identity, which is an identity like any other: it has a name and a
group, rules may be granted to either, and the authorizer does not ask how it came about.

Groups are a set, so that neither their order nor a repetition can matter to a decision; the
values of an attribute are a list in the order in which they were added.
-/

set_option autoImplicit false

namespace AccessGateway

/-- Who makes a request. Names and groups are what bindings speak of; attributes are passed on but
grant nothing. -/
structure Identity where
  name : String
  groups : Std.ExtTreeSet String
  extra : Std.ExtTreeMap String (List String)
  deriving DecidableEq

namespace Identity

/-- The name of requests without credentials. An account may bear it too. -/
def anonymousName : String := "anonymous"

/-- The group of all who passed authentication, the anonymous identity among them. -/
def authenticatedGroup : String := "system:authenticated"

/-- The attribute of accounts that never completed a first login. An account carries it as an
annotation, and its identity with the same value. -/
def uninitializedKey : String := "iam.kubesphere.io/uninitialized"

/-- An identity with nothing but a name, which is what a token vouches for. -/
def named (name : String) : Identity := ⟨name, ∅, ∅⟩

instance : Inhabited Identity := ⟨named ""⟩

/-- Adds a group; one that is there already stays as it is. -/
def withGroup (i : Identity) (group : String) : Identity :=
  { i with groups := i.groups.insert group }

/-- Adds a value to the end of an attribute, which begins with that value where it was not there. -/
def withExtra (i : Identity) (key value : String) : Identity :=
  { i with extra := i.extra.insert key (i.extra[key]?.getD [] ++ [value]) }

/-- The identity of requests without credentials: its name and the group of the authenticated. -/
def anonymous : Identity := (named anonymousName).withGroup authenticatedGroup

/-- Whether the name is the one of requests without credentials. Groups are not asked for. -/
def isAnonymous (i : Identity) : Bool := i.name == anonymousName

/-- The wire form; groups and attributes are left out when there are none. Groups come in their
order as a set. -/
def wire (i : Identity) : Json :=
  Json.objectOf
    [("name", some (.str i.name)),
     ("groups", Json.keepUnless i.groups.isEmpty (Json.strings i.groups.toList)),
     ("extra", Json.keepUnless i.extra.isEmpty
       (.obj (i.extra.toList.map fun (key, values) => (key, Json.strings values))))]

open Decoder in
/-- Reads the wire form; the name must be given. A group that is listed twice is one group. -/
def read : Json.Decoder Identity := fun value => do
  let parts ← record ["name", "groups", "extra"] value
  let name ← required text "name" parts
  let groups ← defaulted (list text) "groups" [] parts
  let extra ← defaulted (map (list text)) "extra" ∅ parts
  return ⟨name, groups.foldl (fun set group => set.insert group) ∅, extra⟩

end Identity

end AccessGateway
