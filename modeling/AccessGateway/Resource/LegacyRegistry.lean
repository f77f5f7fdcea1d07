import AccessGateway.Resource.Searcher

/-!
# `AccessGateway.Resource.LegacyRegistry`: resources by plural name

The registry of the first API generation. A closed list of resources exists only for the
whole cluster: with a namespace they are refused before any searcher is asked. Other resources
answer in both ways, and without a namespace all of their objects are listed, each in its own.

The list of these resources is longer than the table, so some names are refused with the same words
for two reasons.
-/

set_option autoImplicit false

namespace AccessGateway

/-- Searchers by plural name, whether their objects are of a namespace or not. -/
structure LegacyRegistry where
  searchers : Std.ExtTreeMap String Searcher

namespace LegacyRegistry

/-- Resources that only exist for the whole cluster. Not all of them are registered. -/
def clusterResources : List String :=
  [ResourceName.nodes, ResourceName.workspaces, ResourceName.namespaces,
    ResourceName.clusterRoles, ResourceName.storageClasses, ResourceName.builderTemplates]

/-- No searchers. -/
def empty : LegacyRegistry := ⟨∅⟩

/-- Registers a searcher; an earlier one under the same name gives way. -/
def register (r : LegacyRegistry) (resource : String) (searcher : Searcher) : LegacyRegistry :=
  ⟨r.searchers.insert resource searcher⟩

/-- The registry over an object cache. Resources of the other registry are not registered again. -/
def ofCache (cache : ObjectCache) : LegacyRegistry :=
  empty
  |>.register ResourceName.builders (.ofStore ResourceName.builders .other cache.builders)
  |>.register ResourceName.buildRuns (.ofStore ResourceName.buildRuns .other cache.buildRuns)
  |>.register ResourceName.builderTemplates
    (.ofStore ResourceName.builderTemplates .other cache.builderTemplates)
  |>.register ResourceName.namespaces (.ofStore ResourceName.namespaces .other cache.namespaces)

/-- The searcher for a resource in a namespace. That the resource is misplaced there is found out
before it is looked up. -/
def searcher (r : LegacyRegistry) (resource «namespace» : String) : Outcome Searcher :=
  if «namespace» ≠ "" ∧ resource ∈ clusterResources then .error (.notSupported resource)
  else match r.searchers[resource]? with
    | some searcher => .ok searcher
    | none => .error (.notSupported resource)

/-- One object of a resource. -/
def get (r : LegacyRegistry) (resource «namespace» name : String) : Outcome StoredObject := do
  (← r.searcher resource «namespace»).get «namespace» name

/-- A page of the objects of a resource. -/
def list (r : LegacyRegistry) (resource «namespace» : String) (query : Query) :
    Outcome (Page StoredObject) := do
  return (← r.searcher resource «namespace»).list «namespace» query

end LegacyRegistry

end AccessGateway
