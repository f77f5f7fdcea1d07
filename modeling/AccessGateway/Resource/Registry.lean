import AccessGateway.Resource.Searcher

/-!
# `AccessGateway.Resource.Registry`: resources by group, version and plural name

The registry of the current API generation. Resources of the cluster answer only when no
namespace is given, namespaced ones only when one is. A plural name alone stands for the least
triple that has it.

Two tables are kept, and the namespace of a call decides which of them answers. Within a table a
searcher is found by its whole type, or by the plural name alone. The second way goes through the
types in their order, so which of two types with one plural name answers does not depend on which
was registered first.
-/

set_option autoImplicit false

namespace AccessGateway

/-- A resource with its API group, empty for the core group, and version. -/
structure ResourceType where
  group : String
  version : String
  resource : String
  deriving DecidableEq, Repr

namespace ResourceType

/-- The parts in order of weight: the group decides before the version, and both before the name. -/
def parts (t : ResourceType) : List String := [t.group, t.version, t.resource]

instance : Ord ResourceType := ⟨compareOn parts⟩

instance : Std.TransOrd ResourceType := inferInstanceAs (Std.TransCmp (compareOn parts))

instance : Std.LawfulEqOrd ResourceType where
  eq_of_compare {a b} h := by
    have : a.parts = b.parts := Std.compare_eq_iff_eq.mp h
    cases a; cases b
    simpa [parts] using this

/-- The form in messages. The core group has no name and no slash behind it. -/
def display (t : ResourceType) : String :=
  (if t.group = "" then "" else t.group ++ "/") ++ t.version ++ "/" ++ t.resource

/-- A DevOps resource. -/
def devops (resource : String) : ResourceType := ⟨"devops.kubesphere.io", "v1alpha3", resource⟩

/-- A resource of workspaces. -/
def tenant (resource : String) : ResourceType := ⟨"tenant.kubesphere.io", "v1alpha1", resource⟩

/-- A resource of users, global roles and workspace roles. -/
def iam (resource : String) : ResourceType := ⟨"iam.kubesphere.io", "v1alpha2", resource⟩

/-- A resource of namespace roles. -/
def rbac (resource : String) : ResourceType := ⟨"rbac.authorization.k8s.io", "v1", resource⟩

end ResourceType

/-- Searchers by resource type, for the cluster and for namespaces. -/
structure Registry where
  cluster : Std.ExtTreeMap ResourceType Searcher
  namespaced : Std.ExtTreeMap ResourceType Searcher

namespace Registry

/-- No searchers. -/
def empty : Registry := ⟨∅, ∅⟩

/-- Registers a searcher for the whole cluster; an earlier one of the same type gives way. -/
def registerCluster (r : Registry) (type : ResourceType) (searcher : Searcher) : Registry :=
  { r with cluster := r.cluster.insert type searcher }

/-- Registers a searcher for namespaces; an earlier one of the same type gives way. -/
def registerNamespaced (r : Registry) (type : ResourceType) (searcher : Searcher) : Registry :=
  { r with namespaced := r.namespaced.insert type searcher }

/-- The registry over an object cache. Every searcher is labelled by the plural name it is
registered under. -/
def ofCache (cache : ObjectCache) : Registry :=
  empty
  |>.registerCluster (.devops ResourceName.devopsProjects)
    (.ofStore ResourceName.devopsProjects .other cache.devopsProjects)
  |>.registerCluster (.tenant ResourceName.workspaces)
    (.ofStore ResourceName.workspaces .other cache.workspaces)
  |>.registerCluster (.tenant ResourceName.workspaceTemplates)
    (.ofStore ResourceName.workspaceTemplates .other cache.workspaceTemplates)
  |>.registerCluster (.iam ResourceName.globalRoles)
    (.ofStore ResourceName.globalRoles .role cache.globalRoles)
  |>.registerCluster (.iam ResourceName.workspaceRoles)
    (.ofStore ResourceName.workspaceRoles .role cache.workspaceRoles)
  |>.registerCluster (.iam ResourceName.users) (.ofStore ResourceName.users .user cache.users)
  |>.registerCluster (.iam ResourceName.globalRoleBindings)
    (.ofStore ResourceName.globalRoleBindings .binding cache.globalRoleBindings)
  |>.registerCluster (.iam ResourceName.workspaceRoleBindings)
    (.ofStore ResourceName.workspaceRoleBindings .binding cache.workspaceRoleBindings)
  |>.registerNamespaced (.rbac ResourceName.roles)
    (.ofStore ResourceName.roles .role cache.roles)
  |>.registerNamespaced (.rbac ResourceName.roleBindings)
    (.ofStore ResourceName.roleBindings .binding cache.roleBindings)

/-- The table that answers for a namespace. An empty name of a namespace is none. -/
def table (r : Registry) («namespace» : String) : Std.ExtTreeMap ResourceType Searcher :=
  if «namespace» = "" then r.cluster else r.namespaced

/-- The searcher for a plural name: the one of the least type that has it, in the table for the
namespace. -/
def searcherNamed (r : Registry) («namespace» resource : String) : Outcome Searcher :=
  match (r.table «namespace»).toList.find? fun (type, _) => type.resource = resource with
  | some (_, searcher) => .ok searcher
  | none => .error (.notSupported resource)

/-- The searcher for a resource type. A type that is registered in the other table only is not
supported. -/
def searcherOf (r : Registry) («namespace» : String) (type : ResourceType) : Outcome Searcher :=
  match (r.table «namespace»)[type]? with
  | some searcher => .ok searcher
  | none => .error (.notSupported type.display)

/-- One object of a resource. -/
def get (r : Registry) (resource «namespace» name : String) : Outcome StoredObject := do
  (← r.searcherNamed «namespace» resource).get «namespace» name

/-- A page of the objects of a resource. -/
def list (r : Registry) (resource «namespace» : String) (query : Query) :
    Outcome (Page StoredObject) := do
  return (← r.searcherNamed «namespace» resource).list «namespace» query

/-- One object of a resource type, if the type is supported in the namespace and has an object of
the name. -/
def getOf (r : Registry) (type : ResourceType) («namespace» name : String) :
    Outcome StoredObject := do
  (← r.searcherOf «namespace» type).get «namespace» name

/-- A page of the objects of a resource type. -/
def listOf (r : Registry) (type : ResourceType) («namespace» : String) (query : Query) :
    Outcome (Page StoredObject) := do
  return (← r.searcherOf «namespace» type).list «namespace» query

end Registry

end AccessGateway
