import AccessGateway.Cluster.Snapshot
import AccessGateway.Fault
import AccessGateway.Query.Page

/-!
# `AccessGateway.Resource.Searcher`: looking up objects of any kind

A `StoredObject` is an object of one of the kinds that the gateway keeps. A `Searcher` finds
such objects by key or lists those of a namespace; both registries of resources are tables of
searchers.

A searcher is a value and not a class: the registries are given one under each key, and the same
store may stand behind several. It knows nothing of permissions and of paths, and what a query does
is the same for all of them (`Searcher.list`).
-/

set_option autoImplicit false

namespace AccessGateway

/-- An object of any kind. Of kinds that nothing looks into only what is common to all objects is
known. -/
inductive StoredObject where
  | user (user : User)
  | role (role : Role)
  | binding (binding : RoleBinding)
  | other (object : OpaqueObject)
  deriving DecidableEq

namespace StoredObject

/-- The metadata, which every kind of object has. -/
def metadata : StoredObject → Metadata
  | user u => u.metadata
  | role r => r.metadata
  | binding b => b.metadata
  | other o => o.metadata

/-- The value of a field. Users and objects of the last kind have fields besides those of their
metadata. -/
def field : StoredObject → String → Option String
  | user u => u.field
  | role r => r.metadata.field
  | binding b => b.metadata.field
  | other o => o.field

/-- Whether a condition on a field holds, as the kind of the object has it. -/
def satisfies : StoredObject → String → Condition → Bool
  | user u => u.satisfies
  | role r => r.metadata.satisfies
  | binding b => b.metadata.satisfies
  | other o => o.satisfies

/-- The wire form, which does not tell that the object was one of several kinds. -/
def wire : StoredObject → Json
  | user u => u.wire
  | role r => r.wire
  | binding b => b.wire
  | other o => o.wire

instance : ClusterObject StoredObject where
  name object := object.metadata.name
  field := field
  satisfies := satisfies
  metadata := metadata
  wire := wire

end StoredObject

/-- A way to find the objects of one resource. -/
structure Searcher where
  /-- The resource in messages. -/
  label : String
  /-- The object in a namespace under a name. -/
  find? : String → String → Option StoredObject
  /-- The objects of a namespace, or of all when it is empty. -/
  objects : String → List StoredObject

namespace Searcher

/-- The searcher over a store. Its objects are wrapped when they leave it, and so a query is
answered on what is shown. -/
def ofStore {α : Type} [ClusterObject α] (label : String) (wrap : α → StoredObject)
    (store : Store α) : Searcher where
  label
  find? «namespace» name := (store.get? «namespace» name).map wrap
  objects «namespace» := (store.list «namespace» .everything).map wrap

/-- The object in a namespace under a name, or a failure that says what was not found. -/
def get (searcher : Searcher) («namespace» name : String) : Outcome StoredObject :=
  match searcher.find? «namespace» name with
  | some object => .ok object
  | none => .error (.notFound searcher.label name)

/-- The page of the objects of a namespace that a query asks for. It never fails: where nothing is,
the page is empty. -/
def list (searcher : Searcher) («namespace» : String) (query : Query) : Page StoredObject :=
  query.run (searcher.objects «namespace»)

end Searcher

/-! ### The plural names of resources -/

namespace ResourceName

/-- The machines of the cluster. -/
def nodes : String := "nodes"

/-- The namespaces of the cluster. -/
def namespaces : String := "namespaces"

/-- The workspaces, which group projects. -/
def workspaces : String := "workspaces"

/-- What workspaces are made from. -/
def workspaceTemplates : String := "workspacetemplates"

/-- The roles of the cluster itself, which the gateway does not keep. -/
def clusterRoles : String := "clusterroles"

/-- The kinds of storage, which the gateway does not keep either. -/
def storageClasses : String := "storageclasses"

/-- The builders of images in a namespace. -/
def builders : String := "s2ibuilders"

/-- The runs of such builders. -/
def buildRuns : String := "s2iruns"

/-- What builders are made from, for the whole cluster. -/
def builderTemplates : String := "s2ibuildertemplates"

/-- The projects, each of which is administered in a namespace. -/
def devopsProjects : String := "devopsprojects"

/-- The accounts of the cluster. -/
def users : String := "users"

/-- The roles that hold everywhere. -/
def globalRoles : String := "globalroles"

/-- The roles that hold in a workspace. -/
def workspaceRoles : String := "workspaceroles"

/-- The bindings of roles that hold everywhere. -/
def globalRoleBindings : String := "globalrolebindings"

/-- The bindings of roles that hold in a workspace. -/
def workspaceRoleBindings : String := "workspacerolebindings"

/-- The roles that hold in a namespace. -/
def roles : String := "roles"

/-- The bindings of roles that hold in a namespace. -/
def roleBindings : String := "rolebindings"

end ResourceName

end AccessGateway
