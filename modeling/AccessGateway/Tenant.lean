import AccessGateway.Access.Authorizer
import AccessGateway.Resource.Registry

/-!
# `AccessGateway.Tenant`: the projects of a workspace

Who may list projects across a workspace sees all projects that carry its label. Anyone else
sees those that they may get in the project's admin namespace.

The first way asks the registry, with a condition on the workspace that takes the place of any other
condition on it. The second way selects by the label before the query is answered, so a condition on
the workspace that was asked for is kept there.
-/

set_option autoImplicit false

namespace AccessGateway

/-- The namespace that administers a project: the one its status names, or else its name. The empty
text names none. -/
def OpaqueObject.adminNamespace (project : OpaqueObject) : String :=
  match project.statusText "adminNamespace" with
  | some name => if name = "" then project.metadata.name else name
  | none => project.metadata.name

namespace ObjectCache

/-- Listing the projects of a workspace, which is ruled in the workspace. -/
def listProjectsAction (workspace : String) : Action :=
  ⟨"list", ResourceName.devopsProjects, none, .workspace workspace⟩

/-- Getting one project, which is ruled in the namespace that administers it. -/
def getProjectAction (project : OpaqueObject) : Action :=
  ⟨"get", ResourceName.devopsProjects, some project.metadata.name,
    .namespace project.adminNamespace⟩

/-- The projects that carry the label of a workspace, whoever asks. -/
def workspaceProjects (cache : ObjectCache) (workspace : String) : List OpaqueObject :=
  cache.devopsProjects.list "" (Selector.everything.withLabel workspaceLabel workspace)

/-- The projects of a workspace that an identity may get one by one. Nobody is refused for seeing
none. -/
def memberProjects (cache : ObjectCache) (user : Identity) (workspace : String) :
    List OpaqueObject :=
  (cache.workspaceProjects workspace).filter fun project =>
    (cache.authorize user (getProjectAction project)).allowed

/-- The page of the projects of a workspace that an identity sees, and the count of what is on all
pages. -/
def listProjects (cache : ObjectCache) (user : Identity) (workspace : String) (query : Query) :
    Outcome (Page StoredObject) :=
  if (cache.authorize user (listProjectsAction workspace)).allowed then
    (Registry.ofCache cache).listOf (.devops ResourceName.devopsProjects) ""
      (query.withCondition FieldName.workspace (.exact workspace))
  else .ok ((query.run (cache.memberProjects user workspace)).map .other)

end ObjectCache

end AccessGateway
