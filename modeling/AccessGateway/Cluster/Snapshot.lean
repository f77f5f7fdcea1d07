import AccessGateway.Cluster.Store
import AccessGateway.Fault
import AccessGateway.Object.Opaque
import AccessGateway.Object.Role
import AccessGateway.Object.RoleBinding
import AccessGateway.Object.User

/-!
# `AccessGateway.Cluster.Snapshot`: the sections of the cluster state

The cluster state has fourteen sections. A `Snapshot` lists the objects of each, and an
`ObjectCache` keeps a store for each; loading a snapshot replaces the stores one section after
the other.

Since a load goes through the sections in an order, a cache in the middle of a load has some
sections of the new snapshot and the others from before. `ObjectCache.loadSteps` has all of these
states, and a whole load is the last of them. Whoever reads the cache during a load may meet any.

Sections are named by a type of their own, so that what holds for all of them can be said once and
shown by cases. Which objects a section has is a function on that type.
-/

set_option autoImplicit false

namespace AccessGateway

/-- The sections of the cluster state, each with objects of one kind. -/
inductive Section where
  | users
  | globalRoles
  | workspaceRoles
  | roles
  | globalRoleBindings
  | workspaceRoleBindings
  | roleBindings
  | namespaces
  | workspaces
  | workspaceTemplates
  | devopsProjects
  | builders
  | buildRuns
  | builderTemplates
  deriving DecidableEq, Repr

namespace Section

/-- All sections, in the order in which they are loaded. -/
def all : List Section :=
  [users, globalRoles, workspaceRoles, roles, globalRoleBindings, workspaceRoleBindings,
    roleBindings, namespaces, workspaces, workspaceTemplates, devopsProjects, builders, buildRuns,
    builderTemplates]

/-- The wire name of a section. -/
def name : Section → String
  | users => "users"
  | globalRoles => "globalRoles"
  | workspaceRoles => "workspaceRoles"
  | roles => "roles"
  | globalRoleBindings => "globalRoleBindings"
  | workspaceRoleBindings => "workspaceRoleBindings"
  | roleBindings => "roleBindings"
  | namespaces => "namespaces"
  | workspaces => "workspaces"
  | workspaceTemplates => "workspaceTemplates"
  | devopsProjects => "devopsProjects"
  | builders => "s2iBuilders"
  | buildRuns => "s2iRuns"
  | builderTemplates => "s2iBuilderTemplates"

end Section

/-- The objects of every section, in the order in which they were given. A key may come twice. -/
structure Snapshot where
  users : List User := []
  globalRoles : List Role := []
  workspaceRoles : List Role := []
  roles : List Role := []
  globalRoleBindings : List RoleBinding := []
  workspaceRoleBindings : List RoleBinding := []
  roleBindings : List RoleBinding := []
  namespaces : List OpaqueObject := []
  workspaces : List OpaqueObject := []
  workspaceTemplates : List OpaqueObject := []
  devopsProjects : List OpaqueObject := []
  builders : List OpaqueObject := []
  buildRuns : List OpaqueObject := []
  builderTemplates : List OpaqueObject := []
  deriving DecidableEq

namespace Snapshot

/-- No objects. -/
def empty : Snapshot := {}

instance : Inhabited Snapshot := ⟨empty⟩

open Decoder in
/-- Reads the wire form, of which every section may be left out. One object that cannot be read
makes the whole snapshot none. -/
def read {V : Type} [Document V] : Decoder V Snapshot := fun value => do
  let parts ← record (Section.all.map Section.name) value
  let objects {α : Type} (object : Decoder V α) (s : Section) : Option (List α) :=
    defaulted (list object) s.name [] parts
  return {
    users := ← objects User.read .users
    globalRoles := ← objects Role.read .globalRoles
    workspaceRoles := ← objects Role.read .workspaceRoles
    roles := ← objects Role.read .roles
    globalRoleBindings := ← objects RoleBinding.read .globalRoleBindings
    workspaceRoleBindings := ← objects RoleBinding.read .workspaceRoleBindings
    roleBindings := ← objects RoleBinding.read .roleBindings
    namespaces := ← objects OpaqueObject.read .namespaces
    workspaces := ← objects OpaqueObject.read .workspaces
    workspaceTemplates := ← objects OpaqueObject.read .workspaceTemplates
    devopsProjects := ← objects OpaqueObject.read .devopsProjects
    builders := ← objects OpaqueObject.read .builders
    buildRuns := ← objects OpaqueObject.read .buildRuns
    builderTemplates := ← objects OpaqueObject.read .builderTemplates }

end Snapshot

/-- A store for every section. -/
structure ObjectCache where
  users : Store User
  globalRoles : Store Role
  workspaceRoles : Store Role
  roles : Store Role
  globalRoleBindings : Store RoleBinding
  workspaceRoleBindings : Store RoleBinding
  roleBindings : Store RoleBinding
  namespaces : Store OpaqueObject
  workspaces : Store OpaqueObject
  workspaceTemplates : Store OpaqueObject
  devopsProjects : Store OpaqueObject
  builders : Store OpaqueObject
  buildRuns : Store OpaqueObject
  builderTemplates : Store OpaqueObject

namespace ObjectCache

/-- Empty stores, none of them synced. -/
def empty : ObjectCache :=
  ⟨.empty, .empty, .empty, .empty, .empty, .empty, .empty, .empty, .empty, .empty, .empty, .empty,
    .empty, .empty⟩

instance : Inhabited ObjectCache := ⟨empty⟩

/-- Replaces the store of one section by what a snapshot holds for it, and leaves the others. -/
def replace (cache : ObjectCache) (snapshot : Snapshot) : Section → ObjectCache
  | .users => { cache with users := .ofList snapshot.users }
  | .globalRoles => { cache with globalRoles := .ofList snapshot.globalRoles }
  | .workspaceRoles => { cache with workspaceRoles := .ofList snapshot.workspaceRoles }
  | .roles => { cache with roles := .ofList snapshot.roles }
  | .globalRoleBindings => { cache with globalRoleBindings := .ofList snapshot.globalRoleBindings }
  | .workspaceRoleBindings =>
    { cache with workspaceRoleBindings := .ofList snapshot.workspaceRoleBindings }
  | .roleBindings => { cache with roleBindings := .ofList snapshot.roleBindings }
  | .namespaces => { cache with namespaces := .ofList snapshot.namespaces }
  | .workspaces => { cache with workspaces := .ofList snapshot.workspaces }
  | .workspaceTemplates => { cache with workspaceTemplates := .ofList snapshot.workspaceTemplates }
  | .devopsProjects => { cache with devopsProjects := .ofList snapshot.devopsProjects }
  | .builders => { cache with builders := .ofList snapshot.builders }
  | .buildRuns => { cache with buildRuns := .ofList snapshot.buildRuns }
  | .builderTemplates => { cache with builderTemplates := .ofList snapshot.builderTemplates }

/-- The cache after the first `steps` sections of a snapshot have been loaded. Before the first step
it is the cache from before. -/
def loadSteps (cache : ObjectCache) (snapshot : Snapshot) (steps : Nat) : ObjectCache :=
  (Section.all.take steps).foldl (fun cache s => cache.replace snapshot s) cache

/-- The cache after all sections of a snapshot have been loaded. Nothing of the cache from before is
left. -/
def load (cache : ObjectCache) (snapshot : Snapshot) : ObjectCache :=
  cache.loadSteps snapshot Section.all.length

/-- A cache that holds a snapshot. -/
def ofSnapshot (snapshot : Snapshot) : ObjectCache := empty.load snapshot

/-- Whether the store of a section is synced. -/
def isSynced (cache : ObjectCache) : Section → Bool
  | .users => cache.users.synced
  | .globalRoles => cache.globalRoles.synced
  | .workspaceRoles => cache.workspaceRoles.synced
  | .roles => cache.roles.synced
  | .globalRoleBindings => cache.globalRoleBindings.synced
  | .workspaceRoleBindings => cache.workspaceRoleBindings.synced
  | .roleBindings => cache.roleBindings.synced
  | .namespaces => cache.namespaces.synced
  | .workspaces => cache.workspaces.synced
  | .workspaceTemplates => cache.workspaceTemplates.synced
  | .devopsProjects => cache.devopsProjects.synced
  | .builders => cache.builders.synced
  | .buildRuns => cache.buildRuns.synced
  | .builderTemplates => cache.builderTemplates.synced

/-- Whether the stores of all sections are synced. -/
def hasSynced (cache : ObjectCache) : Bool := Section.all.all cache.isSynced

/-- Waits until all sections are synced, for at most the given time. Nothing is loaded while
the wait lasts, so it ends at once or with the time. -/
def waitForSync (cache : ObjectCache) (timeout : Time.Duration) : Outcome Unit :=
  if cache.hasSynced then .ok () else .error (.syncTimedOut timeout)

/-- The wire forms of the objects of a section, in key order. -/
def wireObjects (cache : ObjectCache) : Section → List Json
  | .users => cache.users.toList.map User.wire
  | .globalRoles => cache.globalRoles.toList.map Role.wire
  | .workspaceRoles => cache.workspaceRoles.toList.map Role.wire
  | .roles => cache.roles.toList.map Role.wire
  | .globalRoleBindings => cache.globalRoleBindings.toList.map RoleBinding.wire
  | .workspaceRoleBindings => cache.workspaceRoleBindings.toList.map RoleBinding.wire
  | .roleBindings => cache.roleBindings.toList.map RoleBinding.wire
  | .namespaces => cache.namespaces.toList.map OpaqueObject.wire
  | .workspaces => cache.workspaces.toList.map OpaqueObject.wire
  | .workspaceTemplates => cache.workspaceTemplates.toList.map OpaqueObject.wire
  | .devopsProjects => cache.devopsProjects.toList.map OpaqueObject.wire
  | .builders => cache.builders.toList.map OpaqueObject.wire
  | .buildRuns => cache.buildRuns.toList.map OpaqueObject.wire
  | .builderTemplates => cache.builderTemplates.toList.map OpaqueObject.wire

end ObjectCache

end AccessGateway
