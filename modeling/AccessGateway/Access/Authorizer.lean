import AccessGateway.Access.Scope
import AccessGateway.Cluster.Snapshot

/-!
# `AccessGateway.Access.Authorizer`: role-based authorization

`ObjectCache.authorize` decides whether an identity may take an action in a scope. It reads six
sections of the cache, the three of roles and the three of bindings, and nothing else.

* `ObjectCache.bindingsIn`: global bindings are in effect everywhere, workspace bindings in the
  workspace of their label and namespace bindings in their namespace. The empty namespace lists the
  bindings of every namespace, as listings of a store do.
* `ObjectCache.grantedRole`: a binding grants a role of its own reach or a broader one, and a
  workspace binding only a workspace role of its own workspace. Any other binding is ignored, and
  so is one whose role is not there.
* `ObjectCache.authorize`: the first binding in effect with a rule for the action decides. Without
  one the action is denied. The reason of an allowance names the role and the binding, that of a
  denial only repeats what was asked for.

Bindings are looked at broadest reach first, and in the order of their keys within a section, so
the reason of an allowance is determined by the cache as well.
-/

set_option autoImplicit false

namespace AccessGateway

/-- Whether a subject stands for an identity: a user by name, a group for all its members. Service
accounts stand for no one here, since no authenticator gives an identity for one. -/
def Subject.isFor (subject : Subject) (user : Identity) : Bool :=
  match subject.kind with
  | .user => subject.name == user.name
  | .group => user.groups.contains subject.name
  | .serviceAccount => false

/-- Whether a binding lists an identity among its subjects, by its name or by one of its groups. -/
def RoleBinding.appliesTo (binding : RoleBinding) (user : Identity) : Bool :=
  binding.subjects.any fun subject => subject.isFor user

namespace ObjectCache

/-- The bindings in effect in a scope, each with the reach of the section it comes from. The reach
is kept because a binding of one section may refer to a role of another. -/
def bindingsIn (cache : ObjectCache) (scope : Scope) : List (RoleKind × RoleBinding) :=
  let everywhere := (cache.globalRoleBindings.list "" .everything).map (RoleKind.globalRole, ·)
  match scope with
  | .cluster => everywhere
  | .workspace name =>
    let selector := Selector.everything.withLabel workspaceLabel name
    everywhere ++ (cache.workspaceRoleBindings.list "" selector).map (RoleKind.workspaceRole, ·)
  | .namespace name =>
    everywhere ++ (cache.roleBindings.list name .everything).map (RoleKind.role, ·)

/-- The role that a binding grants, for a binding of the given reach: the one that its reference
names, if that is not narrower than the reach and is there. Global and workspace roles are looked up
without a namespace, other roles in the namespace of the binding. -/
def grantedRole (cache : ObjectCache) (reach : RoleKind) (binding : RoleBinding) : Option Role :=
  if binding.roleRef.kind.isNarrowerThan reach then none
  else match binding.roleRef.kind with
    | .globalRole => cache.globalRoles.get? "" binding.roleRef.name
    | .workspaceRole => do
      let role ← cache.workspaceRoles.get? "" binding.roleRef.name
      -- a workspace's binding does not refer to the roles of other workspaces
      if reach = .workspaceRole ∧ role.metadata.workspace ≠ binding.metadata.workspace then none
      else some role
    | .role => cache.roles.get? binding.metadata.namespace binding.roleRef.name

/-- The role through which a binding allows an action, if it does: the binding applies to the
identity, grants a role, and a rule of the role is for the action. -/
def grantingRole (cache : ObjectCache) (user : Identity) (action : Action)
    (entry : RoleKind × RoleBinding) : Option Role :=
  if entry.2.appliesTo user then
    (cache.grantedRole entry.1 entry.2).filter fun role =>
      role.rules.any fun rule => rule.allows action.verb action.resource action.name
  else none

/-- Why an action is allowed: the role, its kind and the binding of the first grant that was
found. -/
def allowReason (role : Role) (binding : RoleBinding) : String :=
  "allowed by " ++ Text.quoted role.metadata.name ++ " " ++ binding.roleRef.kind.name ++
    " via binding " ++ Text.quoted binding.metadata.name

/-- Why an action is denied. It names what was asked for and nothing that the cluster holds. -/
def denyReason (user : Identity) (action : Action) : String :=
  "user " ++ Text.quoted user.name ++ " cannot " ++ action.verb ++ " " ++ action.resource ++
    " in " ++ action.scope.display

/-- Decides whether an identity may do something. The search stops at the first binding that grants
it, and a binding that grants nothing is passed over, whatever the cause. -/
def authorize (cache : ObjectCache) (user : Identity) (action : Action) : Decision :=
  let grant := (cache.bindingsIn action.scope).findSome? fun entry =>
    (cache.grantingRole user action entry).map fun role => allowReason role entry.2
  match grant with
  | some reason => ⟨true, reason⟩
  | none => ⟨false, denyReason user action⟩

end ObjectCache

end AccessGateway
