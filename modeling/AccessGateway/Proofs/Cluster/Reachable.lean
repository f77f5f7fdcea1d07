import AccessGateway.Proofs.Cluster.Reload
import AccessGateway.Proofs.Cluster.Store

/-!
# `AccessGateway.Proofs.Cluster.Reachable`: what every cache keeps

A store is filled by replacing its objects as a whole, and every object is put under its own key.
So what is looked up by namespace and name has that namespace and that name, whatever a cache has
loaded so far, and in whichever order.

`ObjectCache.Reachable` is the set of caches that a running program can have: a cache begins empty,
and from then on single sections are replaced. A load is fourteen such replacements, and a reader
may come between any two of them, so results that hold of reachable caches hold in the middle of a
load as well.

* `ObjectCache.store_load`: what a section holds after a load.
* `ObjectCache.Reachable.isKeyed`: the stores of every cache that began empty keep their objects
  under their own keys.
-/

set_option autoImplicit false

namespace AccessGateway

/-- The objects of any section have metadata and a wire form. -/
instance Section.instClusterObject : (part : Section) → ClusterObject part.Object
  | .users => inferInstanceAs (ClusterObject User)
  | .globalRoles | .workspaceRoles | .roles => inferInstanceAs (ClusterObject Role)
  | .globalRoleBindings | .workspaceRoleBindings | .roleBindings =>
    inferInstanceAs (ClusterObject RoleBinding)
  | .namespaces | .workspaces | .workspaceTemplates | .devopsProjects
  | .builders | .buildRuns | .builderTemplates => inferInstanceAs (ClusterObject OpaqueObject)

/-- The objects of a section in a snapshot, as a list in which keys may repeat. -/
def Snapshot.objects (snapshot : Snapshot) : (part : Section) → List part.Object
  | .users => snapshot.users
  | .globalRoles => snapshot.globalRoles
  | .workspaceRoles => snapshot.workspaceRoles
  | .roles => snapshot.roles
  | .globalRoleBindings => snapshot.globalRoleBindings
  | .workspaceRoleBindings => snapshot.workspaceRoleBindings
  | .roleBindings => snapshot.roleBindings
  | .namespaces => snapshot.namespaces
  | .workspaces => snapshot.workspaces
  | .workspaceTemplates => snapshot.workspaceTemplates
  | .devopsProjects => snapshot.devopsProjects
  | .builders => snapshot.builders
  | .buildRuns => snapshot.buildRuns
  | .builderTemplates => snapshot.builderTemplates

namespace ObjectCache

/-- What a load leaves in a section is what the snapshot has for it. -/
theorem store_load (cache : ObjectCache) (snapshot : Snapshot) (part : Section) :
    (cache.load snapshot).store part = .ofList (snapshot.objects part) := by
  cases part <;> rfl

/-- Caches that began empty, with sections replaced one by one since then. A load replaces all
sections, but may be looked at in the middle. -/
inductive Reachable : ObjectCache → Prop where
  | empty : Reachable .empty
  | replace {cache : ObjectCache} (snapshot : Snapshot) (part : Section) (h : Reachable cache) :
      Reachable (cache.replace snapshot part)

/-- The stores of a cache keep their objects under their own keys. What a look-up finds then has the
namespace and the name that it was looked up by. -/
def IsKeyed (cache : ObjectCache) : Prop := ∀ part, (cache.store part).IsKeyed

/-- Whatever the cache was, after a load every object stands under its own key. -/
theorem isKeyed_load (cache : ObjectCache) (snapshot : Snapshot) :
    (cache.load snapshot).IsKeyed := by
  intro part
  rw [store_load]
  exact Store.isKeyed_ofList _

/-- So do those of every cache that began empty: the empty stores hold nothing, and a replacement
leaves in its section what a load would, and in the others what they held. -/
theorem Reachable.isKeyed {cache : ObjectCache} (h : cache.Reachable) : cache.IsKeyed := by
  induction h with
  | empty =>
    intro part
    cases part <;> exact Store.isKeyed_empty
  | replace snapshot replaced h ih =>
    intro part
    rw [store_replace]
    split
    · exact isKeyed_load _ snapshot part
    · exact ih part

/-- A cache that holds a snapshot can be reached. -/
theorem reachable_ofSnapshot (snapshot : Snapshot) : (ofSnapshot snapshot).Reachable :=
  List.foldlRecOn _ _ Reachable.empty fun _ h part _ => h.replace snapshot part

end ObjectCache

end AccessGateway
