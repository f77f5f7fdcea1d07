import AccessGateway.Cluster.Snapshot

/-!
# `AccessGateway.Proofs.Cluster.Reload`: the stores while a snapshot is loaded

A snapshot is loaded section by section, so for some time a cache holds new objects in some
sections and old ones in the others. `ObjectCache.store` names a store by its section, and with
it what a cache holds at any moment of a load is one equation for all fourteen of them. The type of
the objects depends on the section, so the equation is between stores of one section and the case
analysis over the sections happens here, once.

* `ObjectCache.store_replace`: a replacement touches one section only.
* `ObjectCache.store_loadSteps`: a section holds the new objects once it is loaded, and the old
  ones before.
-/

set_option autoImplicit false

namespace AccessGateway

/-- What a section holds. Roles of the three reaches are of one type, and so are bindings; the rest
of the cluster is known by metadata and status only. -/
def Section.Object : Section → Type
  | .users => User
  | .globalRoles | .workspaceRoles | .roles => Role
  | .globalRoleBindings | .workspaceRoleBindings | .roleBindings => RoleBinding
  | .namespaces | .workspaces | .workspaceTemplates | .devopsProjects
  | .builders | .buildRuns | .builderTemplates => OpaqueObject

namespace ObjectCache

/-- The store of a section. Look-ups by section are what results about all sections are stated with;
programs name the field. -/
def store (cache : ObjectCache) : (part : Section) → Store part.Object
  | .users => cache.users
  | .globalRoles => cache.globalRoles
  | .workspaceRoles => cache.workspaceRoles
  | .roles => cache.roles
  | .globalRoleBindings => cache.globalRoleBindings
  | .workspaceRoleBindings => cache.workspaceRoleBindings
  | .roleBindings => cache.roleBindings
  | .namespaces => cache.namespaces
  | .workspaces => cache.workspaces
  | .workspaceTemplates => cache.workspaceTemplates
  | .devopsProjects => cache.devopsProjects
  | .builders => cache.builders
  | .buildRuns => cache.buildRuns
  | .builderTemplates => cache.builderTemplates

variable (cache : ObjectCache) (new : Snapshot)

/-- A replacement touches one section only, and leaves in it what a full load would leave. -/
theorem store_replace (part replaced : Section) :
    (cache.replace new replaced).store part
      = if part = replaced then (cache.load new).store part else cache.store part := by
  cases part <;> cases replaced <;> rfl

/-- After some sections were replaced one by one, a section has its new objects if it was one of
them, and its old ones otherwise. The order of the replacements does not matter, nor does a section
that is replaced twice. -/
theorem store_foldl_replace (parts : List Section) (part : Section) :
    (parts.foldl (fun cache s => cache.replace new s) cache).store part
      = if part ∈ parts then (cache.load new).store part else cache.store part := by
  -- what a full load leaves in a section does not depend on the cache that the fold goes on with
  have hload : ∀ other : ObjectCache,
      (other.load new).store part = (cache.load new).store part := by
    intro other
    cases part <;> rfl
  -- by induction on what is still to be replaced, for whatever cache that finds
  induction parts generalizing cache with
  | nil => rw [List.foldl_nil, if_neg List.not_mem_nil]
  | cons replaced rest ih =>
    rw [List.foldl_cons, ih _ fun other => (hload other).trans (hload _).symm, hload, store_replace]
    by_cases hrest : part ∈ rest
    · rw [if_pos hrest, if_pos (List.mem_cons_of_mem _ hrest)]
    · rw [if_neg hrest]
      simp only [List.mem_cons, hrest, or_false]

/-- A section holds the new objects once it is loaded, and the old ones before. -/
theorem store_loadSteps (steps : Nat) (part : Section) :
    (cache.loadSteps new steps).store part
      = if part ∈ Section.all.take steps then (cache.load new).store part
        else cache.store part :=
  store_foldl_replace cache new _ part

end ObjectCache

end AccessGateway
