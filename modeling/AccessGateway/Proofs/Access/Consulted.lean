import AccessGateway.Proofs.Access.Grant

/-!
# `AccessGateway.Proofs.Access.Consulted`: what a decision depends on

A decision reads the bindings of a scope, and then the roles that these refer to. Two caches with
the same bindings in the scope, and the same roles behind them, therefore decide alike, whatever
else they hold. The decisions are equal as a whole, with their reasons: the same bindings are asked
in the same order.

* `ObjectCache.reach_of_mem_bindingsIn`: the reach of a binding of a scope.
* `ObjectCache.grantedRole_congr`: the roles that a binding of some reach can refer to. A global
  binding cannot refer to a workspace role, nor a workspace binding to a role of a namespace, so
  less has to agree the broader the reach is.
* `ObjectCache.authorize_congr`: decisions are alike when bindings and their roles are.

Isolation of scopes (`Proofs.Access.Isolation`) and the moments of a load (`Proofs.Access.Reload`)
both come down to `ObjectCache.authorize_congr`, with different reasons for its two hypotheses.
-/

set_option autoImplicit false

namespace AccessGateway.ObjectCache

/-- A binding of a scope is a global one, or one of the workspace or namespace that the scope is. In
a namespace it is one that is listed for that namespace, which says more than the reach does. -/
theorem reach_of_mem_bindingsIn {cache : ObjectCache} {scope : Scope}
    {entry : RoleKind × RoleBinding} (hmem : entry ∈ cache.bindingsIn scope) :
    entry.1 = .globalRole ∨ (∃ name, scope = .workspace name ∧ entry.1 = .workspaceRole) ∨
      ∃ name, scope = .namespace name ∧ entry.1 = .role ∧
        entry.2 ∈ cache.roleBindings.list name .everything := by
  rcases mem_bindingsIn.mp hmem with ⟨hreach, -⟩ | ⟨name, hscope, hreach, -⟩ | hown
  · exact Or.inl hreach
  · exact Or.inr (Or.inl ⟨name, hscope, hreach⟩)
  · exact Or.inr (Or.inr hown)

variable {cache other : ObjectCache}

/-- The role that a binding grants is a global one, or unless the binding is global a workspace
role, or for a binding of a namespace a role of its namespace. Look-ups elsewhere need not agree. -/
theorem grantedRole_congr {reach : RoleKind} {binding : RoleBinding}
    (hglobal : ∀ name, cache.globalRoles.get? "" name = other.globalRoles.get? "" name)
    (hworkspace : reach ≠ .globalRole →
      ∀ name, cache.workspaceRoles.get? "" name = other.workspaceRoles.get? "" name)
    (hrole : reach = .role → ∀ name, cache.roles.get? binding.metadata.namespace name
      = other.roles.get? binding.metadata.namespace name) :
    cache.grantedRole reach binding = other.grantedRole reach binding := by
  rw [grantedRole, grantedRole]
  split
  · rfl
  · rename_i hreaches
    -- the kind of the reference names the section, and the reach is not broader than the kind
    cases hkind : binding.roleRef.kind with
    | globalRole => exact hglobal _
    | workspaceRole =>
      have hreach : reach ≠ .globalRole := by
        rintro rfl
        exact hreaches (by rw [hkind]; rfl)
      simp only [hworkspace hreach]
    | role =>
      have hreach : reach = .role := by
        rw [hkind] at hreaches
        cases reach with
        | globalRole => exact absurd rfl hreaches
        | workspaceRole => exact absurd rfl hreaches
        | role => rfl
      exact hrole hreach _

/-- A search that looks only at the entries of a list finds the same as another one that agrees
on them. -/
theorem findSome?_congr_of_mem {α β : Type} {f g : α → Option β} {entries : List α}
    (h : ∀ entry ∈ entries, f entry = g entry) : entries.findSome? f = entries.findSome? g := by
  induction entries with
  | nil => rfl
  | cons entry rest ih =>
    rw [List.findSome?_cons, List.findSome?_cons, h entry List.mem_cons_self,
      ih fun e he => h e (List.mem_cons_of_mem _ he)]

/-- A decision depends on the bindings of the scope and on the roles that they grant. The bindings
have to be the same list, since the order decides which grant the reason names. -/
theorem authorize_congr (user : Identity) (action : Action)
    (hbindings : cache.bindingsIn action.scope = other.bindingsIn action.scope)
    (hroles : ∀ entry ∈ cache.bindingsIn action.scope,
      cache.grantedRole entry.1 entry.2 = other.grantedRole entry.1 entry.2) :
    cache.authorize user action = other.authorize user action := by
  rw [authorize, authorize, ← hbindings, findSome?_congr_of_mem fun entry hmem => ?_]
  rw [grantingRole, grantingRole, hroles entry hmem]

end AccessGateway.ObjectCache
