import AccessGateway.Proofs.Access.Consulted
import AccessGateway.Proofs.Cluster.Reload
import Mathlib.Data.List.Basic

/-!
# `AccessGateway.Proofs.Access.Reload`: decisions while a snapshot is loaded

A decision reads the roles and bindings of its scope, and those are sections of their own. Until a
load has replaced the first of them a decision is the one under the old snapshot, and once it has
replaced the last one it is the one under the new. Between the two, roles of the new snapshot
meet bindings of the old, and an action may be allowed that neither snapshot allows.

Roles are loaded before bindings, so that a new binding never meets an old role. What goes wrong in
between is therefore always due to a binding that the new snapshot may have dropped.

* `RoleKind.consulted`: the sections that a decision reads, by the reach of its scope. The first of
  them to be loaded is that of the global roles, the last one that of the scope's own bindings.
* `ObjectCache.authorize_congr_of_consulted`: a decision depends on these sections.
* `ObjectCache.authorize_loadSteps_old`, `ObjectCache.authorize_loadSteps_new`: a load is not
  noticed where the sections that it has replaced, or has still to replace, hold the same in both
  snapshots.
* `ObjectCache.authorize_loadSteps_allowed`: an allowance that the new snapshot does not give is
  due to a binding of the old one.
* `ObjectCache.loadSteps_decides_as_one_iff`: the moments of a load at which every decision of a
  scope is that of one of the two snapshots.

For the last result `operatorBound` is a snapshot whose only binding is in effect in the given scope
and refers to a role that is missing. Loading the role without the binding then tears the decision
at every moment between the two sections, whatever the scope.
-/

set_option autoImplicit false

namespace AccessGateway

namespace RoleKind

/-- The section of the bindings of a reach. -/
def bindingSection : RoleKind → Section
  | .globalRole => .globalRoleBindings
  | .workspaceRole => .workspaceRoleBindings
  | .role => .roleBindings

/-- The section of the roles of a kind. -/
def roleSection : RoleKind → Section
  | .globalRole => .globalRoles
  | .workspaceRole => .workspaceRoles
  | .role => .roles

/-- The sections that a decision reads where bindings of a reach are in effect: the roles that such
bindings, or global ones, may refer to, and the bindings themselves. -/
def consulted : RoleKind → List Section
  | .globalRole => [.globalRoles, .globalRoleBindings]
  | .workspaceRole => [.globalRoles, .workspaceRoles, .globalRoleBindings, .workspaceRoleBindings]
  | .role => [.globalRoles, .workspaceRoles, .roles, .globalRoleBindings, .roleBindings]

/-- Of what a decision reads, the global roles are loaded first and the bindings of the scope itself
last. So one of these two settles whether all, some or none of it has been loaded. -/
theorem idxOf_consulted (reach : RoleKind) : ∀ part ∈ reach.consulted,
    Section.all.idxOf .globalRoles ≤ Section.all.idxOf part ∧
      Section.all.idxOf part ≤ Section.all.idxOf reach.bindingSection := by
  cases reach <;> decide

/-- A decision in any scope looks at the bindings of the whole cluster and at those of the scope. -/
theorem bindingSection_mem_consulted (reach : RoleKind) :
    .globalRoleBindings ∈ reach.consulted ∧ reach.bindingSection ∈ reach.consulted := by
  cases reach <;> decide

/-- Roles are read of every kind that bindings of the reach may refer to. -/
theorem roleSection_mem_consulted {kind reach : RoleKind} (hreach : kind.rank ≤ reach.rank) :
    kind.roleSection ∈ reach.consulted := by
  revert hreach
  cases kind <;> cases reach <;> decide

end RoleKind

/-- The reach of the bindings that are in effect in a scope but not everywhere. -/
def Scope.reach : Scope → RoleKind
  | .cluster => .globalRole
  | .workspace _ => .workspaceRole
  | .namespace _ => .role

namespace Section

/-- The sections that the first steps of a load have replaced are told by their places in the order
of the load. Each section has one place in it. -/
theorem mem_take_all_iff (part : Section) (steps : Nat) :
    part ∈ all.take steps ↔ all.idxOf part < steps :=
  List.mem_take_iff_idxOf_lt (by cases part <;> decide)

/-- Sections are loaded in their order. -/
theorem mem_take_all_of_le {part earlier : Section} {steps : Nat}
    (hle : all.idxOf earlier ≤ all.idxOf part) (hloaded : part ∈ all.take steps) :
    earlier ∈ all.take steps := by
  rw [mem_take_all_iff] at hloaded ⊢
  exact Nat.lt_of_le_of_lt hle hloaded

end Section

namespace ObjectCache

variable {cache other : ObjectCache}

/-! ### What a decision reads -/

/-- The bindings of a reach that a decision reads are in the section of that reach, so two caches
that hold the same there have the same bindings of that reach in any scope. -/
theorem mem_bindingsIn_congr {scope : Scope} {entry : RoleKind × RoleBinding}
    (hstore : cache.store entry.1.bindingSection = other.store entry.1.bindingSection)
    (hmem : entry ∈ cache.bindingsIn scope) : entry ∈ other.bindingsIn scope := by
  obtain ⟨reach, binding⟩ := entry
  -- each section has its own reach, so only the section of this reach matters
  refine mem_bindingsIn.mpr ?_
  rcases mem_bindingsIn.mp hmem with
    ⟨rfl, hlisted⟩ | ⟨name, hscope, rfl, hlisted⟩ | ⟨name, hscope, rfl, hlisted⟩
  · have hsame : cache.globalRoleBindings = other.globalRoleBindings := hstore
    exact Or.inl ⟨rfl, hsame ▸ hlisted⟩
  · have hsame : cache.workspaceRoleBindings = other.workspaceRoleBindings := hstore
    exact Or.inr (Or.inl ⟨name, hscope, rfl, hsame ▸ hlisted⟩)
  · have hsame : cache.roleBindings = other.roleBindings := hstore
    exact Or.inr (Or.inr ⟨name, hscope, rfl, hsame ▸ hlisted⟩)

/-- The role that a binding refers to is in the section of its kind. No other section matters for
what it grants. -/
theorem grantedRole_congr_of_store {reach : RoleKind} {binding : RoleBinding}
    (hstore : cache.store binding.roleRef.kind.roleSection
      = other.store binding.roleRef.kind.roleSection) :
    cache.grantedRole reach binding = other.grantedRole reach binding := by
  rw [grantedRole, grantedRole]
  cases hkind : binding.roleRef.kind with
  | globalRole =>
    rw [hkind] at hstore
    have hroles : cache.globalRoles = other.globalRoles := hstore
    rw [hroles]
  | workspaceRole =>
    rw [hkind] at hstore
    have hroles : cache.workspaceRoles = other.workspaceRoles := hstore
    rw [hroles]
  | role =>
    rw [hkind] at hstore
    have hroles : cache.roles = other.roles := hstore
    rw [hroles]

/-- A decision depends on the sections of its scope. A reference to a section outside of them is
narrower than the reach of its binding, and grants nothing. -/
theorem authorize_congr_of_consulted {user : Identity} {action : Action}
    (h : ∀ part ∈ action.scope.reach.consulted, cache.store part = other.store part) :
    cache.authorize user action = other.authorize user action := by
  have hglobal : cache.globalRoleBindings = other.globalRoleBindings :=
    h _ (RoleKind.bindingSection_mem_consulted _).1
  have hown := h _ (RoleKind.bindingSection_mem_consulted _).2
  have hbindings : cache.bindingsIn action.scope = other.bindingsIn action.scope := by
    cases hscope : action.scope with
    | cluster => simp only [bindingsIn, hglobal]
    | workspace name =>
      rw [hscope] at hown
      have hown : cache.workspaceRoleBindings = other.workspaceRoleBindings := hown
      simp only [bindingsIn, hglobal, hown]
    | «namespace» name =>
      rw [hscope] at hown
      have hown : cache.roleBindings = other.roleBindings := hown
      simp only [bindingsIn, hglobal, hown]
  refine authorize_congr user action hbindings fun entry hmem => ?_
  have hreach : entry.1.rank ≤ action.scope.reach.rank := by
    rcases reach_of_mem_bindingsIn hmem with hreach | ⟨_, hscope, hreach⟩ | ⟨_, hscope, hreach, -⟩
    · rw [hreach]
      exact Nat.zero_le _
    · rw [hreach, hscope]
      exact Nat.le_refl _
    · rw [hreach, hscope]
      exact Nat.le_refl _
  by_cases hnarrow : entry.2.roleRef.kind.isNarrowerThan entry.1 = true
  · -- such a reference grants nothing in either cache
    rw [grantedRole, grantedRole, if_pos hnarrow, if_pos hnarrow]
  · have hkind : entry.2.roleRef.kind.rank ≤ entry.1.rank := by
      simpa [RoleKind.isNarrowerThan] using hnarrow
    exact grantedRole_congr_of_store
      (h _ (RoleKind.roleSection_mem_consulted (Nat.le_trans hkind hreach)))

/-! ### Moments of a load -/

section
variable {new : Snapshot} {steps : Nat} {user : Identity} {action : Action}

/-- A decision is the one before the load, if what it reads was not replaced by something else.
Either it was not replaced, or by the same objects. -/
theorem authorize_loadSteps_old
    (h : ∀ part ∈ action.scope.reach.consulted, part ∈ Section.all.take steps →
      (cache.load new).store part = cache.store part) :
    (cache.loadSteps new steps).authorize user action = cache.authorize user action := by
  refine authorize_congr_of_consulted fun part hpart => ?_
  rw [store_loadSteps]
  split
  · exact h part hpart ‹_›
  · rfl

/-- A decision is the one after the load, if nothing that it reads has still to be replaced by
something else. -/
theorem authorize_loadSteps_new
    (h : ∀ part ∈ action.scope.reach.consulted, part ∉ Section.all.take steps →
      cache.store part = (cache.load new).store part) :
    (cache.loadSteps new steps).authorize user action = (cache.load new).authorize user action := by
  refine authorize_congr_of_consulted fun part hpart => ?_
  rw [store_loadSteps]
  split
  · rfl
  · exact h part hpart ‹_›

/-- An action that is allowed during a load is allowed after it, or is allowed by a binding from
before the load, through the role that it refers to before or after. New bindings never grant more
than they should: the roles are there before them. -/
theorem authorize_loadSteps_allowed
    (hallowed : ((cache.loadSteps new steps).authorize user action).allowed = true) :
    ((cache.load new).authorize user action).allowed = true ∨
      ∃ entry ∈ cache.bindingsIn action.scope, ∃ role,
        cache.grantingRole user action entry = some role ∨
          (cache.load new).grantingRole user action entry = some role := by
  obtain ⟨entry, hmem, role, hrole⟩ := (authorize_allowed_iff _ _ _).mp hallowed
  have hbindings := store_loadSteps cache new steps entry.1.bindingSection
  have hroles := store_loadSteps cache new steps entry.2.roleRef.kind.roleSection
  split at hbindings
  · rename_i hloaded
    -- the bindings are new, and so are the roles, which are loaded before any bindings
    have hearlier : Section.all.idxOf entry.2.roleRef.kind.roleSection
        ≤ Section.all.idxOf entry.1.bindingSection := by
      cases entry.2.roleRef.kind <;> cases entry.1 <;> decide
    rw [if_pos (Section.mem_take_all_of_le hearlier hloaded)] at hroles
    refine Or.inl ((authorize_allowed_iff _ _ _).mpr
      ⟨entry, mem_bindingsIn_congr hbindings hmem, role, ?_⟩)
    rw [← hrole, grantingRole, grantingRole, grantedRole_congr_of_store hroles]
  · refine Or.inr ⟨entry, mem_bindingsIn_congr hbindings hmem, role, ?_⟩
    split at hroles
    · refine Or.inr ?_
      rw [← hrole, grantingRole, grantingRole, grantedRole_congr_of_store hroles]
    · refine Or.inl ?_
      rw [← hrole, grantingRole, grantingRole, grantedRole_congr_of_store hroles]

end

/-! ### Torn decisions -/

/-- A role of the whole cluster that lets someone delete users. -/
def operator : Role := ⟨.named "operator", [⟨["delete"], ["users"], []⟩]⟩

/-- A binding of bob to the operators that is in effect in a scope. Its metadata put it there:
nothing for the cluster, the label of a workspace, or a namespace. -/
def operatorBinding (scope : Scope) : RoleBinding where
  metadata := match scope with
    | .cluster => .named "bob-operator"
    | .workspace name => (Metadata.named "bob-operator").withLabel workspaceLabel name
    | .namespace name => .namespaced name "bob-operator"
  subjects := [⟨.user, "bob"⟩]
  roleRef := ⟨.globalRole, "operator"⟩

/-- A snapshot of nothing but that binding, in the section of its reach. The role that it refers to
is missing. -/
def operatorBound (scope : Scope) : Snapshot :=
  match scope.reach with
  | .globalRole => { globalRoleBindings := [operatorBinding scope] }
  | .workspaceRole => { workspaceRoleBindings := [operatorBinding scope] }
  | .role => { roleBindings := [operatorBinding scope] }

/-- The binding that was put into the snapshot is among those that a decision in its scope goes
through. For the empty namespace as well, which lists all of them. -/
theorem mem_bindingsIn_operatorBound (cache : ObjectCache) (scope : Scope) :
    (scope.reach, operatorBinding scope)
      ∈ (cache.load (operatorBound scope)).bindingsIn scope := by
  cases scope with
  | cluster =>
    exact List.mem_map_of_mem ((Store.mem_list_ofList _ _ _ _).mpr
      ⟨⟨[], [], rfl, nofun⟩, Or.inl rfl, Selector.everything_accepts _⟩)
  | workspace name =>
    exact List.mem_append_right _ (List.mem_map_of_mem ((Store.mem_list_ofList _ _ _ _).mpr
      ⟨⟨[], [], rfl, nofun⟩, Or.inl rfl,
        (Selector.everything_withLabel_accepts _ _ _).mpr Std.ExtTreeMap.getElem?_insert_self⟩))
  | «namespace» name =>
    exact List.mem_append_right _ (List.mem_map_of_mem ((Store.mem_list_ofList _ _ _ _).mpr
      ⟨⟨[], [], rfl, nofun⟩, Or.inr rfl, Selector.everything_accepts _⟩))

section
variable (cache : ObjectCache) (scope : Scope)

/-- Bob may do nothing as long as the role is missing. No one may do anything, as there are no
roles. -/
theorem authorize_operatorBound (user : Identity) (action : Action) :
    ((cache.load (operatorBound scope)).authorize user action).allowed = false := by
  have hroles : (operatorBound scope).globalRoles = [] ∧ (operatorBound scope).workspaceRoles = [] ∧
      (operatorBound scope).roles = [] := by
    cases scope <;> exact ⟨rfl, rfl, rfl⟩
  have hnothing : ∀ role : Role, ¬ IsLastOfKey [] role := by
    rintro role ⟨before, after, heq, -⟩
    cases before <;> cases heq
  refine (authorize_denied_iff _ _ _).mpr fun entry _ => Option.eq_none_iff_forall_not_mem.mpr ?_
  intro role hrole
  rcases ((grantingRole_load_eq_some_iff _ _ _ _ _ _ _).mp hrole).2.2.1 with
    ⟨-, hkept, -, -⟩ | ⟨-, hkept, -, -, -⟩ | ⟨-, hkept, -, -⟩
  · exact hnothing role (hroles.1 ▸ hkept)
  · exact hnothing role (hroles.2.1 ▸ hkept)
  · exact hnothing role (hroles.2.2 ▸ hkept)

/-- Bob may do nothing once the role is there and his binding is gone. No one may do anything, as
there are no bindings. -/
theorem authorize_operator (user : Identity) (action : Action) :
    ((cache.load { globalRoles := [operator] }).authorize user action).allowed = false := by
  have hbindings : (cache.load { globalRoles := [operator] }).bindingsIn action.scope = [] := by
    cases action.scope <;> rfl
  rw [authorize_denied_iff, hbindings]
  exact nofun

/-- Bob may delete users while his binding is still there and the role is already. This is neither
what he may do before the load nor what he may do after it. -/
theorem authorize_loadSteps_operator {steps : Nat}
    (hroles : .globalRoles ∈ Section.all.take steps)
    (hbindings : scope.reach.bindingSection ∉ Section.all.take steps) :
    (((cache.load (operatorBound scope)).loadSteps { globalRoles := [operator] } steps).authorize
      (.named "bob") ⟨"delete", "users", none, scope⟩).allowed = true := by
  have hbound := store_loadSteps (cache.load (operatorBound scope)) { globalRoles := [operator] }
    steps scope.reach.bindingSection
  rw [if_neg hbindings] at hbound
  have hstore := store_loadSteps (cache.load (operatorBound scope)) { globalRoles := [operator] }
    steps .globalRoles
  rw [if_pos hroles] at hstore
  have hrole : ((cache.load (operatorBound scope)).loadSteps { globalRoles := [operator] }
      steps).grantedRole scope.reach (operatorBinding scope) = some operator := by
    rw [grantedRole_congr_of_store hstore]
    have hfound : (Store.ofList [operator]).get? "" "operator" = some operator :=
      (Store.get?_ofList_eq_some_iff _ _ _ _).mpr ⟨⟨[], [], rfl, nofun⟩, rfl, rfl⟩
    cases scope <;> exact hfound
  refine (authorize_allowed_iff _ _ _).mpr ⟨(scope.reach, operatorBinding scope),
    mem_bindingsIn_congr hbound.symm (mem_bindingsIn_operatorBound cache scope), operator, ?_⟩
  have happlies : (operatorBinding scope).appliesTo (.named "bob") = true :=
    (RoleBinding.appliesTo_iff _ _).mpr ⟨_, List.mem_singleton_self _, Or.inl ⟨rfl, rfl⟩⟩
  rw [grantingRole, if_pos happlies, hrole]
  rfl

end

/-- Every decision of a scope during a load is that of one of the two snapshots, at a moment at
which all or none of what it reads has been replaced, and at no other. At any other moment there are
snapshots, the same for all such moments, between which a decision is that of neither. -/
theorem loadSteps_decides_as_one_iff (scope : Scope) (steps : Nat) :
    (∀ (cache : ObjectCache) (old new : Snapshot) (user : Identity) (action : Action),
      action.scope = scope →
        let during := ((cache.load old).loadSteps new steps).authorize user action
        during.allowed = ((cache.load old).authorize user action).allowed ∨
          during.allowed = ((cache.load new).authorize user action).allowed)
      ↔ (∀ part ∈ scope.reach.consulted, part ∉ Section.all.take steps) ∨
        ∀ part ∈ scope.reach.consulted, part ∈ Section.all.take steps := by
  constructor
  · intro hone
    refine Decidable.byContradiction fun htorn => ?_
    obtain ⟨hsome, hnotall⟩ := not_or.mp htorn
    simp only [not_forall, Decidable.not_not] at hsome hnotall
    obtain ⟨part, hpart, hloaded⟩ := hsome
    obtain ⟨other, hother, hpending⟩ := hnotall
    -- something is loaded and something is not, so the global roles are and the bindings are not
    have hroles : Section.globalRoles ∈ Section.all.take steps :=
      Section.mem_take_all_of_le (RoleKind.idxOf_consulted _ part hpart).1 hloaded
    have hbindings : scope.reach.bindingSection ∉ Section.all.take steps := fun hall =>
      hpending (Section.mem_take_all_of_le (RoleKind.idxOf_consulted _ other hother).2 hall)
    have hallowed := authorize_loadSteps_operator .empty scope hroles hbindings
    refine (hone .empty (operatorBound scope) { globalRoles := [operator] } (.named "bob")
      ⟨"delete", "users", none, scope⟩ rfl).elim (fun hold => ?_) fun hnew => ?_
    · rw [hallowed, authorize_operatorBound] at hold
      cases hold
    · rw [hallowed, authorize_operator] at hnew
      cases hnew
  · rintro (hnone | hall) cache old new user action rfl
    · refine Or.inl (congrArg Decision.allowed ?_)
      exact authorize_loadSteps_old fun part hpart hloaded => absurd hloaded (hnone part hpart)
    · -- a full load leaves the same whatever was there before
      have hload : (cache.load old).load new = cache.load new := by rw [load_eq, load_eq]
      refine Or.inr (congrArg Decision.allowed ?_)
      rw [← hload]
      exact authorize_loadSteps_new fun part hpart hpending => absurd (hall part hpart) hpending

/-- Operators were only to look at users, and bob was one of them. Operators may now delete users,
and bob is none of them. While that is loaded bob may delete users. -/
theorem authorize_loadSteps_bob :
    let bound : RoleBinding :=
      ⟨.named "bob-operator", [⟨.user, "bob"⟩], ⟨.globalRole, "operator"⟩⟩
    let old : Snapshot :=
      { globalRoles := [⟨.named "operator", [⟨["get"], ["users"], []⟩]⟩]
        globalRoleBindings := [bound] }
    let new : Snapshot := { globalRoles := [⟨.named "operator", [⟨["delete"], ["users"], []⟩]⟩] }
    let action : Action := ⟨"delete", "users", none, .cluster⟩
    let cache := ObjectCache.empty.load old
    (cache.authorize (.named "bob") action).allowed = false ∧
    ((cache.loadSteps new 2).authorize (.named "bob") action).allowed = true ∧
    ((cache.load new).authorize (.named "bob") action).allowed = false := by
  decide

end ObjectCache

end AccessGateway
