import AccessGateway.Proofs.Document
import AccessGateway.Proofs.Membership.Appointment
import Mathlib.Data.List.Sort

/-!
# `AccessGateway.Proofs.Membership.Templates`: the templates of a member's role

Three look-ups lead from a member to the templates: the binding that decides on the member names a
role, the annotation of this role lists names, and these name roles of the namespace
(`Snapshot.IsRoleOf`, `Role.ListsTemplates`). Each of the three may come to nothing, and then there
are no templates, or fewer.

The templates are gathered in a map from names to roles. Its order makes the list strictly ordered
by name, and its keys make repetitions disappear. A list that is strictly ordered is determined by
what is in it. So two annotations give the same templates as soon as the same roles of the namespace
are named by them, which is how their order, repetitions and unknown names are dealt with. The
annotation that is changed belongs to a role of the namespace, which may be one of its own
templates. `Snapshot.relist` says what the snapshot with the other annotation is, and it changes
this one role and nothing else.

* `Snapshot.IsRoleOf.unique`: a member has one role.
* `ObjectCache.pairwise_memberTemplates`, `ObjectCache.mem_memberTemplates_load`: the templates are
  ordered by name, and are the roles of the namespace that the role of the member lists.
* `ObjectCache.memberTemplates_resolved`: which templates there are, when there are none, and that
  the order of the names in the annotation, repetitions and unknown names do not matter.
-/

set_option autoImplicit false

namespace AccessGateway

namespace Role

variable {role : Role} {names : List String}

/-- The annotation for templates holds a JSON array of these names, however it is written. -/
def ListsTemplates (role : Role) (names : List String) : Prop :=
  ∃ raw, role.metadata.annotations[aggregationKey]? = some raw ∧
    Json.read? raw.toList = some (Json.strings names)

/-- The names in the array are read from it, in its order and with their repetitions. -/
theorem ListsTemplates.templateNames_eq (h : role.ListsTemplates names) :
    role.templateNames = names := by
  obtain ⟨raw, hraw, hread⟩ := h
  simp only [templateNames, hraw, hread, Decoder.list_strings, Option.getD_some]

/-- Names are read from nothing but such an array. A missing annotation and one of any other form
give no names. -/
theorem mem_templateNames {name : String} :
    name ∈ role.templateNames ↔ ∃ names, role.ListsTemplates names ∧ name ∈ names := by
  constructor
  · intro hmem
    rw [templateNames] at hmem
    split at hmem
    · cases hmem
    rename_i raw hraw
    split at hmem
    · rename_i value hread
      cases hnames : Decoder.list Decoder.text value with
      | none =>
        rw [hnames] at hmem
        cases hmem
      | some names =>
        rw [hnames] at hmem
        rw [Decoder.list_text_eq_some_iff.mp hnames] at hread
        exact ⟨names, ⟨raw, hraw, hread⟩, hmem⟩
    · cases hmem
  · rintro ⟨names, hlists, hmem⟩
    rwa [hlists.templateNames_eq]

/-- The role with another text in the annotation for templates, if it has the key. -/
def relist (key : ObjectKey) (raw : String) (role : Role) : Role :=
  if ClusterObject.key role = key then
    { role with metadata := role.metadata.withAnnotation aggregationKey raw }
  else role

section
variable (key : ObjectKey) (raw : String) (role : Role)

/-- Listing other templates leaves a role in its namespace. -/
@[simp]
theorem namespace_relist : (role.relist key raw).metadata.namespace = role.metadata.namespace := by
  rw [relist]
  split <;> rfl

/-- It leaves a role its name, so other roles list it as before. -/
@[simp]
theorem name_relist : (role.relist key raw).metadata.name = role.metadata.name := by
  rw [relist]
  split <;> rfl

/-- So a role is found under the same key, whatever it lists. -/
theorem key_relist : ClusterObject.key (role.relist key raw) = ClusterObject.key role :=
  (ObjectKey.mk.injEq ..).mpr ⟨role.namespace_relist key raw, role.name_relist key raw⟩

end

/-- The role then lists the names in the other text, whatever it listed before. -/
theorem listsTemplates_relist {raw : String}
    (hread : Json.read? raw.toList = some (Json.strings names)) :
    (role.relist (ClusterObject.key role) raw).ListsTemplates names := by
  rw [relist, if_pos rfl]
  exact ⟨raw, Std.ExtTreeMap.getElem?_insert_self, hread⟩

end Role

namespace Snapshot

variable {snapshot : Snapshot} {«namespace» member : String} {own other : Role}

/-- The role of a member: the role stored in the namespace that the binding names which decides on
the member. -/
def IsRoleOf (snapshot : Snapshot) («namespace» member : String) (role : Role) : Prop :=
  ∃ binding, snapshot.Decides «namespace» member binding ∧ IsLastOfKey snapshot.roles role ∧
    role.metadata.namespace = «namespace» ∧ role.metadata.name = binding.roleRef.name

/-- A member has one role: one binding decides, and one role is kept under the name that it
gives. -/
theorem IsRoleOf.unique (h : snapshot.IsRoleOf «namespace» member own)
    (hother : snapshot.IsRoleOf «namespace» member other) : own = other := by
  obtain ⟨binding, hdecides, hkept, hnamespace, hname⟩ := h
  obtain ⟨binding', hdecides', hkept', hnamespace', hname'⟩ := hother
  obtain rfl := hdecides.unique hdecides'
  exact hkept.unique hkept' (hnamespace.trans hnamespace'.symm) (hname.trans hname'.symm)

/-- The snapshot with another text in the annotation for templates of the role with the key. -/
def relist (snapshot : Snapshot) (key : ObjectKey) (raw : String) : Snapshot :=
  { snapshot with roles := snapshot.roles.map (Role.relist key raw) }

/-- Which roles of a snapshot are last of their keys does not depend on what they list, since the
annotation is no part of the key. -/
theorem isLastOfKey_relist {key : ObjectKey} {raw : String} {role : Role} :
    IsLastOfKey (snapshot.relist key raw).roles role
      ↔ ∃ before, IsLastOfKey snapshot.roles before ∧ before.relist key raw = role :=
  isLastBy_map (Role.key_relist key raw)

/-- The role of a member is still its role when its annotation is another. -/
theorem IsRoleOf.relist (h : snapshot.IsRoleOf «namespace» member own) (raw : String) :
    (snapshot.relist (ClusterObject.key own) raw).IsRoleOf «namespace» member
      (own.relist (ClusterObject.key own) raw) := by
  obtain ⟨binding, hdecides, hkept, hnamespace, hname⟩ := h
  -- the bindings are the same
  refine ⟨binding, ⟨⟨hdecides.kept, hdecides.own, hdecides.lists⟩, fun other happoints =>
    hdecides.least other ⟨happoints.kept, happoints.own, happoints.lists⟩⟩,
    isLastOfKey_relist.mpr ⟨own, hkept, rfl⟩, ?_, ?_⟩
  · rwa [Role.namespace_relist]
  · rwa [Role.name_relist]

end Snapshot

namespace ObjectCache

variable {snapshot : Snapshot} {«namespace» member : String} {own template : Role}

/-- The templates are in the order of their names, and no two have one name. -/
theorem pairwise_memberTemplates (cache : ObjectCache) :
    (cache.memberTemplates «namespace» member).Pairwise fun a b =>
      Text.utf8 a.metadata.name < Text.utf8 b.metadata.name := by
  rw [memberTemplates]
  split
  · exact .nil
  · refine (pairwise_values_toList (fun role : Role => role.metadata.name) ?_).imp
      Text.compare_eq_lt_iff.mp
    exact fun name template hget => ((getElem?_foldl_insert_items _).mp hget).2

section
variable (cache : ObjectCache) (hnamespace : «namespace» ≠ "")
include hnamespace

/-- The role of a member that is found after a load is the one that the snapshot gives. -/
theorem memberRole_load_eq_some_iff :
    (cache.load snapshot).memberRole «namespace» member = some own
      ↔ snapshot.IsRoleOf «namespace» member own := by
  have hload : (cache.load snapshot).roles = .ofList snapshot.roles := rfl
  simp only [memberRole, Option.bind_eq_some_iff, getElem?_memberRoles_load hnamespace, hload,
    Store.get?_ofList_eq_some_iff]
  constructor
  · rintro ⟨_, ⟨binding, hdecides, rfl⟩, hrole⟩
    exact ⟨binding, hdecides, hrole⟩
  · rintro ⟨binding, hdecides, hrole⟩
    exact ⟨_, ⟨binding, hdecides, rfl⟩, hrole⟩

/-- The templates are the roles of the namespace that the role of the member lists, each of them by
its name. -/
theorem mem_memberTemplates_load (hown : snapshot.IsRoleOf «namespace» member own) :
    template ∈ (cache.load snapshot).memberTemplates «namespace» member
      ↔ IsLastOfKey snapshot.roles template ∧ template.metadata.namespace = «namespace» ∧
        template.metadata.name ∈ own.templateNames := by
  let found := own.templateNames.filterMap ((cache.load snapshot).roles.get? «namespace»)
  have hload : (cache.load snapshot).roles = .ofList snapshot.roles := rfl
  have hfound : ∀ role, role ∈ found ↔ IsLastOfKey snapshot.roles role ∧
      role.metadata.namespace = «namespace» ∧ role.metadata.name ∈ own.templateNames := by
    intro role
    rw [List.mem_filterMap, hload]
    simp only [Store.get?_ofList_eq_some_iff]
    constructor
    · rintro ⟨_, hname, hkept, hnamespace, rfl⟩
      exact ⟨hkept, hnamespace, hname⟩
    · rintro ⟨hkept, hnamespace, hname⟩
      exact ⟨_, hname, hkept, hnamespace, rfl⟩
  -- one name stands for one role of the namespace, however often it is listed
  have hdistinct : ∀ a ∈ found, ∀ b ∈ found, a.metadata.name = b.metadata.name → a = b := by
    intro a ha b hb hname
    obtain ⟨hkept, hnamespace, -⟩ := (hfound a).mp ha
    obtain ⟨hkept', hnamespace', -⟩ := (hfound b).mp hb
    exact hkept.unique hkept' (hnamespace.trans hnamespace'.symm) hname
  rw [memberTemplates, (memberRole_load_eq_some_iff cache hnamespace).mpr hown, ← hfound,
    ← isLastBy_iff_mem hdistinct]
  simp only [List.mem_map, Prod.exists, Std.ExtTreeMap.mem_toList_iff_getElem?_eq_some]
  constructor
  · rintro ⟨name, _, hget, rfl⟩
    exact ((getElem?_foldl_insert_items _).mp hget).1
  · intro hlast
    exact ⟨_, template, (getElem?_foldl_insert_items _).mpr ⟨hlast, rfl⟩, rfl⟩

/-- The names in the annotation matter by which roles of the namespace they are the names of. The
role itself, if it is one of its templates, is shown with the annotation that it has. -/
theorem memberTemplates_relist (hown : snapshot.IsRoleOf «namespace» member own)
    {names others : List String} (hlists : own.ListsTemplates names) {raw : String}
    (hread : Json.read? raw.toList = some (Json.strings others))
    (hsame : ∀ role, IsLastOfKey snapshot.roles role → role.metadata.namespace = «namespace» →
      (role.metadata.name ∈ others ↔ role.metadata.name ∈ names)) :
    (cache.load (snapshot.relist (ClusterObject.key own) raw)).memberTemplates «namespace» member
      = ((cache.load snapshot).memberTemplates «namespace» member).map
          (Role.relist (ClusterObject.key own) raw) := by
  -- both lists are in the strict order of the names, so they are equal if they have the same roles
  let before := fun a b : Role => Text.utf8 a.metadata.name < Text.utf8 b.metadata.name
  have hirrefl : Std.Irrefl before := ⟨fun _ => List.lt_irrefl _⟩
  have hantisymm : Std.Antisymm before := ⟨fun _ _ hab hba => absurd hba (List.lt_asymm hab)⟩
  have hordered : (((cache.load snapshot).memberTemplates «namespace» member).map
      (Role.relist (ClusterObject.key own) raw)).Pairwise before :=
    List.pairwise_map.mpr ((pairwise_memberTemplates _).imp fun hlt => by simpa [before] using hlt)
  refine List.Pairwise.eq_of_mem_iff (pairwise_memberTemplates _) hordered fun template => ?_
  simp only [mem_memberTemplates_load cache hnamespace (hown.relist raw), List.mem_map,
    mem_memberTemplates_load cache hnamespace hown, hlists.templateNames_eq,
    (Role.listsTemplates_relist hread).templateNames_eq, Snapshot.isLastOfKey_relist]
  constructor
  · rintro ⟨⟨role, hkept, rfl⟩, hin, hname⟩
    rw [Role.namespace_relist] at hin
    rw [Role.name_relist] at hname
    exact ⟨role, ⟨hkept, hin, (hsame role hkept hin).mp hname⟩, rfl⟩
  · rintro ⟨role, ⟨hkept, hin, hname⟩, rfl⟩
    rw [Role.namespace_relist, Role.name_relist]
    exact ⟨⟨role, hkept, rfl⟩, hin, (hsame role hkept hin).mpr hname⟩

/-- The templates are found through the role of the member and the names that it lists. Without such
a role, or without such a list, nothing is a template. -/
theorem mem_memberTemplates_load_iff :
    template ∈ (cache.load snapshot).memberTemplates «namespace» member
      ↔ IsLastOfKey snapshot.roles template ∧ template.metadata.namespace = «namespace» ∧
        ∃ own names, snapshot.IsRoleOf «namespace» member own ∧ own.ListsTemplates names ∧
          template.metadata.name ∈ names := by
  by_cases hrole : ∃ own, snapshot.IsRoleOf «namespace» member own
  · obtain ⟨own, hown⟩ := hrole
    rw [mem_memberTemplates_load cache hnamespace hown, Role.mem_templateNames]
    refine and_congr_right' (and_congr_right' ⟨?_, ?_⟩)
    · rintro ⟨names, hlists, hname⟩
      exact ⟨own, names, hown, hlists, hname⟩
    · rintro ⟨other, names, hother, hlists, hname⟩
      obtain rfl := hown.unique hother
      exact ⟨names, hlists, hname⟩
  · have hnone : (cache.load snapshot).memberRole «namespace» member = none := by
      rw [Option.eq_none_iff_forall_ne_some]
      exact fun own hown => hrole ⟨own, (memberRole_load_eq_some_iff cache hnamespace).mp hown⟩
    rw [memberTemplates, hnone]
    refine iff_of_false List.not_mem_nil ?_
    rintro ⟨-, -, own, -, hown, -⟩
    exact hrole ⟨own, hown⟩

end

/-- The templates of a member, in the strict order of their names, are the roles of the namespace
that the role of the member lists. There are none when no binding appoints the member, when the
role is not in the namespace, or when its annotation is missing or is not an array of names. And
another array, with the same names of roles of the namespace, gives the same templates: if the role
lists itself, it is the only one that looks different, by its own annotation. -/
theorem memberTemplates_resolved (cache : ObjectCache) (snapshot : Snapshot)
    {«namespace» : String} (hnamespace : «namespace» ≠ "") (member : String) :
    let templates := (cache.load snapshot).memberTemplates «namespace» member
    (templates.Pairwise fun a b => Text.utf8 a.metadata.name < Text.utf8 b.metadata.name) ∧
    (∀ template, template ∈ templates
      ↔ IsLastOfKey snapshot.roles template ∧ template.metadata.namespace = «namespace» ∧
        ∃ own names, snapshot.IsRoleOf «namespace» member own ∧ own.ListsTemplates names ∧
          template.metadata.name ∈ names) ∧
    ((∀ binding, ¬ snapshot.Appoints «namespace» member binding) ∨
        (∀ own, ¬ snapshot.IsRoleOf «namespace» member own) ∨
        (∃ own, snapshot.IsRoleOf «namespace» member own ∧ ∀ names, ¬ own.ListsTemplates names) →
      templates = []) ∧
    ∀ own names, snapshot.IsRoleOf «namespace» member own → own.ListsTemplates names →
      ∀ raw others, Json.read? raw.toList = some (Json.strings others) →
        (∀ role, IsLastOfKey snapshot.roles role → role.metadata.namespace = «namespace» →
          (role.metadata.name ∈ others ↔ role.metadata.name ∈ names)) →
        let relisted := (cache.load (snapshot.relist (ClusterObject.key own) raw)).memberTemplates
          «namespace» member
        relisted = templates.map (Role.relist (ClusterObject.key own) raw) ∧
          (own.metadata.name ∉ names → relisted = templates) := by
  intro templates
  have hmem : ∀ template, template ∈ templates ↔ _ :=
    fun template => mem_memberTemplates_load_iff cache hnamespace
  refine ⟨pairwise_memberTemplates _, hmem, fun hnone => ?_, ?_⟩
  · refine List.eq_nil_iff_forall_not_mem.mpr fun template htemplate => ?_
    obtain ⟨-, -, own, names, hown, hlists, -⟩ := (hmem template).mp htemplate
    rcases hnone with hbinding | hrole | ⟨other, hother, hunlisted⟩
    · obtain ⟨binding, hdecides, -⟩ := hown
      exact hbinding binding hdecides.toAppoints
    · exact hrole own hown
    · obtain rfl := hown.unique hother
      exact hunlisted names hlists
  · intro own names hown hlists raw others hread hsame relisted
    have hrelisted := memberTemplates_relist cache hnamespace hown hlists hread hsame
    refine ⟨hrelisted, fun hself => hrelisted.trans ?_⟩
    refine (List.map_congr_left fun template htemplate => ?_).trans (List.map_id templates)
    refine if_neg fun hkey => hself ?_
    -- a template with the key of the role has its name, and is listed
    have hname : template.metadata.name = own.metadata.name := ((ObjectKey.mk.injEq ..).mp hkey).2
    obtain ⟨-, -, hlisted⟩ := (mem_memberTemplates_load cache hnamespace hown).mp htemplate
    rwa [hname, hlists.templateNames_eq] at hlisted

/-- Names that are repeated, unknown or of another namespace do not matter, and neither does the
order of the names. -/
theorem memberTemplates_resolved_repeatedNames :
    let viewer : Role := ⟨Metadata.withAnnotation (.namespaced "dev" "viewer") aggregationKey
      "[\"edit\", \"base\", \"edit\"]", []⟩
    let edit : Role := ⟨.namespaced "dev" "edit", []⟩
    let base : Role := ⟨.namespaced "dev" "base", []⟩
    let snapshot : Snapshot :=
      { roles := [viewer, edit, base, ⟨.namespaced "ops" "ghost", []⟩]
        roleBindings := [⟨.namespaced "dev" "first", [⟨.user, "ann"⟩], ⟨.role, "viewer"⟩⟩] }
    let relisted := snapshot.relist (ClusterObject.key viewer) "[\"base\", \"ghost\", \"edit\"]"
    "dev" ≠ "" ∧
    (empty.load snapshot).memberTemplates "dev" "ann" = [base, edit] ∧
    (empty.load relisted).memberTemplates "dev" "ann" = [base, edit] := by
  intro viewer edit base snapshot relisted
  have hnamespace : "dev" ≠ "" := by decide
  have htemplates : (empty.load snapshot).memberTemplates "dev" "ann" = [base, edit] := by
    decide +kernel
  have hviewer : snapshot.IsRoleOf "dev" "ann" viewer :=
    (memberRole_load_eq_some_iff empty hnamespace).mp (by decide +kernel)
  have hlists : viewer.ListsTemplates ["edit", "base", "edit"] := ⟨_, rfl, by decide +kernel⟩
  have hroles : ∀ role ∈ snapshot.roles, role.metadata.namespace = "dev" →
      (role.metadata.name ∈ ["base", "ghost", "edit"]
        ↔ role.metadata.name ∈ ["edit", "base", "edit"]) := by decide +kernel
  obtain ⟨-, -, -, hrelist⟩ := memberTemplates_resolved empty snapshot hnamespace "ann"
  obtain ⟨-, hsame⟩ := hrelist viewer _ hviewer hlists
    "[\"base\", \"ghost\", \"edit\"]" ["base", "ghost", "edit"] (by decide +kernel)
    fun role hkept => hroles role hkept.mem
  exact ⟨hnamespace, htemplates, (hsame (by decide)).trans htemplates⟩

end ObjectCache

end AccessGateway
