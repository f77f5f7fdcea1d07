import AccessGateway.Proofs.Document
import AccessGateway.Proofs.PasswordHash
import AccessGateway.Proofs.Time.Timestamp

/-!
# `AccessGateway.Proofs.Object.Wire`: objects are read back from their wire form

What is written of an object and what is read of one are two lists of parts. A part that is left out
when it is empty must be read as empty when it is absent, and every part must be read from what it
is written as. Each kind of record has one lemma that says so, and one record is part of another.

Two general facts carry these lemmas. Under the name of a part, an object that was written holds
what was written for it, since no name comes twice. And a part that may be left out is read as what
it was in both cases, whether it is there or not. What remains is to go through the parts of each
record.

The texts of times are only looked at for years of four digits here. Other years are written with a
sign and with as many digits as they take, which is beyond the format that clients know.

* `Metadata.read_wire`: the metadata that every object carries.
* `User.read_wire`, `Role.read_wire`, `RoleBinding.read_wire`, `OpaqueObject.read_wire`: the
  objects, of which only an account comes back without something, its password hash.
* `StoredObject.wire_roundTrip`: objects of every kind, and whatever is accepted as one.
-/

set_option autoImplicit false

namespace AccessGateway

open Decoder

/-! ### Metadata -/

namespace Metadata

/-- A time on the wire is read as its text is, with no other form beside it. -/
theorem readTime_str (text : String) :
    readTime (Json.str text) = Time.Timestamp.read? text := by
  rfl

/-- Metadata is read back, with its namespace and its maps empty where they were left out. -/
theorem read_wire {m : Metadata} (hcreated : m.created.HasFourDigitYear) :
    Metadata.read m.wire = some m := by
  unfold Metadata.read Metadata.wire
  refine record_bind_objectOf (by simp) (by simp) fun parts hparts _ => ?_
  simp only [List.forall_mem_cons] at hparts
  obtain ⟨hname, hnamespace, htime, hlabels, hannotations, -⟩ := hparts
  -- name and time are always there, and the others are left out when they are empty
  have hname : defaulted text "name" "" parts = some m.name := defaulted_some hname rfl
  have hnamespace : defaulted text "namespace" "" parts = some m.namespace :=
    defaulted_keepUnless hnamespace (fun hempty => (eq_of_beq hempty).symm) rfl
  have htime : defaulted readTime "creationTimestamp" Time.Timestamp.epoch parts
      = some m.created :=
    defaulted_some htime (by rw [readTime_str, Time.Timestamp.read?_text hcreated])
  have hlabels : defaulted (map text) "labels" ∅ parts = some m.labels :=
    defaulted_keepUnless hlabels
      (fun hempty => (Std.ExtTreeMap.isEmpty_iff.mp hempty).symm) (map_ofTextMap _)
  have hannotations : defaulted (map text) "annotations" ∅ parts = some m.annotations :=
    defaulted_keepUnless hannotations
      (fun hempty => (Std.ExtTreeMap.isEmpty_iff.mp hempty).symm) (map_ofTextMap _)
  simp only [hname, hnamespace, htime, hlabels, hannotations]
  rfl

end Metadata

section
variable {parts : List (String × Json)} {m : Metadata}

/-- The metadata of an object is read back, when the year of its creation has four digits. The text
of any other year is not read. -/
theorem defaulted_metadata (hcreated : m.created.HasFourDigitYear)
    (hlookup : parts.lookup "metadata" = some m.wire) :
    defaulted Metadata.read "metadata" default parts = some m :=
  defaulted_some hlookup (Metadata.read_wire hcreated)

end

/-! ### Roles -/

/-- A rule is read back, its empty lists as what was left out. -/
theorem Rule.read_wire (rule : Rule) : Rule.read rule.wire = some rule := by
  unfold Rule.read Rule.wire
  refine record_bind_objectOf (by simp) (by simp) fun parts hparts _ => ?_
  simp only [List.forall_mem_cons] at hparts
  obtain ⟨hverbs, hresources, hnames, -⟩ := hparts
  have hverbs : defaulted (list text) "verbs" [] parts = some rule.verbs :=
    defaulted_some hverbs (list_strings _)
  have hresources : defaulted (list text) "resources" [] parts = some rule.resources :=
    defaulted_some hresources (list_strings _)
  have hnames : defaulted (list text) "resourceNames" [] parts = some rule.names :=
    defaulted_keepUnless hnames (fun hempty => (List.isEmpty_iff.mp hempty).symm) (list_strings _)
  simp only [hverbs, hresources, hnames]
  rfl

/-- A role is read back, with the templates and the rules that it lists. -/
theorem Role.read_wire {role : Role} (hcreated : role.metadata.created.HasFourDigitYear) :
    Role.read role.wire = some role := by
  unfold Role.read Role.wire
  refine record_bind_objectOf (by simp) (by simp) fun parts hparts _ => ?_
  simp only [List.forall_mem_cons] at hparts
  obtain ⟨hmetadata, hrules, -⟩ := hparts
  have hmetadata := defaulted_metadata hcreated hmetadata
  have hrules : defaulted (list Rule.read) "rules" [] parts = some role.rules :=
    defaulted_some hrules (list_map fun rule _ => rule.read_wire)
  simp only [hmetadata, hrules]
  rfl

/-! ### Role bindings -/

/-- The kind of a subject is read back from its name. -/
theorem SubjectKind.oneOf_name (kind : SubjectKind) :
    oneOf SubjectKind.byName (Json.str kind.name) = some kind := by
  cases kind <;> rfl

/-- The kind of a role is read back from its name. -/
theorem RoleKind.oneOf_name (kind : RoleKind) :
    oneOf RoleKind.byName (Json.str kind.name) = some kind := by
  cases kind <;> rfl

/-- A kind and a name, as subjects and references are written. Both are records of these two parts,
and read alike. -/
theorem record_bind_kind_and_name {α : Type} {kind name : String}
    {readParts : List (String × Json) → Option α} {result : α}
    (hread : ∀ parts : List (String × Json), parts.lookup "kind" = some (.str kind) →
      parts.lookup "name" = some (.str name) → readParts parts = some result) :
    (record ["kind", "name"]
      (Json.object [("kind", .str kind), ("name", .str name)])).bind readParts = some result := by
  show (record ["kind", "name"]
    (Json.objectOf [("kind", some (.str kind)), ("name", some (.str name))])).bind readParts = _
  refine record_bind_objectOf (by simp) (by simp) fun parts hparts _ => ?_
  simp only [List.forall_mem_cons] at hparts
  exact hread parts hparts.1 hparts.2.1

/-- A subject is read back, whether it names a namespace or none. -/
theorem Subject.read_wire (subject : Subject) : Subject.read subject.wire = some subject := by
  unfold Subject.read Subject.wire
  refine record_bind_kind_and_name fun parts hkind hname => ?_
  have hkind : required (oneOf SubjectKind.byName) "kind" parts = some subject.kind :=
    required_some hkind subject.kind.oneOf_name
  have hname : required text "name" parts = some subject.name := required_some hname rfl
  simp only [hkind, hname]
  rfl

/-- A reference to a role is read back. -/
theorem RoleRef.read_wire (ref : RoleRef) : RoleRef.read ref.wire = some ref := by
  unfold RoleRef.read RoleRef.wire
  refine record_bind_kind_and_name fun parts hkind hname => ?_
  have hkind : required (oneOf RoleKind.byName) "kind" parts = some ref.kind :=
    required_some hkind ref.kind.oneOf_name
  have hname : required text "name" parts = some ref.name := required_some hname rfl
  simp only [hkind, hname]
  rfl

/-- A role binding is read back, with its subjects in their order and the role that it refers to. -/
theorem RoleBinding.read_wire {binding : RoleBinding}
    (hcreated : binding.metadata.created.HasFourDigitYear) :
    RoleBinding.read binding.wire = some binding := by
  unfold RoleBinding.read RoleBinding.wire
  refine record_bind_objectOf (by simp) (by simp) fun parts hparts _ => ?_
  simp only [List.forall_mem_cons] at hparts
  obtain ⟨hmetadata, hsubjects, hroleRef, -⟩ := hparts
  have hmetadata := defaulted_metadata hcreated hmetadata
  have hsubjects : defaulted (list Subject.read) "subjects" [] parts = some binding.subjects :=
    defaulted_some hsubjects (list_map fun subject _ => subject.read_wire)
  have hroleRef : required RoleRef.read "roleRef" parts = some binding.roleRef :=
    required_some hroleRef binding.roleRef.read_wire
  simp only [hmetadata, hsubjects, hroleRef]
  rfl

/-! ### Other objects -/

/-- An object of no special kind is read back, and null is what an absent specification is. -/
theorem OpaqueObject.read_wire {object : OpaqueObject}
    (hcreated : object.metadata.created.HasFourDigitYear) :
    OpaqueObject.read object.wire = some object := by
  unfold OpaqueObject.read OpaqueObject.wire
  refine record_bind_objectOf (by simp) (by simp) fun parts hparts _ => ?_
  simp only [List.forall_mem_cons] at hparts
  obtain ⟨hmetadata, hspec, hstatus, -⟩ := hparts
  have hmetadata := defaulted_metadata hcreated hmetadata
  have hspec : defaulted any "spec" .null parts = some object.spec :=
    defaulted_keepUnless hspec (fun hnull => (of_decide_eq_true hnull).symm) rfl
  have hstatus : defaulted any "status" .null parts = some object.status :=
    defaulted_keepUnless hstatus (fun hnull => (of_decide_eq_true hnull).symm) rfl
  simp only [hmetadata, hspec, hstatus]
  rfl

/-! ### Accounts -/

/-- The state of an account is read back from its name. -/
theorem AccountState.oneOf_name (state : AccountState) :
    oneOf AccountState.byName (Json.str state.name) = some state := by
  cases state <;> rfl

namespace User
variable (user : User)

/-- The specification that is written has no hash, so an empty one is read. -/
theorem readSpec_objectOf :
    readSpec (Json.objectOf
      [("email", Json.keepUnless (user.email == "") (.str user.email)),
       ("displayName", Json.keepUnless (user.displayName == "") (.str user.displayName))])
      = some (user.email, user.displayName, "") := by
  refine record_bind_objectOf (by simp) (by simp) fun parts hparts hother => ?_
  simp only [List.forall_mem_cons] at hparts
  obtain ⟨hemail, hdisplayName, -⟩ := hparts
  have hemail : defaulted text "email" "" parts = some user.email :=
    defaulted_keepUnless hemail (fun hempty => (eq_of_beq hempty).symm) rfl
  have hdisplayName : defaulted text "displayName" "" parts = some user.displayName :=
    defaulted_keepUnless hdisplayName (fun hempty => (eq_of_beq hempty).symm) rfl
  -- nothing is written for the hash, but it is looked for
  have hpassword : defaulted text "password" "" parts = some "" :=
    defaulted_none (hother "password" (by simp))
  simp only [hemail, hdisplayName, hpassword]
  rfl

/-- A state that was never set is left out, and read as none; so is a reason that is empty. -/
theorem readStatus_objectOf :
    readStatus (Json.objectOf
      [("state", user.state.map fun state => .str state.name),
       ("reason", Json.keepUnless (user.reason == "") (.str user.reason))])
      = some (user.state, user.reason) := by
  refine record_bind_objectOf (by simp) (by simp) fun parts hparts _ => ?_
  simp only [List.forall_mem_cons] at hparts
  obtain ⟨hstate, hreason, -⟩ := hparts
  have hstate : defaulted (optional (oneOf AccountState.byName)) "state" none parts
      = some user.state := by
    -- the state has no empty form: it is left out only when there is none
    cases hset : user.state with
    | none =>
      rw [hset] at hstate
      exact defaulted_none hstate
    | some state =>
      rw [hset] at hstate
      refine defaulted_some hstate ?_
      show (oneOf AccountState.byName (Json.str state.name)).map some = _
      rw [state.oneOf_name, Option.map_some]
  have hreason : defaulted text "reason" "" parts = some user.reason :=
    defaulted_keepUnless hreason (fun hempty => (eq_of_beq hempty).symm) rfl
  simp only [hstate, hreason]
  rfl

variable {user}

/-- An account is read back without its password hash, which is not written; all else is. -/
theorem read_wire (hcreated : user.metadata.created.HasFourDigitYear) :
    User.read user.wire = some user.withoutHash := by
  unfold User.read User.wire
  refine record_bind_objectOf (by simp) (by simp) fun parts hparts _ => ?_
  simp only [List.forall_mem_cons] at hparts
  obtain ⟨hmetadata, hspec, hstatus, -⟩ := hparts
  have hmetadata := defaulted_metadata hcreated hmetadata
  have hspec : defaulted readSpec "spec" ("", "", "") parts
      = some (user.email, user.displayName, "") :=
    defaulted_some hspec user.readSpec_objectOf
  have hstatus : defaulted readStatus "status" (none, "") parts
      = some (user.state, user.reason) :=
    defaulted_some hstatus user.readStatus_objectOf
  simp only [hmetadata, hspec, hstatus]
  rfl

end User

/-! ### Objects of every kind -/

namespace StoredObject

/-- The kinds of objects, each with a form of its own. It has to be known which one is read, since
the forms do not tell. -/
inductive Kind where
  | user
  | role
  | binding
  | other

/-- The kind of an object. -/
def kind : StoredObject → Kind
  | user _ => .user
  | role _ => .role
  | binding _ => .binding
  | other _ => .other

/-- Reads an object of a kind from its form. -/
def Kind.read {V : Type} [Document V] (kind : Kind) : Decoder V StoredObject := fun value =>
  match kind with
  | .user => (User.read value).map .user
  | .role => (Role.read value).map .role
  | .binding => (RoleBinding.read value).map .binding
  | .other => (OpaqueObject.read value).map .other

/-- An object that was read has the kind that it was read as. -/
theorem kind_of_read {V : Type} [Document V] {kind : Kind} {value : V} {object : StoredObject}
    (hread : kind.read value = some object) : object.kind = kind := by
  cases kind with
  | user | role | binding | other =>
    obtain ⟨_, -, rfl⟩ := Option.map_eq_some_iff.mp hread
    rfl

/-- When an object was created. -/
def created (object : StoredObject) : Time.Timestamp := (ClusterObject.metadata object).created

/-- An object is read back by the form of its kind, an account without its password hash. -/
theorem read_wire {object : StoredObject} (hcreated : object.created.HasFourDigitYear) :
    object.kind.read (ClusterObject.wire object) = some object.withoutHash := by
  cases object with
  | user account => exact congrArg (Option.map user) (User.read_wire hcreated)
  | role r => exact congrArg (Option.map role) (Role.read_wire hcreated)
  | binding b => exact congrArg (Option.map binding) (RoleBinding.read_wire hcreated)
  | other o => exact congrArg (Option.map other) (OpaqueObject.read_wire hcreated)

/-- Every object that was created in a year of four digits comes back from its wire form, an account
without its password hash. So whatever value of whatever format is accepted as an object of a kind,
reading what is written of that object gives the same object, up to the hash. -/
theorem wire_roundTrip :
    (∀ object : StoredObject, object.created.HasFourDigitYear →
      object.kind.read (ClusterObject.wire object) = some object.withoutHash) ∧
    ∀ {V : Type} [Document V] (kind : Kind) (value : V),
      (∀ object ∈ kind.read value, object.created.HasFourDigitYear) →
      (kind.read value).bind (fun object => kind.read (ClusterObject.wire object))
        = (kind.read value).map withoutHash := by
  refine ⟨fun object => read_wire, fun kind value hcreated => ?_⟩
  cases hread : kind.read value with
  | none => rfl
  | some object =>
    -- what was read by the form of a kind is of that kind, so it is read by the same form again
    have hback := read_wire (hcreated object hread)
    rw [kind_of_read hread] at hback
    exact hback

/-- The account of someone who joined half way through a leap second. -/
def leapAccount : User :=
  { User.active "alice" "$2b$04$" with
    metadata := { (Metadata.named "alice").withLabel "team" "blue" with
      created := { second := 1483228799, nano := 500000000, leap := true } } }

/-- An account with a label and a hash, and a project as another program might write it. -/
theorem wire_roundTrip_leapAccount :
    Kind.user.read (ClusterObject.wire (user leapAccount)) = some (user leapAccount.withoutHash) ∧
    let project : Json := .obj [("status", .obj [("phase", .str "Active")]), ("metadata", .obj
      [("creationTimestamp", .str "2017-01-01t00:59:60.50+01:00"), ("name", .str "app")])]
    (Kind.other.read project).bind (fun object => Kind.other.read (ClusterObject.wire object))
      = (Kind.other.read project).map withoutHash :=
  ⟨wire_roundTrip.1 (user leapAccount) (by decide +kernel),
    wire_roundTrip.2 Kind.other _ (by decide +kernel)⟩

end StoredObject

end AccessGateway
