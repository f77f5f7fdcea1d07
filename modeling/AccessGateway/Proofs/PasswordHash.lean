import AccessGateway.Membership
import AccessGateway.Proofs.Access.Grant
import AccessGateway.Proofs.Fault
import AccessGateway.Proofs.Resource.Conversion
import AccessGateway.Proofs.Tenant
import AccessGateway.Resource.LegacyRegistry

/-!
# `AccessGateway.Proofs.PasswordHash`: no answer depends on a password hash

An account is kept with the hash of its password, and the hash leaves the gateway in no form. It
is not written to the wire, no field is made from it that could be compared or ordered by, and
neither the roles nor the projects that someone sees are found through it.

`withoutHash` takes the hash away, from an account and then from all that holds accounts. Whatever
is read gives the same answer when the hashes are taken away, so two snapshots that are the same
without them cannot be told apart.

* `ObjectCache.load_withoutHashes`: hashes may be taken away before or after a load.
* `Registry.ofCache_withoutHashes`, `LegacyRegistry.ofCache_withoutHashes`: the registries.
* `ObjectCache.listMembers_withoutHashes`, `ObjectCache.describeMember_withoutHashes`,
  `ObjectCache.listProjects_withoutHashes`: the members of a namespace and the projects of a
  workspace.
* `Reading.answer_withoutHashes`: every answer.
* `Reading.answer_load_congr`: what two snapshots that differ in hashes answer.
-/

set_option autoImplicit false

namespace AccessGateway

/-! ### Taking hashes away -/

/-- The account without its password hash, as an empty text that no password belongs to. -/
def User.withoutHash (user : User) : User := { user with passwordHash := "" }

/-- The metadata of an account have nothing to do with its password, so name, labels and annotations
stay. -/
theorem User.metadata_withoutHash (user : User) :
    ClusterObject.metadata user.withoutHash = ClusterObject.metadata user := by
  rfl

/-- No query can notice the hash of an account, as no field is made from it. -/
theorem User.keepsFields_withoutHash : Query.KeepsFields User.withoutHash :=
  ⟨fun _ => rfl, fun _ => rfl, fun _ => rfl⟩

/-- The wire form of an account has no hash, and no part that depends on one. -/
theorem User.wire_withoutHash (user : User) :
    ClusterObject.wire user.withoutHash = ClusterObject.wire user := by
  rfl

namespace StoredObject

/-- The object without a password hash, if it is an account; all others stay as they are. -/
def withoutHash : StoredObject → StoredObject
  | user account => user account.withoutHash
  | role r => role r
  | binding b => binding b
  | other o => other o

/-- No field that can be filtered or ordered by shows the hash, so a query selects the same accounts
without it. -/
theorem keepsFields_withoutHash : Query.KeepsFields withoutHash where
  name object := by cases object <;> rfl
  field object := by cases object <;> rfl
  satisfies object := by cases object <;> rfl

/-- The wire form leaves out the hash, so it is the same without one. -/
theorem wire_withoutHash (object : StoredObject) :
    ClusterObject.wire object.withoutHash = ClusterObject.wire object := by
  cases object <;> rfl

end StoredObject

/-- The snapshot without the password hashes of its accounts. -/
def Snapshot.withoutHashes (snapshot : Snapshot) : Snapshot :=
  { snapshot with users := snapshot.users.map User.withoutHash }

/-- The cache without the password hashes of its accounts. -/
def ObjectCache.withoutHashes (cache : ObjectCache) : ObjectCache :=
  { cache with users := cache.users.map User.withoutHash }

/-- Hashes may be taken away before or after a load. -/
theorem ObjectCache.load_withoutHashes (cache other : ObjectCache) (snapshot : Snapshot) :
    (cache.load snapshot).withoutHashes = other.load snapshot.withoutHashes := by
  have husers : (Store.ofList snapshot.users).map User.withoutHash
      = .ofList (snapshot.users.map User.withoutHash) :=
    Store.map_ofList User.metadata_withoutHash snapshot.users
  rw [load_eq, load_eq, withoutHashes, husers]
  rfl

section
variable {cache : ObjectCache}

/-! ### Both registries -/

/-- Of the searchers of the registry, the one for accounts is without hashes. -/
theorem Registry.ofCache_withoutHashes :
    ofCache cache.withoutHashes = (ofCache cache).map StoredObject.withoutHash := by
  have husers : (Searcher.ofStore ResourceName.users .user cache.users).map StoredObject.withoutHash
      = .ofStore ResourceName.users .user (cache.users.map User.withoutHash) :=
    Searcher.map_ofStore (fun _ => rfl) User.metadata_withoutHash
  have hroles : ∀ label store, (Searcher.ofStore label .role store).map StoredObject.withoutHash
      = .ofStore label .role store :=
    fun _ _ => Searcher.map_ofStore_of_fixed fun _ => rfl
  have hbindings : ∀ label store,
      (Searcher.ofStore label .binding store).map StoredObject.withoutHash
        = .ofStore label .binding store :=
    fun _ _ => Searcher.map_ofStore_of_fixed fun _ => rfl
  have hothers : ∀ label store, (Searcher.ofStore label .other store).map StoredObject.withoutHash
      = .ofStore label .other store :=
    fun _ _ => Searcher.map_ofStore_of_fixed fun _ => rfl
  -- the conversion is moved inwards, from one registration to the one before it
  rw [ofCache, ofCache]
  simp only [map_registerNamespaced, map_registerCluster, map_empty, husers, hroles, hbindings,
    hothers]
  rfl

/-- The legacy registry has no accounts, so it does not change at all. -/
theorem LegacyRegistry.ofCache_withoutHashes : ofCache cache.withoutHashes = ofCache cache := by
  rfl

/-! ### Members and projects -/

namespace ObjectCache

/-- The account of a member is looked up, marked with its role, and still without its hash. -/
theorem memberAccount_withoutHashes (name role : String) :
    cache.withoutHashes.memberAccount name role
      = (cache.memberAccount name role).map User.withoutHash := by
  rw [memberAccount, memberAccount, withoutHashes, Store.get?_map, Option.map_map, Option.map_map]
  rfl

variable {«namespace» : String}

/-- Who the members are is up to the role bindings, so only their accounts lose a hash. -/
theorem members_withoutHashes : cache.withoutHashes.members «namespace»
    = (cache.members «namespace»).map User.withoutHash := by
  have hroles : cache.withoutHashes.memberRoles «namespace» = cache.memberRoles «namespace» := rfl
  -- who has no account is left out before and after
  simp only [members, hroles, memberAccount_withoutHashes, List.map_filterMap]

/-- The members are listed as they are, in the same order, without their hashes. -/
theorem listMembers_withoutHashes (query : Query) :
    cache.withoutHashes.listMembers «namespace» query
      = (cache.listMembers «namespace» query).map User.withoutHash := by
  rw [listMembers, listMembers, members_withoutHashes,
    Query.run_map User.keepsFields_withoutHash]

/-- So is one member described, or not found in the same way. -/
theorem describeMember_withoutHashes (member : String) :
    cache.withoutHashes.describeMember «namespace» member
      = (cache.describeMember «namespace» member).map User.withoutHash := by
  have hroles : cache.withoutHashes.memberRoles «namespace» = cache.memberRoles «namespace» := rfl
  rw [describeMember, describeMember, hroles]
  cases (cache.memberRoles «namespace»)[member]? with
  | none => rfl
  | some role =>
    simp only [Option.bind_some, memberAccount_withoutHashes]
    cases cache.memberAccount member role <;> rfl

/-- Neither the rights that someone has nor the projects are found through accounts. -/
theorem listProjects_withoutHashes (viewer : Identity) (workspace : String) (query : Query) :
    cache.withoutHashes.listProjects viewer workspace query
      = cache.listProjects viewer workspace query := by
  rw [listProjects_eq, listProjects_eq]
  rfl

end ObjectCache

end

/-! ### Everything that can be read -/

/-- What is answered: one object in its wire form, a page of such or all of them, or a name. -/
inductive Reply where
  | object (wire : Json)
  | page (page : Page Json)
  | objects (wires : List Json)
  | name (text : String)

namespace Reply

section
variable {α : Type} [ClusterObject α]

/-- The reply that shows one object. -/
def ofObject (object : α) : Reply := .object (ClusterObject.wire object)

/-- The reply that shows a page of objects. -/
def ofPage (page : Page α) : Reply := .page (page.map ClusterObject.wire)

variable {f : α → α} (hwire : ∀ object, ClusterObject.wire (f object) = ClusterObject.wire object)
include hwire

/-- A conversion that the wire form does not show cannot be told from a reply with one object. -/
theorem ofObject_map (object : α) : ofObject (f object) = ofObject object :=
  congrArg Reply.object (hwire object)

/-- Nor can it be told from a page: its total is the same, and so is every item on the wire. -/
theorem ofPage_map (page : Page α) : ofPage (page.map f) = ofPage page := by
  simp only [ofPage, Page.map, List.map_map, Function.comp_def, hwire]

end

end Reply

/-- A call that reads from the cache: of a registry, by the name or by the type of a resource; of
the members and roles of a namespace; or of the projects that someone sees. -/
inductive Reading where
  | get (resource «namespace» name : String)
  | list (resource «namespace» : String) (query : Query)
  | getOf (type : ResourceType) («namespace» name : String)
  | listOf (type : ResourceType) («namespace» : String) (query : Query)
  | getLegacy (resource «namespace» name : String)
  | listLegacy (resource «namespace» : String) (query : Query)
  | projectNamespace (project : String)
  | listMembers («namespace» : String) (query : Query)
  | describeMember («namespace» member : String)
  | listRoles («namespace» : String) (query : Query)
  | describeRole («namespace» role : String)
  | memberTemplates («namespace» member : String)
  | listProjects (viewer : Identity) (workspace : String) (query : Query)

namespace Reading

/-- What a client is answered, by each kind of call. -/
def answer (cache : ObjectCache) : Reading → Outcome Reply
  | get resource ns name => ((Registry.ofCache cache).get resource ns name).map .ofObject
  | list resource ns query => ((Registry.ofCache cache).list resource ns query).map .ofPage
  | getOf type ns name => ((Registry.ofCache cache).getOf type ns name).map .ofObject
  | listOf type ns query => ((Registry.ofCache cache).listOf type ns query).map .ofPage
  | getLegacy resource ns name =>
    ((LegacyRegistry.ofCache cache).get resource ns name).map .ofObject
  | listLegacy resource ns query =>
    ((LegacyRegistry.ofCache cache).list resource ns query).map .ofPage
  | projectNamespace project => .ok (.name (cache.projectNamespace project))
  | listMembers ns query => .ok (.ofPage (cache.listMembers ns query))
  | describeMember ns member => (cache.describeMember ns member).map .ofObject
  | listRoles ns query => .ok (.ofPage (cache.listRoles ns query))
  | describeRole ns role => (cache.describeRole ns role).map .ofObject
  | memberTemplates ns member =>
    .ok (.objects ((cache.memberTemplates ns member).map ClusterObject.wire))
  | listProjects viewer workspace query =>
    (cache.listProjects viewer workspace query).map .ofPage

/-- Every answer is the one that is given without the hashes. The cases are the kinds of calls, and
each goes back to what was shown of the part that answers it. -/
theorem answer_withoutHashes (cache : ObjectCache) (reading : Reading) :
    reading.answer cache.withoutHashes = reading.answer cache := by
  have hobject : ∀ object : StoredObject, Reply.ofObject object.withoutHash = .ofObject object :=
    Reply.ofObject_map StoredObject.wire_withoutHash
  have hpage : ∀ page : Page StoredObject,
      Reply.ofPage (page.map StoredObject.withoutHash) = .ofPage page :=
    Reply.ofPage_map StoredObject.wire_withoutHash
  cases reading with
  | get resource ns name =>
    rw [answer, answer, Registry.ofCache_withoutHashes, Registry.get_map,
      Outcome.map_map_of_forall hobject]
  | list resource ns query =>
    rw [answer, answer, Registry.ofCache_withoutHashes,
      Registry.list_map StoredObject.keepsFields_withoutHash, Outcome.map_map_of_forall hpage]
  | getOf type ns name =>
    rw [answer, answer, Registry.ofCache_withoutHashes, Registry.getOf_map,
      Outcome.map_map_of_forall hobject]
  | listOf type ns query =>
    rw [answer, answer, Registry.ofCache_withoutHashes,
      Registry.listOf_map StoredObject.keepsFields_withoutHash, Outcome.map_map_of_forall hpage]
  | listMembers ns query =>
    rw [answer, answer, ObjectCache.listMembers_withoutHashes,
      Reply.ofPage_map User.wire_withoutHash]
  | describeMember ns member =>
    rw [answer, answer, ObjectCache.describeMember_withoutHashes,
      Outcome.map_map_of_forall (Reply.ofObject_map User.wire_withoutHash)]
  | listProjects viewer workspace query =>
    rw [answer, answer, ObjectCache.listProjects_withoutHashes]
  -- the others read no accounts
  | getLegacy | listLegacy | projectNamespace | listRoles | describeRole | memberTemplates => rfl

/-- Snapshots that differ in nothing but the password hashes of accounts give the same answers, to
every call and whatever the two caches held before. An answer is compared as a whole: a page with
its total and every object in its wire form, or the failure with its wording. -/
theorem answer_load_congr (cache other : ObjectCache) {s t : Snapshot}
    (hhashes : s.withoutHashes = t.withoutHashes) (reading : Reading) :
    reading.answer (cache.load s) = reading.answer (other.load t) :=
  calc reading.answer (cache.load s)
    _ = reading.answer (cache.load s).withoutHashes := (answer_withoutHashes _ _).symm
    _ = reading.answer (other.load s.withoutHashes) := by
      rw [ObjectCache.load_withoutHashes cache other]
    _ = reading.answer (other.load t).withoutHashes := by
      rw [hhashes, ObjectCache.load_withoutHashes other other]
    _ = reading.answer (other.load t) := answer_withoutHashes _ _

/-- Who asks for the accounts in the order of their passwords, and for those of which the password
has a certain part, cannot tell which of two has which hash. -/
theorem answer_load_congr_swapped :
    let s : Snapshot := { users := [.active "alice" "hash-1", .active "bob" "hash-2"] }
    let t : Snapshot := { users := [.active "alice" "hash-2", .active "bob" "hash-1"] }
    let query := (Query.everything.orderedBy "password" false).withCondition "password" (.fuzzy "1")
    let reading : Reading := .list ResourceName.users "" query
    s.users ≠ t.users ∧ s.withoutHashes = t.withoutHashes ∧
      reading.answer (ObjectCache.empty.load s) = reading.answer (ObjectCache.empty.load t) := by
  intro s t query reading
  have hhashes : s.withoutHashes = t.withoutHashes := rfl
  have hdiffer : s.users.map User.passwordHash ≠ t.users.map User.passwordHash := by decide
  exact ⟨fun hsame => hdiffer (congrArg _ hsame), hhashes,
    answer_load_congr .empty .empty hhashes reading⟩

end Reading

end AccessGateway
