import AccessGateway.Proofs.Gateway.Caller
import AccessGateway.Proofs.Gateway.Mediation

/-!
# `AccessGateway.Proofs.Gateway.Denial`: what a denial says about the cache

Whoever is denied something is told what was asked for and where. For most endpoints the request
says both. The members and roles of a project are ruled by the namespace that administers the
project, which is looked up before the caller is held against the rules, so a denial for these names
what the look-up found. That is all that a denial can tell: two caches are told apart by a denial
exactly when they have different namespaces for the project.

Asking for the header alone hides the name but not how long it is, since the header still gives the
length of the body. Two caches are then told apart when the names of their namespaces take different
numbers of octets in a body.

* `Endpoint.action?_eq`: what is asked for depends on the cache by this namespace alone.
* `Endpoint.denyReason_cases`: so do the reasons of two caches, which end in their namespaces.
* `Endpoint.answer_of_denied`: what is answered where the rules deny an action.
* `Response.fields_failure_eq_iff`: what the header tells of the wording of a failure.
* `Gateway.denial_eq_iff`: when two caches that deny a request answer it the same.
-/

set_option autoImplicit false

namespace AccessGateway

open Time (Duration)

namespace Endpoint

variable {cache other : ObjectCache} {caller : Identity} {endpoint : Endpoint} {action : Action}

/-- The rules deny the caller an action for the endpoint. An endpoint without an action is denied to
nobody. -/
def Denied (cache : ObjectCache) (caller : Identity) (endpoint : Endpoint) (action : Action) :
    Prop :=
  endpoint.action? cache caller = some action ∧ (cache.authorize caller action).allowed = false

/-- The scope of an action for the endpoint, where another cache has it in `scope`. -/
def scopeIn (cache : ObjectCache) (endpoint : Endpoint) (scope : Scope) : Scope :=
  match endpoint.project? with
  | some project => .namespace (cache.projectNamespace project)
  | none => scope

/-- What is asked for depends on the cache by the namespace of the project alone: verb, resource and
name are the same for two caches, and the scope differs in that namespace only. -/
theorem action?_eq (cache other : ObjectCache) (caller : Identity) (endpoint : Endpoint) :
    endpoint.action? cache caller = (endpoint.action? other caller).map fun action =>
      { action with scope := endpoint.scopeIn cache action.scope } := by
  cases endpoint with
  | listResources | getResource | listProjects | listMembers | describeMember | listRoles
  | describeRole => rfl
  | listMemberProjects workspace member =>
    rw [action?, action?]
    split <;> rfl
  | memberTemplates project member =>
    rw [action?, action?]
    split <;> rfl

/-! ### Reasons -/

/-- The reasons of two caches are the same, unless the endpoint is about a project. In that case
both begin alike, and each ends in the namespace that its cache has for the project. -/
theorem denyReason_cases {action' : Action}
    (haction : endpoint.action? cache caller = some action)
    (hother : endpoint.action? other caller = some action') :
    (endpoint.project? = none ∧
      ObjectCache.denyReason caller action = ObjectCache.denyReason caller action') ∨
    ∃ project front, endpoint.project? = some project ∧
      ObjectCache.denyReason caller action = front ++ cache.projectNamespace project ∧
      ObjectCache.denyReason caller action' = front ++ other.projectNamespace project := by
  -- both actions are the one of the other cache, each with its own scope
  have hown : { action' with scope := endpoint.scopeIn cache action'.scope } = action := by
    have h := action?_eq cache other caller endpoint
    rw [haction, hother] at h
    exact (Option.some.inj h).symm
  have hsame : { action' with scope := endpoint.scopeIn other action'.scope } = action' := by
    have h := action?_eq other other caller endpoint
    rw [hother] at h
    exact (Option.some.inj h).symm
  rw [← hown]
  conv => rhs; rhs; ext project; rhs; ext front; rhs; rhs; rw [← hsame]
  cases hproject : endpoint.project? with
  | none =>
    refine Or.inl ⟨rfl, ?_⟩
    rw [scopeIn, hproject]
  | some project =>
    refine Or.inr ⟨project, "user " ++ Text.quoted caller.name ++ " cannot " ++ action'.verb
      ++ " " ++ action'.resource ++ " in " ++ "namespace/", rfl, ?_, ?_⟩
    all_goals
      rw [scopeIn, hproject, ObjectCache.denyReason, Scope.display]
      exact (String.append_assoc ..).symm

/-! ### Answers -/

/-- Parameters that cannot be read are no matter of permission. They are a bad request, whichever
way of the interface they are for. -/
theorem status_of_query_eq_error {params : Parameters} {fault : Fault}
    (h : endpoint.query params = .error fault) : fault.status = 400 := by
  have hmap : ∀ read : Except QueryFault Query,
      read.mapError Fault.invalidQuery = .error fault → fault.status = 400 := by
    intro read hread
    cases read with
    | ok query => cases hread
    | error reason =>
      cases hread
      rfl
  cases endpoint with
  | listResources generation => cases generation <;> exact hmap _ h
  | listProjects | listMemberProjects | listMembers | listRoles => exact hmap _ h
  | getResource | describeMember | memberTemplates | describeRole => cases h

/-- A denial comes after the parameters, and before anything is shown. So a request with parameters
that cannot be read learns nothing from it. -/
theorem answer_of_denied (h : endpoint.Denied cache caller action) (params : Parameters) :
    endpoint.answer cache caller params = (endpoint.query params).bind fun _ =>
      .error (.forbidden (ObjectCache.denyReason caller action)) := by
  have hrequire : endpoint.require cache caller
      = .error (.forbidden (ObjectCache.denyReason caller action)) := by
    obtain ⟨haction, hdenied⟩ := h
    have hdecision : cache.authorize caller action
        = ⟨false, ObjectCache.denyReason caller action⟩ := by
      rcases cache.authorize_cases caller action with ⟨_, _, _, _, heq⟩ | ⟨_, heq⟩
      · rw [heq] at hdenied
        cases hdenied
      · exact heq
    rw [require, haction]
    dsimp only
    rw [hdecision]
    rfl
  rw [answer, hrequire]
  rfl

/-- What a denied request is answered with, where more than the header is asked for. It takes the
reason as a parameter, since this is all of it that may depend on the cache. -/
def denial (endpoint : Endpoint) (request : Request) (reason : String) : Response :=
  if request.isRead = false then .noMethod
  else .ofOutcome ((endpoint.query (Http.formPairs request.target.query)).bind fun _ =>
    .error (.forbidden reason))

/-- The request is one that a denial can be the answer to: it is for what its target shows, and its
parameters can be read. -/
def IsReadable (endpoint : Endpoint) (request : Request) : Prop :=
  request.isRead = true ∧
    ∃ query, endpoint.query (Http.formPairs request.target.query) = .ok query

/-- A denial says its reason and nothing else. A request that is refused for its method or for its
parameters is not answered with a reason at all, and the refusal is the same for every reason. -/
theorem denial_cases (endpoint : Endpoint) (request : Request) :
    (endpoint.IsReadable request ∧
      ∀ reason, endpoint.denial request reason = .failure 403 ("forbidden: " ++ reason)) ∨
    (¬ endpoint.IsReadable request ∧ ∃ refusal : Response, refusal.status ≠ 403 ∧
      ∀ reason, endpoint.denial request reason = refusal) := by
  cases hread : request.isRead with
  | false =>
    refine Or.inr ⟨fun h => ?_, .noMethod, by decide, fun reason => if_pos hread⟩
    rw [IsReadable, hread] at h
    cases h.1
  | true =>
    have hmethod : ¬ request.isRead = false := by simp [hread]
    cases hquery : endpoint.query (Http.formPairs request.target.query) with
    | ok query =>
      refine Or.inl ⟨⟨hread, query, hquery⟩, fun reason => ?_⟩
      rw [denial, if_neg hmethod, hquery]
      rfl
    | error fault =>
      refine Or.inr ⟨fun h => ?_, .ofFault fault, ?_, fun reason => ?_⟩
      · obtain ⟨-, query, hok⟩ := h
        rw [hquery] at hok
        cases hok
      · show fault.status ≠ 403
        rw [status_of_query_eq_error hquery]
        decide
      · rw [denial, if_neg hmethod, hquery]
        rfl

end Endpoint

/-- Failures of one status are told apart by their wording, and by it alone. -/
theorem Response.failure_inj {status : Nat} {message message' : String} :
    failure status message = failure status message' ↔ message = message' := by
  constructor
  · intro h
    have hbody : failureBody status message = failureBody status message' :=
      Body.json.inj (congrArg Response.body h)
    have hwording := congrArg (fun body => body.field? "message") hbody
    exact Json.str.inj (Option.some.inj hwording)
  · rintro rfl
    rfl

/-! ### Lengths of bodies -/

/-- The octets that a text takes in a JSON body, with its quotes and escapes. -/
def Json.quotedSize (text : String) : Nat := (Json.str text).compact.utf8ByteSize

/-- The octets of a text are those of its escapes and of two quotes. -/
theorem Json.quotedSize_eq (text : String) :
    quotedSize text = (String.ofList (text.toList.flatMap escapeChar)).utf8ByteSize + 2 := by
  have hcompact : (Json.str text).compact
      = String.ofList ['"'] ++ (String.ofList (text.toList.flatMap escapeChar) ++
          String.ofList ['"']) := by
    rw [← String.ofList_append, ← String.ofList_append]
    rfl
  have hquote : (String.ofList ['"']).utf8ByteSize = 1 := by decide
  rw [quotedSize, hcompact, String.utf8ByteSize_append, String.utf8ByteSize_append, hquote]
  omega

/-- Each character is escaped by itself, so texts that begin alike take as many octets when what
follows does. -/
theorem Json.quotedSize_append_eq_iff {front a b : String} :
    quotedSize (front ++ a) = quotedSize (front ++ b) ↔ quotedSize a = quotedSize b := by
  have hsplit : ∀ back : String, quotedSize (front ++ back) + 2
      = quotedSize front + quotedSize back := by
    intro back
    rw [quotedSize_eq, quotedSize_eq, quotedSize_eq, String.toList_append, List.flatMap_append,
      String.ofList_append, String.utf8ByteSize_append]
    omega
  have ha := hsplit a
  have hb := hsplit b
  omega

/-- In the body of a failure, the code stands in front of the wording and nothing behind it. -/
theorem Response.compact_failureBody (status : Nat) :
    ∃ front back : String, ∀ message,
      (failureBody status message).compact = front ++ (Json.str message).compact ++ back := by
  refine ⟨String.ofList ('\x7b' :: (Json.quote "code" ++ ':' :: ((Json.nat status).chars ++
    ',' :: (Json.quote "message" ++ [':'])))), String.ofList ['\x7d'], fun message => ?_⟩
  rw [Json.compact, Json.compact, ← String.ofList_append, ← String.ofList_append]
  refine congrArg String.ofList ?_
  show '\x7b' :: (Json.memberChars [("code", Json.nat status), ("message", .str message)] ++
    ['\x7d']) = _
  simp only [Json.memberChars, List.cons_append, List.append_assoc, List.nil_append]

/-- What the header tells of the wording of a failure is how many octets it takes. -/
theorem Response.fields_failure_eq_iff {status : Nat} {message message' : String} :
    (failure status message).body.fields = (failure status message').body.fields
      ↔ Json.quotedSize message = Json.quotedSize message' := by
  obtain ⟨front, back, hbody⟩ := compact_failureBody status
  have hsize : ∀ message, (failureBody status message).compact.utf8ByteSize
      = front.utf8ByteSize + Json.quotedSize message + back.utf8ByteSize := by
    intro message
    rw [hbody, String.utf8ByteSize_append, String.utf8ByteSize_append, Json.quotedSize]
  show ContentFields.mk _ (some _) = ContentFields.mk _ (some _) ↔ _
  rw [ContentFields.mk.injEq, eq_self, true_and, Option.some.injEq, hsize, hsize]
  omega

/-- What is withheld of two failures is the same when they take as many octets. Their status is the
same already. -/
theorem Response.withoutBody_failure_inj {status : Nat} {message message' : String} :
    (failure status message).withoutBody = (failure status message').withoutBody
      ↔ Json.quotedSize message = Json.quotedSize message' := by
  refine Iff.trans ⟨fun h => ?_, fun h => ?_⟩ (@fields_failure_eq_iff status message message')
  · exact Body.withheld.inj (congrArg body h)
  · exact congrArg (fun fields => (⟨status, .withheld fields⟩ : Response)) h

/-- A project that is administered in another namespace than that of its name. An empty cache takes
the name of the project for it. -/
def Snapshot.withAdminNamespace : Snapshot where
  devopsProjects :=
    [⟨.named "app", .null, .obj [("adminNamespace", .str "tenant-7")]⟩]

namespace Gateway

/-- A request that the rules deny is answered with the denial. The parameters come before the rules,
so the denial is what is left of them both. -/
theorem run_answer_of_denied {g : Gateway} {timeout : Duration}
    {treatment : StoreCall → Treatment} {vault : Vault} {request : Request} {caller : Identity}
    {raw endpoint : Endpoint} {action : Action}
    (hfinds : g.Finds timeout treatment vault request.headers caller)
    (hroute : Route.ofTarget? request.target = some (.api raw))
    (hdecoded : raw.decoded? = some endpoint)
    (hdenied : endpoint.Denied g.objects caller action) :
    (Program.run timeout treatment (g.answer request) vault).1
      = let response := endpoint.denial request (ObjectCache.denyReason caller action)
        if request.method = "HEAD" then response.withoutBody else response := by
  have hanswer : g.answerFor caller request raw
      = endpoint.denial request (ObjectCache.denyReason caller action) := by
    rw [answerFor, hdecoded, Endpoint.denial]
    dsimp only
    rw [Endpoint.answer_of_denied hdenied]
  rw [hfinds.run_answer hroute, hanswer]

/-- Two gateways with the same options and different caches, whose rules both deny a caller the same
endpoint. Both answer with the same status, which is 403 unless the method or the parameters are
refused before. A denial has a body made from the caller, the verb, the resource and the scope. It
is the same on both exactly when the endpoint is not about a project, or both caches have the same
namespace for the project. Where only the header is asked for, so that the body is withheld, it is
enough that the two namespaces take as many octets in a body. -/
theorem denial_eq_iff (objects other : ObjectCache) (options : AuthenticationOptions)
    (timeout : Duration) (treatment : StoreCall → Treatment) (vault : Vault) (request : Request)
    (caller : Identity) (raw endpoint : Endpoint) (action action' : Action)
    (hfinds : Finds ⟨objects, options⟩ timeout treatment vault request.headers caller)
    (hroute : Route.ofTarget? request.target = some (.api raw))
    (hdecoded : raw.decoded? = some endpoint)
    (hdenied : endpoint.Denied objects caller action)
    (hother : endpoint.Denied other caller action') :
    let answer := fun cache =>
      (Program.run timeout treatment (Gateway.answer ⟨cache, options⟩ request) vault).1
    (answer objects).status = (answer other).status ∧
    ((answer objects).status = 403 ↔ endpoint.IsReadable request) ∧
    ((answer objects).status ≠ 403 → answer objects = answer other) ∧
    ((answer objects).status = 403 →
      (answer objects
        = let denied := Response.failure 403
            ("forbidden: " ++ ObjectCache.denyReason caller action)
          if request.method = "HEAD" then denied.withoutBody else denied) ∧
      (answer objects = answer other ↔ ∀ project ∈ endpoint.project?,
        if request.method = "HEAD" then
          Json.quotedSize (objects.projectNamespace project)
            = Json.quotedSize (other.projectNamespace project)
        else objects.projectNamespace project = other.projectNamespace project)) := by
  intro answer
  -- the authenticators are those of the options, so the same caller is found by both
  have hfindsOther : Finds ⟨other, options⟩ timeout treatment vault request.headers caller := hfinds
  have hobjects : answer objects = _ := run_answer_of_denied hfinds hroute hdecoded hdenied
  have hanother : answer other = _ := run_answer_of_denied hfindsOther hroute hdecoded hother
  rw [hobjects, hanother]
  have hreasons := Endpoint.denyReason_cases hdenied.1 hother.1
  generalize ObjectCache.denyReason caller action = reason at hreasons ⊢
  generalize ObjectCache.denyReason caller action' = reason' at hreasons ⊢
  dsimp only
  rcases endpoint.denial_cases request with ⟨hreadable, hdenial⟩ |
    ⟨hreadable, refusal, hstatus, hrefusal⟩
  · rw [hdenial, hdenial]
    by_cases hhead : request.method = "HEAD"
    · simp only [if_pos hhead]
      refine ⟨rfl, iff_of_true rfl hreadable, fun hne => absurd rfl hne,
        fun _ => ⟨trivial, ?_⟩⟩
      rw [Response.withoutBody_failure_inj, Json.quotedSize_append_eq_iff]
      rcases hreasons with ⟨hnone, rfl⟩ | ⟨project, front, hproject, rfl, rfl⟩
      · simp [hnone]
      · simp only [hproject, Option.mem_some_iff, forall_eq', Json.quotedSize_append_eq_iff]
    · simp only [if_neg hhead]
      refine ⟨rfl, iff_of_true rfl hreadable, fun hne => absurd rfl hne,
        fun _ => ⟨trivial, ?_⟩⟩
      rw [Response.failure_inj, String.append_right_inj]
      rcases hreasons with ⟨hnone, rfl⟩ | ⟨project, front, hproject, rfl, rfl⟩
      · simp [hnone]
      · simp only [hproject, Option.mem_some_iff, forall_eq', String.append_right_inj]
  · -- the refusal knows neither the caller nor the cache
    rw [hrefusal, hrefusal]
    have hsent : (if request.method = "HEAD" then refusal.withoutBody else refusal).status
        = refusal.status := by
      split <;> rfl
    rw [hsent]
    exact ⟨rfl, iff_of_false hstatus hreadable, fun _ => rfl, fun h => absurd h hstatus⟩

/-- Whoever has no credentials is refused the list of users in the same way, whether there is a
project or not. -/
theorem denial_eq_iff_users :
    let request : Request :=
      ⟨"GET", ⟨"/kapis/resources.kubesphere.io/v1alpha3/users", ""⟩, .empty, ""⟩
    let answer := fun cache =>
      (Program.run .zero (fun _ => .answers) (Gateway.answer ⟨cache, {}⟩ request) ⟨.empty, 0⟩).1
    let action : Action := ⟨"list", "users", none, .cluster⟩
    let endpoint : Endpoint := .listResources .current "" "users"
    endpoint.Denied .empty .anonymous action ∧
    endpoint.Denied (.ofSnapshot .withAdminNamespace) .anonymous action ∧
    (answer .empty).status = 403 ∧ answer .empty = answer (.ofSnapshot .withAdminNamespace) := by
  intro request answer action endpoint
  have hroute : Route.ofTarget? request.target = some (.api endpoint) := by decide +kernel
  have hdecoded : endpoint.decoded? = some endpoint := by decide +kernel
  have hempty : endpoint.Denied .empty .anonymous action := ⟨rfl, by decide +kernel⟩
  have hproject : endpoint.Denied (.ofSnapshot .withAdminNamespace) .anonymous action :=
    ⟨rfl, by decide +kernel⟩
  have hreadable : endpoint.IsReadable request := ⟨rfl, _, rfl⟩
  obtain ⟨-, hstatus, -, hsame⟩ := denial_eq_iff .empty (.ofSnapshot .withAdminNamespace) {} .zero
    (fun _ => .answers) ⟨.empty, 0⟩ request .anonymous endpoint endpoint action action
    (finds_of_hasNoCredentials _ _ _ _ nofun) hroute hdecoded hempty hproject
  have hforbidden := hstatus.mpr hreadable
  exact ⟨hempty, hproject, hforbidden, (hsame hforbidden).2.mpr nofun⟩

/-- Whoever has no credentials is refused the members of a project under both caches, and learns
from the refusal which namespace administers the project. -/
theorem denials_name_adminNamespace :
    let request : Request :=
      ⟨"GET", ⟨"/kapis/iam.kubesphere.io/v1alpha2/devops/app/members", ""⟩, .empty, ""⟩
    let answer := fun cache =>
      (Program.run .zero (fun _ => .answers) (Gateway.answer ⟨cache, {}⟩ request) ⟨.empty, 0⟩).1
    let endpoint : Endpoint := .listMembers "app"
    endpoint.Denied .empty .anonymous ⟨"list", "members", none, .namespace "app"⟩ ∧
    endpoint.Denied (.ofSnapshot .withAdminNamespace) .anonymous
      ⟨"list", "members", none, .namespace "tenant-7"⟩ ∧
    answer .empty = .failure 403
      "forbidden: user \"anonymous\" cannot list members in namespace/app" ∧
    answer (.ofSnapshot .withAdminNamespace) = .failure 403
      "forbidden: user \"anonymous\" cannot list members in namespace/tenant-7" := by
  intro request answer endpoint
  refine ⟨⟨by decide +kernel, by decide +kernel⟩, ⟨by decide +kernel, by decide +kernel⟩, ?_, ?_⟩
  · decide +kernel
  · decide +kernel

end Gateway

end AccessGateway
