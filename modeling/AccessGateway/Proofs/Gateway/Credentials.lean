import AccessGateway.Gateway.Basic
import AccessGateway.Proofs.Credential.Calls
import AccessGateway.Proofs.Login.Chain
import AccessGateway.Proofs.Login.Sessions
import AccessGateway.Proofs.Text.Split

/-!
# `AccessGateway.Proofs.Gateway.Credentials`: credentials are never taken for none

Two authenticators read the same header, each in its own way. The anonymous one trims the value and
looks for nothing; the one for tokens cuts it at the first space. Here the values are sorted once,
by what they are: no credentials (`Headers.HasNoCredentials`), a token under the scheme `Bearer`
(`Headers.Bears`), or neither. No value is both of the first two, so what is refused as a token is
refused, and never passes as a request without one.

Both properties are about the value as a text, and say nothing of how it is read. That they are
what the authenticators look for is shown once for each of them, and after that the chain is a case
analysis: a request without credentials ends at the first authenticator, a token ends at the second,
and what is neither goes through both.

The store is asked only for a token that the issuer accepts. `Sessions.LookFails` says of such a
token that the one call made for it fails, so whether a verification ends with a fault of the store
can be told from the token, the clock and the treatment of that call.

* `bearerToken?_eq_some_iff`: the token that a header carries.
* `RequestAuthenticator.runOn_chain_of_bears`: a token is answered as its verification is.
* `Sessions.verify_eq_backend_iff`: when a verification fails because of the store.
* `Gateway.run_answerApi_fst`: a protected endpoint is answered by what was found.
* `Gateway.authenticator_outcome`: what the authenticators of a gateway find.
-/

set_option autoImplicit false

namespace AccessGateway

open Time (Duration)

/-! ### Header values -/

namespace Headers

/-- The first authorization is missing, or is blank. Later ones are not looked at, so a token in a
second field counts for nothing. -/
def HasNoCredentials (headers : Headers) : Prop :=
  ∀ value ∈ headers.first? authorizationField, ∀ c ∈ value.toList, Text.isAsciiBlank c = true

/-- The first authorization is printable, has the scheme `Bearer` in any case before its first
space, and behind it a text that is not blank, which is the token without the blanks around it. -/
def Bears (headers : Headers) (token : String) : Prop :=
  ∃ value scheme rest, headers.first? authorizationField = some value ∧
    (∀ c ∈ value.toList, isPlainChar c = true) ∧ value.toList = scheme ++ ' ' :: rest ∧
    scheme.map Char.toLower = "bearer".toList ∧ (∃ c ∈ rest, Text.isBlank c = false) ∧
    token = String.ofList (Text.trim rest)

/-- Blanks carry no token: the scheme in front of one is not blank. -/
theorem HasNoCredentials.not_bears {headers : Headers} (h : headers.HasNoCredentials)
    (token : String) : ¬ headers.Bears token := by
  rintro ⟨value, scheme, rest, hfirst, -, hvalue, -, ⟨c, hc, hblank⟩, -⟩
  have hmem : c ∈ value.toList := by
    rw [hvalue]
    exact List.mem_append_right _ (List.mem_cons_of_mem _ hc)
  have hascii : Text.isAsciiBlank c = true := h value hfirst c hmem
  exact nomatch hblank.symm.trans (Text.isBlank_of_isAsciiBlank hascii)

end Headers

/-- A scheme holds no space, so the first space of a value is the one behind it. -/
theorem space_not_mem_scheme {scheme : List Char}
    (h : scheme.map Char.toLower = "bearer".toList) : ' ' ∉ scheme := by
  intro hspace
  have hmem : ' '.toLower ∈ scheme.map Char.toLower := List.mem_map_of_mem hspace
  rw [h] at hmem
  exact absurd hmem (by decide)

/-- The token that a header carries. In one direction the reader is followed through its checks, in
the other each check is one part of what the header is. -/
theorem bearerToken?_eq_some_iff {headers : Headers} {token : String} :
    bearerToken? headers = some token ↔ headers.Bears token := by
  -- the reader trims before it looks for nothing, which is to look for a character that stays
  have htrim : ∀ rest, Text.trim rest ≠ [] ↔ ∃ c ∈ rest, Text.isBlank c = false := by
    intro rest
    rw [Text.trim, Ne, Text.trimBy_eq_nil_iff]
    simp
  constructor
  · intro h
    obtain ⟨value, hfirst, h⟩ := Option.bind_eq_some_iff.mp h
    dsimp only at h
    split at h
    case isFalse => cases h
    rename_i hplain
    obtain ⟨⟨scheme, rest⟩, hcut, h⟩ := Option.bind_eq_some_iff.mp h
    dsimp only at h
    split at h
    case isFalse => cases h
    rename_i hparts
    exact ⟨value, scheme, rest, hfirst, List.all_eq_true.mp hplain,
      (Text.splitOnce?_eq_some_iff.mp hcut).1, hparts.1, (htrim rest).mp hparts.2,
      (Option.some.inj h).symm⟩
  · rintro ⟨value, scheme, rest, hfirst, hplain, hvalue, hscheme, hrest, rfl⟩
    refine Option.bind_eq_some_iff.mpr ⟨value, hfirst, ?_⟩
    dsimp only
    rw [if_pos (List.all_eq_true.mpr hplain)]
    -- the cut is at the first space, and there is none in the scheme
    have hcut : Text.splitOnce? ' ' value.toList = some (scheme, rest) :=
      Text.splitOnce?_eq_some_iff.mpr ⟨hvalue, space_not_mem_scheme hscheme⟩
    exact Option.bind_eq_some_iff.mpr ⟨_, hcut, if_pos ⟨hscheme, (htrim rest).mpr hrest⟩⟩

/-! ### The chain -/

namespace RequestAuthenticator

variable {verify : String → Work Identity} {headers : Headers} {token : String}
  {timeout : Duration} {treatment : StoreCall → Treatment} {vault : Vault}

/-- The anonymous identity is found where there are no credentials, and without a call. -/
theorem anonymous_of_hasNoCredentials (h : headers.HasNoCredentials) :
    anonymous headers = return some .anonymous := by
  rw [anonymous]
  cases hfirst : headers.first? authorizationField with
  | none => rfl
  | some value =>
    have hblank : value.toList.all Text.isAsciiBlank = true := List.all_eq_true.mpr (h value hfirst)
    simp only [if_pos hblank]

/-- And nothing is found anywhere else. That is no refusal, so the next authenticator is asked. -/
theorem anonymous_of_not_hasNoCredentials (h : ¬ headers.HasNoCredentials) :
    anonymous headers = return none := by
  rw [anonymous]
  cases hfirst : headers.first? authorizationField with
  | none =>
    refine absurd (fun value hvalue => ?_) h
    cases hfirst.symm.trans hvalue
  | some value =>
    have hblank : ¬ value.toList.all Text.isAsciiBlank = true := by
      refine fun hblank => h fun other hother => ?_
      cases hfirst.symm.trans hother
      exact List.all_eq_true.mp hblank
    simp only [if_neg hblank]

/-- A request without credentials is anonymous, and no token is looked for. -/
theorem chain_of_hasNoCredentials (h : headers.HasNoCredentials) :
    chain [.anonymous, .bearer verify] headers = return some .anonymous := by
  rw [chain, chainFrom, anonymous_of_hasNoCredentials h]
  rfl

/-- With credentials, it is the token that decides, for there is no authenticator behind it. -/
theorem chain_of_not_hasNoCredentials (h : ¬ headers.HasNoCredentials) :
    chain [.anonymous, .bearer verify] headers = bearer verify headers := by
  have hnext : chain [.anonymous, .bearer verify] headers = chain [.bearer verify] headers := by
    rw [chain, chainFrom_cons, anonymous_of_not_hasNoCredentials h]
    rfl
  rw [hnext, chain_singleton]

/-- What is neither blank nor a token is claimed by no authenticator, and the store is not asked. -/
theorem chain_of_not_bears (h : ¬ headers.HasNoCredentials)
    (hbears : ∀ token, ¬ headers.Bears token) :
    chain [.anonymous, .bearer verify] headers = return none := by
  have htoken : bearerToken? headers = none :=
    Option.eq_none_iff_forall_not_mem.mpr fun token htoken =>
      hbears token (bearerToken?_eq_some_iff.mp htoken)
  rw [chain_of_not_hasNoCredentials h, bearer, htoken]

/-- What is shown of the verification of a token: the name of whom it accepts, and of its failures
only that the store was not reached. -/
def shownOf : Outcome Identity → Outcome (Option Identity)
  | .ok identity => .ok (some (.named identity.name))
  | .error (.backend reason) => .error (.backend reason)
  | .error _ => .error .incorrectCredential

/-- A name alone is not the anonymous identity, not even the name of that one. -/
theorem shownOf_ne_anonymous (verified : Outcome Identity) :
    shownOf verified ≠ .ok (some .anonymous) := by
  intro h
  rw [shownOf.eq_def] at h
  split at h
  case h_1 identity =>
    have hsame : Identity.named identity.name = .anonymous := Option.some.inj (Except.ok.inj h)
    have hgroups : true = Identity.anonymous.groups.isEmpty :=
      congrArg (fun i => i.groups.isEmpty) hsame
    exact absurd hgroups (by decide)
  all_goals cases h

/-- A fault of the store is shown as it is, and nothing else is shown as one. So an outage can be
told from a wrong token. -/
theorem shownOf_eq_backend_iff {verified : Outcome Identity} {reason : String} :
    shownOf verified = .error (.backend reason) ↔ verified = .error (.backend reason) := by
  cases verified with
  | ok identity => exact ⟨nofun, nofun⟩
  | error fault => cases fault <;> simp [shownOf]

/-- A token is answered as its verification is, and what the verification left in the vault is left
there. -/
theorem runOn_chain_of_bears (h : headers.Bears token) :
    Work.runOn timeout treatment (chain [.anonymous, .bearer verify] headers) vault
      = (shownOf (Work.runOn timeout treatment (verify token) vault).1,
          (Work.runOn timeout treatment (verify token) vault).2) := by
  rw [chain_of_not_hasNoCredentials fun hnone => hnone.not_bears token h, bearer,
    bearerToken?_eq_some_iff.mpr h]
  refine (Program.run_bind ..).trans ?_
  rw [Work.runOn]
  generalize Program.run timeout treatment (ExceptT.run (verify token)) vault = verified
  obtain ⟨outcome, after⟩ := verified
  cases outcome with
  | ok identity => rfl
  | error fault => cases fault <;> rfl

end RequestAuthenticator

/-! ### The store behind a verification -/

namespace Sessions

variable (sessions : Sessions) (timeout : Duration) (treatment : StoreCall → Treatment)
  (vault : Vault) (token : String)

/-- The issuer accepts the token, tokens have records, and the look at the one of this token fails
with a reason. Where tokens have no end there are no records, and the store is not asked. -/
def LookFails (reason : String) : Prop :=
  ∃ claims, sessions.issuer.verify token (secondsOf vault.now) = .ok claims ∧
    sessions.issuer.maxAge.isZero = false ∧
    (treatment (.exists [recordKey claims.subject token])).fault? timeout = some (.backend reason)

/-- A verification fails because of the store exactly when its one call does. What the issuer
refuses is refused before the call, and a record that is missing is a wrong credential. -/
theorem verify_eq_backend_iff (reason : String) :
    (Work.runOn timeout treatment (sessions.verify token) vault).1 = .error (.backend reason)
      ↔ sessions.LookFails timeout treatment vault token reason := by
  have hnow : Work.runOn timeout treatment Work.now vault = (.ok vault.now, vault) := rfl
  rw [verify, Work.runOn_bind_of_ok _ _ _ _ hnow, LookFails]
  rcases sessions.issuer.verify_cases token (secondsOf vault.now) with ⟨claims, hclaims⟩ | hrefused
  case inr =>
    have hverdict : Work.runOn timeout treatment
        (Work.ofOutcome (sessions.issuer.verify token (secondsOf vault.now))) vault
        = (.error .incorrectCredential, vault) := congrArg (·, vault) hrefused
    rw [Work.runOn_bind_of_error _ _ _ _ hverdict]
    simp [hrefused]
  have hverdict : Work.runOn timeout treatment
      (Work.ofOutcome (sessions.issuer.verify token (secondsOf vault.now))) vault
      = (.ok claims, vault) := congrArg (·, vault) hclaims
  rw [Work.runOn_bind_of_ok _ _ _ _ hverdict]
  simp only [hclaims, Except.ok.injEq, exists_eq_left']
  cases hmaxAge : sessions.issuer.maxAge.isZero with
  | true =>
    have haccepted : (Work.runOn timeout treatment
        (return Identity.named claims.subject) vault).1 = .ok (.named claims.subject) := rfl
    rw [if_pos rfl, haccepted]
    simp
  | false =>
    rw [if_neg Bool.false_ne_true]
    cases hfault : (treatment (.exists [recordKey claims.subject token])).fault? timeout with
    | none =>
      have hask := Work.runOn_ask_of_answers timeout vault
        (Treatment.fault?_eq_none_iff.mp hfault) rfl
      have hlook : Work.runOn timeout treatment (Work.exists [recordKey claims.subject token]) vault
          = (.ok (CredentialStore.exists vault.store vault.now [recordKey claims.subject token]).1,
              _) := hask
      -- whether or not there is a record, the answer is not the fault of the store
      rw [Work.runOn_bind_of_ok _ _ _ _ hlook]
      simp only [reduceCtorEq, and_false, iff_false]
      split <;> exact fun h => by cases h
    | some fault =>
      obtain ⟨after, hask⟩ := Work.runOn_ask_of_fault? vault hfault
      have hlook : Work.runOn timeout treatment (Work.exists [recordKey claims.subject token]) vault
          = (.error fault, after) := hask
      rw [Work.runOn_bind_of_error _ _ _ _ hlook]
      simp only [Except.error.injEq, Option.some.injEq, true_and]

end Sessions

/-! ### What the gateway finds -/

namespace Gateway

open RequestAuthenticator (shownOf)

variable {g : Gateway} {timeout : Duration} {treatment : StoreCall → Treatment} {vault : Vault}

/-- Every request is answered as its route says. Only when that is done the method is looked at once
more, and the body is withheld from those who asked for the header. -/
theorem run_answer_fst (request : Request) :
    (Program.run timeout treatment (g.answer request) vault).1
      = let routed := (Program.run timeout treatment (g.route request) vault).1
        if request.method = "HEAD" then routed.withoutBody else routed :=
  congrArg Prod.fst (Program.run_bind ..)

/-- A protected endpoint is answered by what the authenticators find, and for no one but the
identity they find: nobody claims the request, the claim fails, or somebody is answered. -/
theorem run_answerApi_fst (request : Request) (endpoint : Endpoint) :
    (Program.run timeout treatment (g.answerApi request endpoint) vault).1
      = match (Work.runOn timeout treatment (g.authenticator request.headers) vault).1 with
        | .ok (some caller) => g.answerFor caller request endpoint
        | .ok none => .unauthorized
        | .error fault => .ofFault fault := by
  have hrun : Program.run timeout treatment (g.answerApi request endpoint) vault
      = Program.run timeout treatment
          (match (Work.runOn timeout treatment (g.authenticator request.headers) vault).1 with
            | .ok (some caller) => return g.answerFor caller request endpoint
            | .ok none => return .unauthorized
            | .error fault => return .ofFault fault)
          (Work.runOn timeout treatment (g.authenticator request.headers) vault).2 :=
    Program.run_bind ..
  rw [hrun]
  split <;> rfl

/-- A protected path is answered with a refusal where no authenticator claims the request, whatever
it leads to. The vault stays as it is, for nothing was asked of the store. -/
theorem run_answer_of_unclaimed {request : Request} {endpoint : Endpoint}
    (hunclaimed : g.authenticator request.headers = return none)
    (hroute : Route.ofTarget? request.target = some (.api endpoint)) :
    Program.run timeout treatment (g.answer request) vault
      = (if request.method = "HEAD" then Response.unauthorized.withoutBody else .unauthorized,
          vault) := by
  have hrouted : g.route request = return .unauthorized := by
    rw [route, hroute]
    dsimp only
    rw [answerApi, hunclaimed]
    rfl
  rw [answer, hrouted]
  rfl

/-- What the authenticators of a gateway find. The anonymous identity stands for requests without
credentials and for no others. A token is answered as its verification is: with the name of whom it
was issued to, with the fault of the store if that was not reached, and otherwise as a wrong
credential. All other requests are claimed by nobody, and answered with status 401 on every
protected path, without a look at what the path leads to. -/
theorem authenticator_outcome (g : Gateway) (headers : Headers) (timeout : Duration)
    (treatment : StoreCall → Treatment) (vault : Vault) :
    let found := Work.runOn timeout treatment (g.authenticator headers) vault
    (found.1 = .ok (some .anonymous) ↔ headers.HasNoCredentials) ∧
    (∀ token, headers.Bears token →
      let verified := Work.runOn timeout treatment (g.sessions.verify token) vault
      found = (shownOf verified.1, verified.2) ∧
      ∀ reason, found.1 = .error (.backend reason) ↔
        g.sessions.LookFails timeout treatment vault token reason) ∧
    (¬ headers.HasNoCredentials → (∀ token, ¬ headers.Bears token) →
      found = (.ok none, vault) ∧
      ∀ request endpoint, request.headers = headers →
        Route.ofTarget? request.target = some (.api endpoint) →
        Program.run timeout treatment (g.answer request) vault
          = (if request.method = "HEAD" then Response.unauthorized.withoutBody
              else .unauthorized, vault)) := by
  intro found
  have hbearer : ∀ token, headers.Bears token →
      found = (shownOf (Work.runOn timeout treatment (g.sessions.verify token) vault).1,
        (Work.runOn timeout treatment (g.sessions.verify token) vault).2) :=
    fun _ h => RequestAuthenticator.runOn_chain_of_bears h
  have hunclaimed : ¬ headers.HasNoCredentials → (∀ token, ¬ headers.Bears token) →
      g.authenticator headers = return none := RequestAuthenticator.chain_of_not_bears
  have hnobody : ¬ headers.HasNoCredentials → (∀ token, ¬ headers.Bears token) →
      found = (.ok none, vault) := by
    intro hcredentials hbears
    show Work.runOn timeout treatment (g.authenticator headers) vault = _
    rw [hunclaimed hcredentials hbears]
    rfl
  refine ⟨⟨fun h => ?_, fun h => ?_⟩, fun token h => ⟨hbearer token h, fun reason => ?_⟩,
    fun hcredentials hbears => ⟨hnobody hcredentials hbears, ?_⟩⟩
  · -- neither a token nor anything else is taken for a request without credentials
    by_contra hcredentials
    by_cases hbears : ∃ token, headers.Bears token
    · obtain ⟨token, htoken⟩ := hbears
      rw [hbearer token htoken] at h
      exact RequestAuthenticator.shownOf_ne_anonymous _ h
    · rw [hnobody hcredentials (not_exists.mp hbears)] at h
      cases h
  · have hanonymous : g.authenticator headers = return some .anonymous :=
      RequestAuthenticator.chain_of_hasNoCredentials h
    show (Work.runOn timeout treatment (g.authenticator headers) vault).1 = _
    rw [hanonymous]
    rfl
  · rw [hbearer token h, RequestAuthenticator.shownOf_eq_backend_iff]
    exact g.sessions.verify_eq_backend_iff timeout treatment vault token reason
  · rintro request endpoint rfl hroute
    exact run_answer_of_unclaimed (hunclaimed hcredentials hbears) hroute

/-- On a store that never answers, a blank header is anonymous, a token that nobody signed is a
wrong credential whatever the case of its scheme, and another scheme is refused. -/
theorem authenticator_outcome_schemes :
    let g : Gateway := ⟨.ofSnapshot {}, {}⟩
    let stalled (headers : Headers) :=
      (Work.runOn .zero (fun _ => .stalls) (g.authenticator headers) ⟨.empty, 0⟩).1
    let blank : Headers := ⟨[("authorization", " \t")]⟩
    let token : Headers := ⟨[("authorization", "BEARER  unsigned "), ("authorization", "")]⟩
    let request : Request :=
      ⟨"GET", ⟨"/kapis/resources.kubesphere.io/v1alpha3/users", ""⟩,
        ⟨[("authorization", "Basic unsigned")]⟩, ""⟩
    stalled blank = .ok (some .anonymous) ∧
    token.Bears "unsigned" ∧ stalled token = .error .incorrectCredential ∧
    stalled request.headers = .ok none ∧
    (Program.run .zero (fun _ => .stalls) (g.answer request) ⟨.empty, 0⟩).1.status = 401 := by
  intro g stalled blank token request
  have houtcome : ∀ headers, _ := fun headers =>
    authenticator_outcome g headers .zero (fun _ => .stalls) ⟨.empty, 0⟩
  have hblank : blank.HasNoCredentials := by
    rintro value ⟨⟩
    exact List.all_eq_true.mp (by decide)
  have htoken : token.Bears "unsigned" := bearerToken?_eq_some_iff.mp (by decide)
  have hother : ¬ request.headers.HasNoCredentials := fun h =>
    absurd (h "Basic unsigned" rfl 'B' (by decide)) (by decide)
  have hbears : ∀ token, ¬ request.headers.Bears token := by
    intro token h
    have hnone : bearerToken? request.headers = none := by decide
    cases hnone.symm.trans (bearerToken?_eq_some_iff.mpr h)
  have hroute : Route.ofTarget? request.target
      = some (.api (.listResources .current "" "users")) := by decide +kernel
  have hunsigned : (Work.runOn .zero (fun _ => .stalls) (g.sessions.verify "unsigned")
      ⟨.empty, 0⟩).1 = .error .incorrectCredential := by
    decide
  refine ⟨(houtcome blank).1.mpr hblank, htoken, ?_, ?_, ?_⟩
  · exact (congrArg Prod.fst ((houtcome token).2.1 _ htoken).1).trans (congrArg shownOf hunsigned)
  · exact congrArg Prod.fst ((houtcome _).2.2 hother hbears).1
  · have hanswer := ((houtcome _).2.2 hother hbears).2 request _ rfl hroute
    rw [hanswer]
    rfl

end Gateway

end AccessGateway
