import AccessGateway.Proofs.Credential.Run
import AccessGateway.Proofs.Gateway.Credentials

/-!
# `AccessGateway.Proofs.Gateway.Caller`: whom a request is answered for

`Gateway.Finds` says that the authenticators find someone behind the header of a request. There are
two kinds of those: the anonymous identity, and identities with nothing but the name that a token
was issued to. A protected path is answered for whoever was found.

The relation is the assumption of what is shown about callers elsewhere, so that nothing about
tokens or the credential store is needed there. Callers do exist on both sides: a request without
credentials finds the anonymous identity on every gateway, and where tokens have no end a token that
was issued finds the one it was issued to, whatever the store does (`Gateway.finds_of_issue`), since
such a token has no record that could be missing.

* `Gateway.Finds.cases`: the two kinds.
* `Gateway.Finds.run_answer`: what a protected path is answered with.
* `Gateway.finds_of_issue`: someone with a token is found by it.
-/

set_option autoImplicit false

namespace AccessGateway

open Time (Duration)

/-- The authenticators find someone behind a header, at a moment and under a treatment of the calls
that are made on the way. No fault and no refusal finds anyone. -/
def Gateway.Finds (g : Gateway) (timeout : Duration) (treatment : StoreCall → Treatment)
    (vault : Vault) (headers : Headers) (caller : Identity) : Prop :=
  (Work.runOn timeout treatment (g.authenticator headers) vault).1 = .ok (some caller)

namespace Gateway.Finds

variable {g : Gateway} {timeout : Duration} {treatment : StoreCall → Treatment} {vault : Vault}
  {headers : Headers} {caller : Identity}

/-- Whoever is found is anonymous where there are no credentials, and a mere name elsewhere. In the
second case whatever the verifier knows besides the name is dropped. -/
theorem cases (h : g.Finds timeout treatment vault headers caller) :
    (headers.HasNoCredentials ∧ caller = .anonymous) ∨
    (¬ headers.HasNoCredentials ∧ caller = .named caller.name) := by
  rw [Finds, authenticator] at h
  by_cases hnone : headers.HasNoCredentials
  · rw [RequestAuthenticator.chain_of_hasNoCredentials hnone] at h
    have hfound : (Except.ok (some Identity.anonymous) : Outcome _) = .ok (some caller) := h
    exact Or.inl ⟨hnone, (Option.some.inj (Except.ok.inj hfound)).symm⟩
  · refine Or.inr ⟨hnone, ?_⟩
    by_cases hbears : ∃ token, headers.Bears token
    · obtain ⟨token, htoken⟩ := hbears
      rw [RequestAuthenticator.runOn_chain_of_bears htoken,
        RequestAuthenticator.shownOf.eq_def] at h
      -- of what the verifier found, only the name is shown
      split at h
      · have hnamed := Option.some.inj (Except.ok.inj h)
        rw [← hnamed]
        rfl
      · cases h
      · cases h
    · rw [RequestAuthenticator.chain_of_not_bears hnone (not_exists.mp hbears)] at h
      cases h

/-- Without credentials it is the anonymous identity, with its name and its group. -/
theorem eq_anonymous (h : g.Finds timeout treatment vault headers caller)
    (hnone : headers.HasNoCredentials) : caller = .anonymous := by
  rcases h.cases with ⟨-, hcaller⟩ | ⟨hcredentials, -⟩
  · exact hcaller
  · exact absurd hnone hcredentials

/-- With credentials it has nothing but a name. The name may be that of the anonymous identity, and
still it has no group. -/
theorem eq_named (h : g.Finds timeout treatment vault headers caller)
    (hcredentials : ¬ headers.HasNoCredentials) : caller = .named caller.name := by
  rcases h.cases with ⟨hnone, -⟩ | ⟨-, hcaller⟩
  · exact absurd hnone hcredentials
  · exact hcaller

/-- A protected path is answered for whoever was found, with no body where only the header was asked
for. -/
theorem run_answer {request : Request} {endpoint : Endpoint}
    (h : g.Finds timeout treatment vault request.headers caller)
    (hroute : Route.ofTarget? request.target = some (.api endpoint)) :
    (Program.run timeout treatment (g.answer request) vault).1
      = if request.method = "HEAD" then (g.answerFor caller request endpoint).withoutBody
        else g.answerFor caller request endpoint := by
  have hfound : (Work.runOn timeout treatment (g.authenticator request.headers) vault).1
      = .ok (some caller) := h
  rw [run_answer_fst, route, hroute]
  dsimp only
  rw [run_answerApi_fst, hfound]

end Gateway.Finds

/-- Where there are no credentials, the anonymous identity is found. -/
theorem Gateway.finds_of_hasNoCredentials (g : Gateway) (timeout : Duration)
    (treatment : StoreCall → Treatment) (vault : Vault) {headers : Headers}
    (hnone : headers.HasNoCredentials) :
    g.Finds timeout treatment vault headers .anonymous := by
  rw [Finds, authenticator, RequestAuthenticator.chain_of_hasNoCredentials hnone]
  rfl

/-! ### Tokens in headers -/

/-- The header that carries a token and nothing else, as a client writes it. -/
def Headers.bearing (token : String) : Headers := ⟨[(authorizationField, "Bearer " ++ token)]⟩

/-- A token of printable characters is carried by its header. It holds no blank, so nothing of it is
trimmed. -/
theorem Headers.bears_bearing {token : String} (hne : token ≠ "")
    (htoken : ∀ c ∈ token.toList, isPlainChar c = true ∧ Text.isBlank c = false) :
    (bearing token).Bears token := by
  have hvalue : ("Bearer " ++ token).toList = "Bearer".toList ++ ' ' :: token.toList := by
    rw [String.toList_append]
    rfl
  obtain ⟨c, hc⟩ := List.exists_mem_of_ne_nil token.toList (by simpa using hne)
  refine ⟨_, "Bearer".toList, token.toList, rfl, ?_, hvalue, by decide,
    ⟨c, hc, (htoken c hc).2⟩, ?_⟩
  · rw [hvalue]
    intro d hd
    rcases List.mem_append.mp hd with hscheme | hrest
    · exact List.all_eq_true.mp (by decide) d hscheme
    · rcases List.mem_cons.mp hrest with rfl | hmem
      · decide
      · exact (htoken d hmem).1
  · rw [Text.trim, Text.trimBy_eq_self fun d hd => (htoken d hd).2, String.ofList_toList]

/-- Tokens are written in printable characters: three parts in Base64, of letters, digits, `-` and
`_`, with two dots between them. -/
theorem TokenIssuer.isPlainChar_of_mem_sign (i : TokenIssuer) (claims : Claims) :
    ∀ c ∈ (i.sign claims).toList, Headers.isPlainChar c = true ∧ Text.isBlank c = false := by
  have hsymbols : ('.' :: Digest.Alphabet.url.symbols).all
      (fun c => Headers.isPlainChar c && !Text.isBlank c) = true := by
    decide
  have hencode : ∀ bytes, ∀ c ∈ Digest.Alphabet.url.encode bytes,
      c ∈ '.' :: Digest.Alphabet.url.symbols := fun bytes c hc =>
    List.mem_cons_of_mem _
      (Digest.Alphabet.mem_of_mem_encode Digest.Alphabet.isDistinct_url bytes c hc)
  have hdot : '.' ∈ '.' :: Digest.Alphabet.url.symbols := List.mem_cons_self
  intro c hc
  have hchar : c ∈ '.' :: Digest.Alphabet.url.symbols → _ := List.all_eq_true.mp hsymbols c
  rw [Bool.and_eq_true, Bool.not_eq_true'] at hchar
  refine hchar ?_
  simp only [sign, header, String.toList_ofList, List.mem_append, List.mem_cons] at hc
  rcases hc with (hheader | rfl | hbody) | rfl | hsignature
  · exact hencode _ c hheader
  · exact hdot
  · exact hencode _ c hbody
  · exact hdot
  · exact hencode _ c hsignature

/-- Where tokens have no end, whoever was issued one is found by it. The bound on the clock is that
the second of the issue is a word, as in the claims of the token. -/
theorem Gateway.finds_of_issue {g : Gateway} (hmaxAge : g.sessions.issuer.maxAge.isZero = true)
    (user : String) (timeout : Duration) (treatment : StoreCall → Treatment) (vault : Vault)
    (hclock : Sessions.secondsOf vault.now + g.sessions.issuer.maxAge.seconds
      ≤ Text.Numeral.maxWord) :
    g.Finds timeout treatment vault
      (.bearing (g.sessions.issuer.issue user (Sessions.secondsOf vault.now))) (.named user) := by
  generalize htoken : g.sessions.issuer.issue user (Sessions.secondsOf vault.now) = token
  have hverified : g.sessions.issuer.verify token (Sessions.secondsOf vault.now)
      = .ok (g.sessions.issuer.claimsFor user (Sessions.secondsOf vault.now)) := by
    rw [← htoken]
    exact TokenIssuer.verify_issue _ user hclock (by omega)
  have hverdict : Work.runOn timeout treatment (Work.ofOutcome
      (g.sessions.issuer.verify token (Sessions.secondsOf vault.now))) vault
      = (.ok (g.sessions.issuer.claimsFor user (Sessions.secondsOf vault.now)), vault) :=
    congrArg (·, vault) hverified
  have hnow : Work.runOn timeout treatment Work.now vault = (.ok vault.now, vault) := rfl
  have haccepted : (Work.runOn timeout treatment (g.sessions.verify token) vault).1
      = .ok (.named user) := by
    rw [Sessions.verify, Work.runOn_bind_of_ok _ _ _ _ hnow, Work.runOn_bind_of_ok _ _ _ _ hverdict,
      if_pos hmaxAge]
    rfl
  have hbears : (Headers.bearing token).Bears token := by
    have hplain := TokenIssuer.isPlainChar_of_mem_sign g.sessions.issuer
      (g.sessions.issuer.claimsFor user (Sessions.secondsOf vault.now))
    rw [← htoken]
    refine Headers.bears_bearing ?_ hplain
    intro hempty
    have hdot : '.' ∈ (g.sessions.issuer.issue user (Sessions.secondsOf vault.now)).toList := by
      simp [TokenIssuer.issue, TokenIssuer.sign]
    rw [hempty] at hdot
    cases hdot
  rw [Gateway.Finds, Gateway.authenticator, RequestAuthenticator.runOn_chain_of_bears hbears,
    haccepted]
  rfl

end AccessGateway
