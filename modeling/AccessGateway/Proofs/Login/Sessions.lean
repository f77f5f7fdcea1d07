import AccessGateway.Login.Password
import AccessGateway.Login.Sessions
import AccessGateway.Proofs.Credential.Eviction
import AccessGateway.Proofs.Login.Token
import AccessGateway.Proofs.Text.Glob

/-!
# `AccessGateway.Proofs.Login.Sessions`: what issuing, revoking and verifying do to the records

A token is on record under a key that holds the name of its user and the token. Revocation finds
the records of a user by a pattern, in which the name is escaped. So the pattern stands for the
literal text in front of the token, whatever characters the name has, and `Sessions.IsRecordOf` says
that a key begins with that text.

* `Sessions.recordKey_injective`: no two tokens share a key. The token has no colon, so the last
  colon of a key ends the part with the name.
* `Sessions.revokeAll_deletes_prefix`: revocation removes the live records whose keys begin with the
  literal text for the user, counts them, and makes no other change.
* `Sessions.revokeAll_answered`: what later look-ups see of it.
* `Sessions.issueTo_answered`, `Sessions.verify_answered`: what an issue leaves on record, and
  that verification only looks.
* `Sessions.verify_answered_eq_ok_iff`: which tokens are accepted.

These are the specifications of the three operations; runs of them are in `Proofs.Login.Lifecycle`.
-/

set_option autoImplicit false

namespace AccessGateway

namespace Sessions

/-! ### Keys -/

/-- The key is one of the records that revocation removes for a user: it begins with the literal
text for the user. It need not be that of a token of the user, as another name may go on with that
text. -/
def IsRecordOf (user key : String) : Prop := (recordKey user "").toList <+: key.toList

instance (user key : String) : Decidable (IsRecordOf user key) :=
  inferInstanceAs (Decidable (_ <+: _))

/-- The characters of a key. -/
theorem toList_recordKey (user token : String) :
    (recordKey user token).toList
      = "kubesphere:user:".toList ++ user.toList ++ ":token:".toList ++ token.toList := by
  have happend : ∀ a b c d : String,
      (a ++ b ++ c ++ d).toList = a.toList ++ b.toList ++ c.toList ++ d.toList := by
    intro a b c d
    rw [String.toList_append, String.toList_append, String.toList_append]
  exact happend _ _ _ _

/-- A token is on record for its user. -/
theorem isRecordOf_recordKey (user token : String) : IsRecordOf user (recordKey user token) := by
  have hempty : "".toList = [] := rfl
  rw [IsRecordOf, toList_recordKey, toList_recordKey, hempty, List.append_nil]
  exact List.prefix_append _ _

/-- Tokens without colons have keys of their own. -/
theorem recordKey_injective {user user' token token' : String} (htoken : ':' ∉ token.toList)
    (htoken' : ':' ∉ token'.toList) (h : recordKey user token = recordKey user' token') :
    user = user' ∧ token = token' := by
  have hchars := congrArg String.toList h
  rw [toList_recordKey, toList_recordKey] at hchars
  -- the colon before a token is the last one of its key
  have hsplit : ∀ name rest : List Char,
      "kubesphere:user:".toList ++ name ++ ":token:".toList ++ rest
      = ("kubesphere:user:".toList ++ (name ++ ":token".toList)) ++ ':' :: rest := by
    intro name rest
    have htoken : ":token:".toList = ":token".toList ++ [':'] := by decide
    rw [htoken]
    simp only [List.append_assoc, List.singleton_append]
  rw [hsplit, hsplit] at hchars
  obtain ⟨hbefore, hafter⟩ := Text.append_cons_inj htoken htoken' hchars
  have hname := List.append_cancel_right (List.append_cancel_left hbefore)
  exact ⟨String.toList_inj.mp hname, String.toList_inj.mp hafter⟩

/-- The pattern of a user compiles, and accepts the keys of its records and no others. Escaping
makes every character of the name stand for itself. -/
theorem compile_recordPattern (user : String) :
    ∃ tokens, Text.Glob.compile (recordPattern user).toList = .ok tokens ∧
      ∀ key : String, Text.Glob.accepts tokens key.toList = true ↔ IsRecordOf user key := by
  -- only the name is escaped, but escaping leaves the rest of the key as it is
  have hpattern : (recordPattern user).toList
      = Text.Glob.escape (recordKey user "").toList ++ ['*'] := by
    have hstart : Text.Glob.escape "kubesphere:user:".toList = "kubesphere:user:".toList := by
      decide
    have hmiddle : Text.Glob.escape ":token:".toList = ":token:".toList := by decide
    have hstar : "*".toList = ['*'] := by decide
    have hempty : Text.Glob.escape "".toList = "".toList := rfl
    have hname : (String.ofList (Text.Glob.escape user.toList)).toList
        = Text.Glob.escape user.toList := String.toList_ofList
    rw [recordPattern, String.toList_append, toList_recordKey, toList_recordKey,
      Text.Glob.escape_append, Text.Glob.escape_append, Text.Glob.escape_append, hstart, hmiddle,
      hempty, hstar, hname]
  rw [hpattern]
  exact ⟨_, Text.Glob.compile_escape_star _, fun key => Text.Glob.accepts_prefix_iff _ key.toList⟩

/-! ### Revoking -/

/-- The pattern of a user finds the keys of its live records, each of them once. The name is
escaped, so the pattern always compiles. -/
theorem mem_keys_iff (s : CredentialStore) (now : Instant) (user : String) :
    ∃ keys, s.keys now (recordPattern user) = .ok keys ∧ keys.Nodup ∧
      ∀ key, key ∈ keys ↔ (s.live? now key).isSome = true ∧ IsRecordOf user key := by
  obtain ⟨tokens, hcompile, haccepts⟩ := compile_recordPattern user
  have hdistinct : (LiveEntries.unexpired s.entries now).keys.Nodup := Std.ExtTreeMap.nodup_keys
  refine ⟨_, CredentialStore.keys_eq s now _ hcompile, List.Pairwise.filter _ hdistinct, ?_⟩
  intro key
  rw [List.mem_filter, haccepts, Std.ExtTreeMap.mem_keys, Std.ExtTreeMap.mem_iff_isSome_getElem?,
    LiveEntries.getElem?_unexpired]

/-- Revocation removes the live records of a user, and makes no other change. It is one removal of
the keys that the pattern has found, or none if there are none. -/
theorem revokeAll_eq_del (user : String) (vault : Vault) :
    ∃ keys : List String, keys.Nodup ∧
      (∀ key, key ∈ keys ↔
        (vault.store.live? vault.now key).isSome = true ∧ IsRecordOf user key) ∧
      Work.answered (revokeAll user) vault
        = (.ok (vault.store.del vault.now keys).1,
            { vault with store := (vault.store.del vault.now keys).2 }) := by
  obtain ⟨keys, hkeys, hdistinct, hmem⟩ := mem_keys_iff vault.store vault.now user
  have hask : Work.answered (Work.keys (recordPattern user)) vault = (.ok keys, vault) := by
    show (vault.store.keys vault.now (recordPattern user), vault) = _
    rw [hkeys]
  refine ⟨keys, hdistinct, hmem, ?_⟩
  rw [revokeAll, Work.answered_bind_of_ok _ hask]
  -- When nothing is found there is no second call, and none would remove anything.
  cases keys with
  | nil => rfl
  | cons first rest => rfl

/-- Revocation removes the records of a user and no others, as seen from then on; expired records of
other users may go or stay unseen. -/
theorem revokeAll_answered (user : String) (vault : Vault) :
    ∃ count store, Work.answered (revokeAll user) vault = (.ok count, { vault with store }) ∧
      ∀ later, vault.now ≤ later → ∀ key, store.live? later key
        = if IsRecordOf user key then none else vault.store.live? later key := by
  obtain ⟨keys, -, hmem, hanswer⟩ := revokeAll_eq_del user vault
  refine ⟨_, _, hanswer, fun later hle key => ?_⟩
  rw [CredentialStore.live?_del]
  by_cases hrecord : IsRecordOf user key
  · rw [if_pos hrecord]
    split
    · rfl
    · -- A record of the user that was not found is not live, now or later.
      rename_i hmissed
      refine CredentialStore.live?_eq_none_of_le hle (Option.not_isSome_iff_eq_none.mp ?_)
      exact fun hlive => hmissed ((hmem key).mpr ⟨hlive, hrecord⟩)
  · rw [if_neg hrecord, if_neg fun hkey => hrecord ((hmem key).mp hkey).2]

/-- The records of a user are those whose keys begin with the literal text for the user. The name is
not delimited, so the name of another user may continue it. -/
theorem isRecordOf_iff (user key : String) :
    IsRecordOf user key ↔ ("kubesphere:user:" ++ user ++ ":token:").toList <+: key.toList := by
  have hkey : recordKey user "" = "kubesphere:user:" ++ user ++ ":token:" := String.append_empty
  rw [IsRecordOf, hkey]

/-- A counter of login failures is no record of any user: the two kinds of keys differ in an early
letter. -/
theorem not_isRecordOf_counterKey (user account : String) :
    ¬ IsRecordOf user (PasswordLogin.counterKey account) := by
  intro h
  have hchars : (PasswordLogin.counterKey account).toList
      = "kubesphere:authfailedlog:".toList ++ account.toList := String.toList_append
  -- Both keys begin with the name of the program, and differ in the character behind it.
  have huser : "kubesphere:user:".toList = "kubesphere:".toList ++ 'u' :: "ser:".toList := by decide
  have hcounter : "kubesphere:authfailedlog:".toList
      = "kubesphere:".toList ++ 'a' :: "uthfailedlog:".toList := by decide
  rw [IsRecordOf, toList_recordKey, hchars, huser, hcounter] at h
  simp only [List.append_assoc, List.prefix_append_right_inj, List.cons_append,
    List.cons_prefix_cons] at h
  exact absurd h.1 (by decide)

/-- For every user name, revocation succeeds. It removes each live key that begins with the literal
text for the user, counts them, and leaves every other key with its value and its deadline, the
counters of login failures among them. -/
theorem revokeAll_deletes_prefix (user : String) (vault : Vault) :
    ∃ (removed : List String) (store : CredentialStore),
      removed.Nodup ∧
      (∀ key, key ∈ removed ↔ (vault.store.live? vault.now key).isSome = true ∧
        ("kubesphere:user:" ++ user ++ ":token:").toList <+: key.toList) ∧
      Work.answered (revokeAll user) vault = (.ok removed.length, { vault with store }) ∧
      (∀ key, store.entries[key]? = if key ∈ removed then none else vault.store.entries[key]?) ∧
      ∀ account, store.entries[PasswordLogin.counterKey account]?
        = vault.store.entries[PasswordLogin.counterKey account]? := by
  obtain ⟨keys, hnodup, hmem, hanswer⟩ := revokeAll_eq_del user vault
  have hcount : (vault.store.del vault.now keys).1 = keys.length :=
    CredentialStore.del_fst_of_live hnodup fun key hkey => ((hmem key).mp hkey).1
  have hleft := CredentialStore.getElem?_del vault.store vault.now keys
  refine ⟨keys, _, hnodup, fun key => ?_, hcount ▸ hanswer, hleft, fun account => ?_⟩
  · rw [hmem, isRecordOf_iff]
  · rw [hleft, if_neg fun hkey => not_isRecordOf_counterKey user account ((hmem _).mp hkey).2]

/-! ### Issuing and verifying -/

variable {sessions : Sessions}

/-- An issued token is on record for its lifetime. Where a user may be logged in only once, the
other records of the user are gone, with those that begin with the same text. -/
theorem issueTo_answered (hmaxAge : sessions.issuer.maxAge.isZero = false) (user : Identity)
    (vault : Vault) :
    let token := sessions.issuer.issue user.name (secondsOf vault.now)
    ∃ store, Work.answered (sessions.issueTo user) vault
        = (.ok ⟨token, some sessions.issuer.maxAge.seconds⟩, { vault with store }) ∧
      ∀ later, vault.now ≤ later → ∀ key, store.live? later key
        = if key = recordKey user.name token then
            Entry.lasting? ⟨token, some (vault.now + sessions.issuer.maxAge.millis)⟩ later
          else if sessions.multipleLogin = false ∧ IsRecordOf user.name key then none
          else vault.store.live? later key := by
  intro token
  have hdeadline : CredentialStore.deadlineOf vault.now (some sessions.issuer.maxAge)
      = some (vault.now + sessions.issuer.maxAge.millis) := by
    rw [CredentialStore.deadlineOf, Option.filter_some, hmaxAge]
    rfl
  rw [issueTo, Work.answered_bind_of_ok _ (Work.answered_now vault)]
  simp only [hmaxAge, Bool.false_eq_true, if_false]
  cases hmultiple : sessions.multipleLogin with
  | true =>
    simp only [Bool.true_eq_false, if_false, false_and]
    refine ⟨_, rfl, fun later _ key => ?_⟩
    rw [CredentialStore.live?_set, hdeadline]
  | false =>
    -- the new token is recorded after the revocation, which would have covered it
    obtain ⟨count, revoked, hrevoke, hrecords⟩ := revokeAll_answered user.name vault
    simp only [if_true, true_and]
    rw [Work.answered_bind_of_ok _ hrevoke]
    refine ⟨_, rfl, fun later hle key => ?_⟩
    rw [CredentialStore.live?_set, hdeadline, hrecords later hle]

/-- The issuer accepts a token within its lifetime. The end that the token names is rounded down to
a second, which the leeway makes good. -/
theorem issuer_verify_issue (user : String) {time now : Instant} (hle : time ≤ now)
    (hend : now < time + sessions.issuer.maxAge.millis)
    (hclock : secondsOf now + sessions.issuer.maxAge.seconds ≤ Text.Numeral.maxWord) :
    sessions.issuer.verify (sessions.issuer.issue user (secondsOf time)) (secondsOf now)
      = .ok (sessions.issuer.claimsFor user (secondsOf time)) := by
  have hsecondsOf : secondsOf time ≤ secondsOf now := Nat.div_le_div_right hle
  have hround : ∀ now time age : Nat, now < time + age →
      now / 1000 ≤ time / 1000 + age / 1000 + 60 := by
    intro now time age hlt
    omega
  have hnow : secondsOf now
      ≤ secondsOf time + sessions.issuer.maxAge.seconds + TokenIssuer.leeway := hround _ _ _ hend
  exact TokenIssuer.verify_issue _ user (by omega) hnow

/-- A token that the issuer accepts is accepted when it is on record for the user that it names, and
refused otherwise. -/
theorem verify_answered (hmaxAge : sessions.issuer.maxAge.isZero = false) {token : String}
    {vault : Vault} {claims : Claims}
    (hclaims : sessions.issuer.verify token (secondsOf vault.now) = .ok claims) :
    Work.answered (sessions.verify token) vault
      = (if (vault.store.live? vault.now (recordKey claims.subject token)).isSome then
            .ok (.named claims.subject)
          else .error .incorrectCredential,
        { vault with store := (CredentialStore.exists vault.store vault.now
            [recordKey claims.subject token]).2 }) := by
  have haccepted : Work.answered
      (Work.ofOutcome (sessions.issuer.verify token (secondsOf vault.now))) vault
      = (.ok claims, vault) := by
    rw [Work.answered_ofOutcome, hclaims]
  have hfound : Work.answered (Work.exists [recordKey claims.subject token]) vault
      = (.ok (vault.store.live? vault.now (recordKey claims.subject token)).isSome,
        { vault with store := (CredentialStore.exists vault.store vault.now
            [recordKey claims.subject token]).2 }) := by
    have hfst := CredentialStore.exists_fst vault.store vault.now [recordKey claims.subject token]
    rw [List.all_cons, List.all_nil, Bool.and_true] at hfst
    rw [← hfst]
    rfl
  rw [verify, Work.answered_bind_of_ok _ (Work.answered_now vault),
    Work.answered_bind_of_ok _ haccepted]
  simp only [hmaxAge, Bool.false_eq_true, if_false]
  rw [Work.answered_bind_of_ok _ hfound]
  split
  · rfl
  · rfl

/-- A token that the issuer refuses is refused without a look at the store, which stays as it is. -/
theorem verify_answered_of_error {token : String} {vault : Vault} {fault : Fault}
    (hrefused : sessions.issuer.verify token (secondsOf vault.now) = .error fault) :
    Work.answered (sessions.verify token) vault = (.error fault, vault) := by
  have hverdict : Work.answered
      (Work.ofOutcome (sessions.issuer.verify token (secondsOf vault.now))) vault
      = (.error fault, vault) := by
    rw [Work.answered_ofOutcome, hrefused]
  rw [verify, Work.answered_bind_of_ok _ (Work.answered_now vault),
    Work.answered_bind_of_error _ hverdict]

/-- A token is accepted when the issuer accepts it and it is on record, for its user. With a
lifetime of zero no record would be asked for, hence the hypothesis. -/
theorem verify_answered_eq_ok_iff (hmaxAge : sessions.issuer.maxAge.isZero = false)
    {token : String} {vault : Vault} {identity : Identity} :
    (Work.answered (sessions.verify token) vault).1 = .ok identity
      ↔ ∃ claims, sessions.issuer.verify token (secondsOf vault.now) = .ok claims ∧
          (vault.store.live? vault.now (recordKey claims.subject token)).isSome = true ∧
          identity = .named claims.subject := by
  constructor
  · intro haccepted
    rcases sessions.issuer.verify_cases token (secondsOf vault.now) with ⟨claims, h⟩ | h
    · rw [verify_answered hmaxAge h] at haccepted
      by_cases hlive : (vault.store.live? vault.now (recordKey claims.subject token)).isSome = true
      · rw [if_pos hlive] at haccepted
        exact ⟨claims, h, hlive, (Except.ok.inj haccepted).symm⟩
      · rw [if_neg hlive] at haccepted
        cases haccepted
    · rw [verify_answered_of_error h] at haccepted
      cases haccepted
  · rintro ⟨claims, h, hlive, rfl⟩
    rw [verify_answered hmaxAge h, if_pos hlive]

/-- Verification changes nothing that can be seen. -/
theorem live?_verify (hmaxAge : sessions.issuer.maxAge.isZero = false) (token : String)
    (vault : Vault) :
    ∃ store, (Work.answered (sessions.verify token) vault).2 = { vault with store } ∧
      ∀ later, vault.now ≤ later → ∀ key, store.live? later key = vault.store.live? later key := by
  rcases sessions.issuer.verify_cases token (secondsOf vault.now) with ⟨claims, h⟩ | h
  · rw [verify_answered hmaxAge h]
    exact ⟨_, rfl, fun later hle key => CredentialStore.live?_exists _ hle _ key⟩
  · rw [verify_answered_of_error h]
    exact ⟨vault.store, rfl, fun _ _ _ => rfl⟩

end Sessions

end AccessGateway
