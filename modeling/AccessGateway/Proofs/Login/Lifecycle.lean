import AccessGateway.Proofs.Login.Sessions

/-!
# `AccessGateway.Proofs.Login.Lifecycle`: a token is good from its issue to its end or revocation

Whether a token is accepted depends on the store, on the clock and on what the token says. Here it
is tied to the history of a run alone: who was issued which token at what time, and whose tokens
were revoked since.

A revocation covers the keys that begin with the literal text for its user. The name of a user may
hold the text that stands between a name and a token in a key. The keys of such a user are covered
by the revocation for a shorter name too, and `LastIssued` accounts for that.

A token names its end in whole seconds, while the store counts milliseconds. The end in the token
is rounded down, but the leeway of the issuer is longer than a second, so it is the record that
ends first. This holds as long as a word holds the end, which `verify_eq_ok_iff_standing` assumes
of the clock.

* `Sessions.InStep.step`: one event keeps the records in step with the history.
* `Sessions.inStep_logOf`: so they are after any run from the empty store.
* `Sessions.standing_iff_isSome`: a token stands by the history when it is on record.
* `Sessions.not_standing_revoke`: no token of a user stands after a revocation.
* `Sessions.verify_eq_ok_iff_standing`: after any run, the tokens that are accepted are those that
  stand, and all others are refused.
-/

set_option autoImplicit false

namespace AccessGateway

/-! ### Runs and their history -/

/-- What matters of a run for later: a token was issued to a user, or all those of a user were
revoked. The passing of time and verifications are not recorded. -/
inductive SessionRecord where
  | issued (time : Instant) (user token : String)
  | revoked (user : String)
  deriving DecidableEq

/-- What happens in a run: time passes, a token is issued, the tokens of a user are revoked, or a
token is verified. -/
inductive SessionEvent where
  | pass (elapsed : Nat)
  | issue (user : Identity)
  | revoke (user : String)
  | verify (token : String)

/-- A store after some events, and their history with the latest first. -/
structure SessionLog where
  vault : Vault
  history : List SessionRecord

namespace Sessions

/-- What one event does. Where a user may be logged in only once, an issue revokes before it puts
its own token on record. -/
def step (sessions : Sessions) (log : SessionLog) : SessionEvent → SessionLog
  | .pass elapsed => { log with vault := { log.vault with now := log.vault.now + elapsed } }
  | .issue user =>
    match Work.answered (sessions.issueTo user) log.vault with
    | (.ok issued, vault) =>
      let cleared :=
        if sessions.multipleLogin then log.history else .revoked user.name :: log.history
      ⟨vault, .issued log.vault.now user.name issued.token :: cleared⟩
    | (.error _, vault) => { log with vault }
  | .revoke user =>
    ⟨(Work.answered (revokeAll user) log.vault).2, .revoked user :: log.history⟩
  | .verify token => { log with vault := (Work.answered (sessions.verify token) log.vault).2 }

/-- The log of a run from the empty store. -/
def logOf (sessions : Sessions) (start : Instant) (events : List SessionEvent) : SessionLog :=
  events.foldl sessions.step ⟨⟨.empty, start⟩, []⟩

/-- A token was issued to a user at a time and not again since then, and nobody's tokens were
revoked since under whose literal text its key begins. -/
def LastIssued (history : List SessionRecord) (user token : String) (time : Instant) : Prop :=
  ∃ since before, history = since ++ .issued time user token :: before ∧
    (∀ t, .issued t user token ∉ since) ∧
    ∀ other, .revoked other ∈ since →
      ¬ (recordKey other "").toList <+: (recordKey user token).toList

/-- A token stands with a user: the last time that it was issued to the user is less than its
lifetime ago, and it was not revoked since. It is a statement about the history alone. -/
def Standing (sessions : Sessions) (history : List SessionRecord) (now : Instant)
    (user token : String) : Prop :=
  ∃ time, now < time + sessions.issuer.maxAge.millis ∧ LastIssued history user token time

/-- The record that a history leaves under a key, with the latest event looked at first: an issue
under that key leaves one, and a revocation that covers the key none. -/
def recorded (sessions : Sessions) (key : String) : List SessionRecord → Option Entry
  | [] => none
  | .issued time user token :: earlier =>
    if key = recordKey user token then
      some ⟨token, some (time + sessions.issuer.maxAge.millis)⟩
    else sessions.recorded key earlier
  | .revoked user :: earlier =>
    if IsRecordOf user key then none else sessions.recorded key earlier

/-- The store of a log holds what its history leaves, and the history names tokens as the issuer
made them. This is the invariant of runs. -/
structure InStep (sessions : Sessions) (log : SessionLog) : Prop where
  live : ∀ later, log.vault.now ≤ later → ∀ key, log.vault.store.live? later key
    = (sessions.recorded key log.history).bind fun entry => entry.lasting? later
  issued : ∀ time user token, .issued time user token ∈ log.history →
    time ≤ log.vault.now ∧ token = sessions.issuer.issue user (secondsOf time)

variable {sessions : Sessions}

/-! ### The records are in step with the history -/

/-- Time passes without a trace: what has expired by then is neither live in the store nor standing
by the history. -/
theorem InStep.pass {log : SessionLog} (h : sessions.InStep log) (elapsed : Nat) :
    sessions.InStep (sessions.step log (.pass elapsed)) where
  live later hle key := h.live later (Nat.le_trans (Nat.le_add_right _ _) hle) key
  issued time user token hmem :=
    ⟨Nat.le_trans (h.issued time user token hmem).1 (Nat.le_add_right _ _),
      (h.issued time user token hmem).2⟩

/-- A revocation keeps them in step: it removes what the history from then on does not leave, the
records of other users whose keys begin alike included. -/
theorem InStep.revoke {log : SessionLog} (h : sessions.InStep log) (user : String) :
    sessions.InStep (sessions.step log (.revoke user)) := by
  obtain ⟨count, store, hanswer, hrecords⟩ := revokeAll_answered user log.vault
  have hstep : sessions.step log (.revoke user)
      = ⟨{ log.vault with store }, .revoked user :: log.history⟩ := by
    rw [step, hanswer]
  rw [hstep]
  constructor
  · intro later hle key
    show store.live? later key = _
    rw [hrecords later hle, recorded]
    split
    · rfl
    · exact h.live later hle key
  · intro time name token hmem
    rcases List.mem_cons.mp hmem with heq | hmem
    · cases heq
    · exact h.issued time name token hmem

/-- An issue, with the revocation that comes before it, keeps them in step. Tokens must have a
lifetime, as one without an end is not put on record. -/
theorem InStep.issue (hmaxAge : sessions.issuer.maxAge.isZero = false) {log : SessionLog}
    (h : sessions.InStep log) (user : Identity) :
    sessions.InStep (sessions.step log (.issue user)) := by
  obtain ⟨store, hanswer, hrecords⟩ := issueTo_answered hmaxAge user log.vault
  have hstep : sessions.step log (.issue user)
      = ⟨{ log.vault with store },
          .issued log.vault.now user.name
              (sessions.issuer.issue user.name (secondsOf log.vault.now)) ::
            if sessions.multipleLogin then log.history
            else .revoked user.name :: log.history⟩ := by
    rw [step, hanswer]
  rw [hstep]
  constructor
  · intro later hle key
    show store.live? later key = _
    rw [hrecords later hle, recorded, h.live later hle]
    by_cases hkey : key
        = recordKey user.name (sessions.issuer.issue user.name (secondsOf log.vault.now))
    · rw [if_pos hkey, if_pos hkey, Option.bind_some]
    · rw [if_neg hkey, if_neg hkey]
      -- the revocation under single login is in the history just before the issue
      cases sessions.multipleLogin with
      | true => rw [if_neg (by simp), if_pos rfl]
      | false =>
        rw [if_neg Bool.false_ne_true, recorded]
        by_cases hrecord : IsRecordOf user.name key
        · rw [if_pos ⟨rfl, hrecord⟩, if_pos hrecord, Option.bind_none]
        · rw [if_neg fun hboth => hrecord hboth.2, if_neg hrecord]
  · intro time name token hmem
    rcases List.mem_cons.mp hmem with heq | hmem
    · cases heq
      exact ⟨Nat.le_refl _, rfl⟩
    · have hearlier : .issued time name token ∈ log.history := by
        cases hmultiple : sessions.multipleLogin with
        | true => simpa [hmultiple] using hmem
        | false => simpa [hmultiple] using hmem
      exact h.issued time name token hearlier

/-- A verification keeps them in step, since it evicts at most what has expired, and adds nothing to
the history. -/
theorem InStep.verify (hmaxAge : sessions.issuer.maxAge.isZero = false) {log : SessionLog}
    (h : sessions.InStep log) (token : String) :
    sessions.InStep (sessions.step log (.verify token)) := by
  obtain ⟨store, hanswer, hsame⟩ := live?_verify hmaxAge token log.vault
  have hstep : sessions.step log (.verify token)
      = ⟨{ log.vault with store }, log.history⟩ := by
    rw [step, hanswer]
  rw [hstep]
  constructor
  · intro later hle key
    show store.live? later key = _
    rw [hsame later hle, h.live later hle]
  · exact h.issued

/-- Any event keeps the records in step, with one case for each kind of event. -/
theorem InStep.step (hmaxAge : sessions.issuer.maxAge.isZero = false) {log : SessionLog}
    (h : sessions.InStep log) (event : SessionEvent) :
    sessions.InStep (sessions.step log event) := by
  cases event with
  | pass elapsed => exact h.pass elapsed
  | issue user => exact h.issue hmaxAge user
  | revoke user => exact h.revoke user
  | verify token => exact h.verify hmaxAge token

/-- The records are in step after any run, by induction on its events from the empty store. -/
theorem inStep_logOf (hmaxAge : sessions.issuer.maxAge.isZero = false) (start : Instant)
    (events : List SessionEvent) : sessions.InStep (sessions.logOf start events) := by
  have hempty : sessions.InStep ⟨⟨.empty, start⟩, []⟩ := ⟨fun _ _ _ => rfl, nofun⟩
  exact List.foldlRecOn events sessions.step hempty fun _ h event _ => h.step hmaxAge event

/-! ### What the history says -/

/-- A revocation leaves no token of the user standing, until one is issued again. -/
theorem not_standing_revoke (log : SessionLog) (user token : String) (now : Instant) :
    ¬ sessions.Standing (sessions.step log (.revoke user)).history now user token := by
  rintro ⟨time, -, since, before, hsplit, -, hrevoked⟩
  rw [step] at hsplit
  rcases since with _ | ⟨latest, since⟩
  · cases hsplit
  · obtain ⟨rfl, -⟩ := List.cons.inj hsplit
    exact hrevoked user List.mem_cons_self (isRecordOf_recordKey user token)

/-- A record of another token that did not revoke this one makes no difference to when this one was
last issued. -/
theorem lastIssued_cons {user token : String} {latest : SessionRecord}
    (hother : ∀ t, latest ≠ .issued t user token)
    (hkept : ∀ other, latest = .revoked other → ¬ IsRecordOf other (recordKey user token))
    (earlier : List SessionRecord) (time : Instant) :
    LastIssued (latest :: earlier) user token time ↔ LastIssued earlier user token time := by
  constructor
  · rintro ⟨_ | ⟨first, since⟩, before, hsplit, hlast, hrevoked⟩
    · exact absurd (List.cons.inj hsplit).1 (hother time)
    · exact ⟨since, before, (List.cons.inj hsplit).2,
        fun t hmem => hlast t (List.mem_cons_of_mem _ hmem),
        fun other hmem => hrevoked other (List.mem_cons_of_mem _ hmem)⟩
  · rintro ⟨since, before, rfl, hlast, hrevoked⟩
    refine ⟨latest :: since, before, rfl, fun t hmem => ?_, fun other hmem => ?_⟩
    · rcases List.mem_cons.mp hmem with heq | hmem
      · exact hother t heq.symm
      · exact hlast t hmem
    · rcases List.mem_cons.mp hmem with heq | hmem
      · exact hkept other heq.symm
      · exact hrevoked other hmem

/-- The history leaves a record under the key of a token when the token was issued and nothing
revoked it since. The induction is on the history, latest event first. -/
theorem recorded_eq_some_iff {history : List SessionRecord}
    (hissued : ∀ t u k, .issued t u k ∈ history → ':' ∉ k.toList) {user token : String}
    (htoken : ':' ∉ token.toList) (entry : Entry) :
    sessions.recorded (recordKey user token) history = some entry
      ↔ ∃ time, entry = ⟨token, some (time + sessions.issuer.maxAge.millis)⟩ ∧
          LastIssued history user token time := by
  induction history with
  | nil => simp [recorded, LastIssued]
  | cons latest earlier ih =>
    have ih := ih fun t u k hmem => hissued t u k (List.mem_cons_of_mem _ hmem)
    cases latest with
    | issued time u k =>
      rw [recorded]
      by_cases hkey : recordKey user token = recordKey u k
      · -- the same key means the same user and token, so this is the last issue of the token
        obtain ⟨rfl, rfl⟩ :=
          recordKey_injective htoken (hissued time u k List.mem_cons_self) hkey
        rw [if_pos rfl]
        constructor
        · intro h
          exact ⟨time, (Option.some.inj h).symm, [], earlier, rfl, nofun, nofun⟩
        · rintro ⟨t, rfl, _ | ⟨first, since⟩, before, hsplit, hlast, -⟩
          · cases hsplit
            rfl
          · cases hsplit
            exact absurd List.mem_cons_self (hlast time)
      · have hother : ∀ t, SessionRecord.issued time u k ≠ .issued t user token := by
          rintro t ⟨⟩
          exact hkey rfl
        have hkept : ∀ name, SessionRecord.issued time u k = .revoked name →
            ¬ IsRecordOf name (recordKey user token) := nofun
        rw [if_neg hkey]
        exact ih.trans (exists_congr fun t =>
          and_congr_right fun _ => (lastIssued_cons hother hkept earlier t).symm)
    | revoked other =>
      -- what the revocation covers is off record, whatever came before
      rw [recorded]
      by_cases hrecord : IsRecordOf other (recordKey user token)
      · rw [if_pos hrecord]
        constructor
        · nofun
        · rintro ⟨t, rfl, _ | ⟨first, since⟩, before, hsplit, -, hrevoked⟩
          · cases hsplit
          · cases hsplit
            exact absurd hrecord (hrevoked other List.mem_cons_self)
      · have hkept : ∀ name, SessionRecord.revoked other = .revoked name →
            ¬ IsRecordOf name (recordKey user token) := by
          rintro name ⟨⟩
          exact hrecord
        have hother : ∀ t, SessionRecord.revoked other ≠ .issued t user token := nofun
        rw [if_neg hrecord]
        exact ih.trans (exists_congr fun t =>
          and_congr_right fun _ => (lastIssued_cons hother hkept earlier t).symm)

/-- A token stands by the history when it is on record, and the other way round. A token has no
colon, so its key is that of one user only. -/
theorem standing_iff_isSome {log : SessionLog} (h : sessions.InStep log) (user : String)
    {token : String} (htoken : ':' ∉ token.toList) :
    sessions.Standing log.history log.vault.now user token
      ↔ (log.vault.store.live? log.vault.now (recordKey user token)).isSome = true := by
  have hissued : ∀ t u k, .issued t u k ∈ log.history → ':' ∉ k.toList := by
    intro t u k hmem
    rw [(h.issued t u k hmem).2]
    exact TokenIssuer.colon_not_mem_issue _ _ _
  have hrecorded : ∀ entry, sessions.recorded (recordKey user token) log.history = some entry
      ↔ ∃ time, entry = ⟨token, some (time + sessions.issuer.maxAge.millis)⟩ ∧
          LastIssued log.history user token time := recorded_eq_some_iff hissued htoken
  rw [h.live _ (Nat.le_refl _)]
  constructor
  · rintro ⟨time, hend, hlast⟩
    have hahead : ∀ d ∈ some (time + sessions.issuer.maxAge.millis), log.vault.now < d := by
      rintro d ⟨⟩
      exact hend
    rw [(hrecorded _).mpr ⟨time, rfl, hlast⟩, Option.bind_some, Entry.lasting?_eq, if_pos hahead]
    rfl
  · intro hsome
    -- what is live is what the history leaves and what has not ended
    obtain ⟨lasting, hlasting⟩ := Option.isSome_iff_exists.mp hsome
    obtain ⟨entry, hentry, hend⟩ := Option.bind_eq_some_iff.mp hlasting
    obtain ⟨time, rfl, hlast⟩ := (hrecorded entry).mp hentry
    refine ⟨time, ?_, hlast⟩
    rw [Entry.lasting?_eq] at hend
    split at hend
    · rename_i hahead
      exact hahead _ rfl
    · cases hend

/-- A standing token is accepted by the issuer, for its user. It was issued, and its lifetime is not
over; no record is asked for here. -/
theorem issuer_verify_of_standing {log : SessionLog} (h : sessions.InStep log)
    (hclock : secondsOf log.vault.now + sessions.issuer.maxAge.seconds ≤ Text.Numeral.maxWord)
    {user token : String}
    (hstanding : sessions.Standing log.history log.vault.now user token) :
    ∃ claims, sessions.issuer.verify token (secondsOf log.vault.now) = .ok claims ∧
      claims.subject = user := by
  obtain ⟨time, hend, since, before, hsplit, -, -⟩ := hstanding
  obtain ⟨hle, rfl⟩ := h.issued time user token (by rw [hsplit]; simp)
  exact ⟨_, issuer_verify_issue user hle hend hclock, rfl⟩

/-- A standing token is accepted, for its user: the issuer accepts it and its record is live. -/
theorem verify_ok_of_standing (hmaxAge : sessions.issuer.maxAge.isZero = false) {log : SessionLog}
    (h : sessions.InStep log)
    (hclock : secondsOf log.vault.now + sessions.issuer.maxAge.seconds ≤ Text.Numeral.maxWord)
    {user token : String}
    (hstanding : sessions.Standing log.history log.vault.now user token) :
    (Work.answered (sessions.verify token) log.vault).1 = .ok (.named user) := by
  obtain ⟨claims, hclaims, rfl⟩ := issuer_verify_of_standing h hclock hstanding
  have htoken := TokenIssuer.colon_not_mem_of_verify hclaims
  have hlive := (standing_iff_isSome h claims.subject htoken).mp hstanding
  rw [verify_answered hmaxAge hclaims, if_pos hlive]

/-- A token that stands with nobody is refused, whether by the issuer or for want of a record, and
the answer does not tell which. -/
theorem verify_error_of_not_standing (hmaxAge : sessions.issuer.maxAge.isZero = false)
    {log : SessionLog} (h : sessions.InStep log) {token : String}
    (hnobody : ¬ ∃ user, sessions.Standing log.history log.vault.now user token) :
    (Work.answered (sessions.verify token) log.vault).1 = .error .incorrectCredential := by
  rcases sessions.issuer.verify_cases token (secondsOf log.vault.now) with
    ⟨claims, hclaims⟩ | hrefused
  · have htoken := TokenIssuer.colon_not_mem_of_verify hclaims
    have hlive := mt (standing_iff_isSome h claims.subject htoken).mpr
      fun hstanding => hnobody ⟨claims.subject, hstanding⟩
    rw [verify_answered hmaxAge hclaims, if_neg hlive]
  · rw [verify_answered_of_error hrefused]

/-- After any run from the empty store, a token is accepted exactly when it stands with a user, and
it is accepted as that user, known by name only. All other tokens are refused. The clock and the
lifetime are such that a word holds the ends of tokens. -/
theorem verify_eq_ok_iff_standing (sessions : Sessions)
    (hmaxAge : sessions.issuer.maxAge.isZero = false) (start : Instant)
    (events : List SessionEvent)
    (hclock : secondsOf (sessions.logOf start events).vault.now + sessions.issuer.maxAge.seconds
      ≤ Text.Numeral.maxWord) (token : String) :
    let log := sessions.logOf start events
    let answer := (Work.answered (sessions.verify token) log.vault).1
    (∀ identity, answer = .ok identity
      ↔ ∃ user, identity = .named user ∧
          sessions.Standing log.history log.vault.now user token) ∧
    ((¬ ∃ user, sessions.Standing log.history log.vault.now user token) →
      answer = .error .incorrectCredential) := by
  intro log answer
  have h : sessions.InStep log := inStep_logOf hmaxAge start events
  have hrefused : (¬ ∃ user, sessions.Standing log.history log.vault.now user token) →
      answer = .error .incorrectCredential := verify_error_of_not_standing hmaxAge h
  refine ⟨fun identity => ⟨fun hanswer => ?_, ?_⟩, hrefused⟩
  · by_cases hstands : ∃ user, sessions.Standing log.history log.vault.now user token
    · obtain ⟨user, hstanding⟩ := hstands
      have haccepted : answer = .ok (.named user) :=
        verify_ok_of_standing hmaxAge h hclock hstanding
      rw [haccepted] at hanswer
      cases hanswer
      exact ⟨user, rfl, hstanding⟩
    · rw [hrefused hstands] at hanswer
      cases hanswer
  · rintro ⟨user, rfl, hstanding⟩
    exact verify_ok_of_standing hmaxAge h hclock hstanding

/-- A second after it was issued, a token that is good for a minute is accepted, since it stands by
the history of the run. -/
theorem verify_eq_ok_iff_standing_alice :
    let sessions : Sessions := ⟨⟨"kubesphere", .ofSeconds 60, "secret"⟩, true⟩
    let events : List SessionEvent := [.issue (.named "alice"), .pass 1000]
    let log := sessions.logOf 0 events
    let token := sessions.issuer.issue "alice" 0
    sessions.issuer.maxAge.isZero = false ∧
    secondsOf log.vault.now + sessions.issuer.maxAge.seconds ≤ Text.Numeral.maxWord ∧
    (Work.answered (sessions.verify token) log.vault).1 = .ok (.named "alice") := by
  intro sessions events log token
  have hnow : log.vault.now = 1000 := rfl
  have hhistory : log.history = [.issued 0 "alice" token] := rfl
  have hclock :
      secondsOf log.vault.now + sessions.issuer.maxAge.seconds ≤ Text.Numeral.maxWord := by
    rw [hnow]
    decide
  have hstands : sessions.Standing log.history log.vault.now "alice" token := by
    rw [hnow, hhistory]
    exact ⟨0, by decide, [], [], rfl, nofun, nofun⟩
  exact ⟨rfl, hclock, ((verify_eq_ok_iff_standing sessions rfl 0 events hclock token).1 _).mpr
    ⟨"alice", rfl, hstands⟩⟩

end Sessions

end AccessGateway
