import AccessGateway.Proofs.Login.Lifecycle

/-!
# `AccessGateway.Proofs.Login.Revocation`: whose tokens a revocation removes, and for how long

A revocation is for a user, but finds records by the text of their keys, and a token is text that
is made from its user and the second of its issue alone. Both leave room for other users and for
later issues.

* `Sessions.isRecordOf_recordKey_iff`: a revocation covers the tokens of its user and of the users
  whose names continue that name with the text that stands before the token of a key.
* `Sessions.verify_revoked`: a token that is accepted for one user is accepted after a revocation
  for another one, unless the name of its user continues that other name. Both halves are stated, so
  it is exact.
* `Sessions.history_foldl`: a run adds to the history what happens from its start on.
* `Sessions.refused_unless_issued_again`: once a token has no record, it is refused until it is
  issued again, and the same text is issued again within the second of its issue only.

The last result is about every run that goes on from any run, and about tokens that have lost their
record in any way. `Sessions.issued_revoked` says that revocation is one such way. The two witnesses
at the end are the two sides of it: a second later the token stays refused, and within the second it
comes back.
-/

set_option autoImplicit false

namespace AccessGateway

namespace Sessions

/-! ### Names that continue others -/

/-- The name continues the other one with the text that stands between the name and the token of a
key, whole or up to its last colon. Ordinary names do not, as they have no colon. -/
def Continues (name other : String) : Prop :=
  name.toList = other.toList ++ ":token".toList ∨
  ∃ rest, name.toList = other.toList ++ ":token:".toList ++ rest

/-- A text that ends in `":token"`, and has `":token:"` behind another name, is a name that
continues that one. -/
theorem continues_of_append {name other : String} {rest : List Char}
    (h : name.toList ++ ":token".toList = other.toList ++ ":token:".toList ++ rest) :
    Continues name other := by
  have hlast : ":token:".toList = ":token".toList ++ [':'] := by decide
  rcases List.append_eq_append_iff.mp h with ⟨overlap, hother, htoken⟩ | ⟨before, hname, -⟩
  · -- the two texts overlap, in nothing or in the one colon of ":token"
    have hchars : ":token".toList = ':' :: "token".toList := by decide
    rcases List.eq_nil_or_concat overlap with rfl | ⟨front, last, rfl⟩
    · rw [List.append_nil] at hother
      exact Or.inr ⟨[], by rw [List.append_nil, hother]⟩
    · rw [List.concat_eq_append, hlast, ← List.append_assoc, ← List.append_assoc] at hother
      obtain ⟨hfront, hcolon⟩ := List.append_inj' hother rfl
      obtain rfl : ':' = last := List.head_eq_of_cons_eq hcolon
      rw [List.concat_eq_append, hchars] at htoken
      cases front with
      | nil => exact Or.inl (by rw [hfront, List.append_nil])
      | cons first front =>
        have hmem : ':' ∈ "token".toList := by
          rw [(List.cons.inj htoken).2]
          simp
        exact absurd hmem (by decide)
  · exact Or.inr ⟨before, hname⟩

/-- A revocation covers the tokens of its user and of the users whose names continue that name, and
those of no one else. -/
theorem isRecordOf_recordKey_iff {user other token : String} (htoken : ':' ∉ token.toList) :
    IsRecordOf other (recordKey user token) ↔ user = other ∨ Continues user other := by
  have hlast : ":token:".toList = ":token".toList ++ [':'] := by decide
  have hempty : "".toList = [] := rfl
  rw [IsRecordOf, toList_recordKey, toList_recordKey, hempty, List.append_nil, List.append_assoc,
    List.append_assoc, List.append_assoc, List.prefix_append_right_inj]
  constructor
  · rintro ⟨rest, hkey⟩
    -- the key, cut behind the text of the revocation and in front of the token
    have hcut : other.toList ++ ":token".toList ++ ':' :: rest
        = user.toList ++ ":token".toList ++ ':' :: token.toList := by
      simpa [hlast] using hkey
    by_cases hcolon : ':' ∈ rest
    · -- the last colon of the key is in the rest
      obtain ⟨after, before, hreverse, hafter⟩ :=
        List.eq_append_cons_of_mem (List.mem_reverse.mpr hcolon)
      have hrest : rest = before.reverse ++ ':' :: after.reverse := by
        rw [← List.reverse_reverse rest, hreverse]
        simp
      have hlastCut : (other.toList ++ ":token:".toList ++ before.reverse) ++ ':' :: after.reverse
          = user.toList ++ ":token".toList ++ ':' :: token.toList := by
        rw [← hcut, hrest, hlast]
        simp
      obtain ⟨hnames, -⟩ := Text.append_cons_inj (by simpa using hafter) htoken hlastCut
      exact Or.inr (continues_of_append hnames.symm)
    · -- otherwise it is the one that the revocation looks for, and the names are one
      obtain ⟨hnames, -⟩ := Text.append_cons_inj hcolon htoken hcut
      exact Or.inl (String.toList_inj.mp (List.append_cancel_right hnames)).symm
  · rintro (rfl | hname | ⟨rest, hname⟩)
    · exact ⟨token.toList, by simp⟩
    · exact ⟨"token:".toList ++ token.toList, by simp [hname]⟩
    · exact ⟨rest ++ ":token:".toList ++ token.toList, by simp [hname]⟩

/-! ### Whose tokens a revocation removes -/

/-- The event revokes the tokens of the user: as such, or because the user may be logged in only
once and logs in. -/
def Revokes (sessions : Sessions) (user : String) : SessionEvent → Prop
  | .revoke name => name = user
  | .issue identity => sessions.multipleLogin = false ∧ identity.name = user
  | .pass _ | .verify _ => False

variable {sessions : Sessions}

/-- A revocation takes no time, and leaves the records of other users as they are. What it covers is
decided by the text of the key alone. -/
theorem live?_step_of_revokes (hmaxAge : sessions.issuer.maxAge.isZero = false) (log : SessionLog)
    {event : SessionEvent} {user other token : String} (hother : user ≠ other)
    (hevent : sessions.Revokes other event) (htoken : ':' ∉ token.toList) :
    (sessions.step log event).vault.now = log.vault.now ∧
    (sessions.step log event).vault.store.live? log.vault.now (recordKey user token)
      = if IsRecordOf other (recordKey user token) then none
        else log.vault.store.live? log.vault.now (recordKey user token) := by
  cases event with
  | pass elapsed => exact hevent.elim
  | verify token => exact hevent.elim
  | revoke name =>
    obtain rfl : name = other := hevent
    obtain ⟨count, store, hanswer, hrecords⟩ := revokeAll_answered name log.vault
    rw [step, hanswer]
    exact ⟨rfl, hrecords _ (Nat.le_refl _) _⟩
  | issue identity =>
    obtain ⟨hsingle, rfl⟩ := hevent
    obtain ⟨store, hanswer, hrecords⟩ := issueTo_answered hmaxAge identity log.vault
    -- the new record has a key of its own, since its user is another one
    have hkey : recordKey user token ≠ recordKey identity.name
        (sessions.issuer.issue identity.name (secondsOf log.vault.now)) := fun heq =>
      hother (recordKey_injective htoken (TokenIssuer.colon_not_mem_issue _ _ _) heq).1
    rw [step, hanswer]
    refine ⟨rfl, ?_⟩
    show store.live? log.vault.now _ = _
    rw [hrecords _ (Nat.le_refl _), if_neg hkey]
    simp only [hsingle, true_and]

/-- A revocation for another user decides by the key of a token: covered by it, the token is
refused, and otherwise accepted as before. -/
theorem verify_step_of_revokes (hmaxAge : sessions.issuer.maxAge.isZero = false) {log : SessionLog}
    {event : SessionEvent} {user other token : String} (hother : user ≠ other)
    (hevent : sessions.Revokes other event)
    (haccepted : (Work.answered (sessions.verify token) log.vault).1 = .ok (.named user)) :
    (Work.answered (sessions.verify token) (sessions.step log event).vault).1
      = if IsRecordOf other (recordKey user token) then .error .incorrectCredential
        else .ok (.named user) := by
  obtain ⟨claims, hclaims, hlive, hname⟩ := (verify_answered_eq_ok_iff hmaxAge).mp haccepted
  obtain rfl : user = claims.subject := congrArg Identity.name hname
  obtain ⟨hnow, hrecord⟩ := live?_step_of_revokes hmaxAge log hother hevent
    (TokenIssuer.colon_not_mem_of_verify hclaims)
  -- no time passes, so the issuer accepts the token as before
  rw [← hnow] at hclaims
  rw [verify_answered hmaxAge hclaims, hnow, hrecord]
  by_cases hcovered : IsRecordOf other (recordKey claims.subject token)
  · rw [if_pos hcovered, if_pos hcovered]
    rfl
  · rw [if_neg hcovered, if_neg hcovered, if_pos hlive]

/-- A token that is accepted for a user just before a revocation for another user is accepted just
after it, unless the name of its user continues that of the other one: then it is refused. The name
of a user is joined with the token by a colon in the key of a record, so a name that goes on behind
a colon and the word for tokens is reached by the pattern for the shorter one. -/
theorem verify_revoked (sessions : Sessions) (hmaxAge : sessions.issuer.maxAge.isZero = false)
    (log : SessionLog) (event : SessionEvent) {user other token : String} (hother : user ≠ other)
    (hevent : sessions.Revokes other event)
    (haccepted : (Work.answered (sessions.verify token) log.vault).1 = .ok (.named user)) :
    let answer := (Work.answered (sessions.verify token) (sessions.step log event).vault).1
    (¬ Continues user other → answer = .ok (.named user)) ∧
    (Continues user other → answer = .error .incorrectCredential) := by
  intro answer
  have hanswer : answer = _ := verify_step_of_revokes hmaxAge hother hevent haccepted
  obtain ⟨claims, hclaims, -⟩ := (verify_answered_eq_ok_iff hmaxAge).mp haccepted
  have hcovered : IsRecordOf other (recordKey user token) ↔ user = other ∨ Continues user other :=
    isRecordOf_recordKey_iff (TokenIssuer.colon_not_mem_of_verify hclaims)
  constructor
  · intro hcontinues
    rw [hanswer, if_neg fun h => (hcovered.mp h).elim hother hcontinues]
  · intro hcontinues
    rw [hanswer, if_pos (hcovered.mpr (Or.inr hcontinues))]

/-- The tokens of bob outlast a revocation for alice, whose name his does not continue. -/
theorem verify_revoked_alice :
    let sessions : Sessions := ⟨⟨"kubesphere", .ofSeconds 60, "secret"⟩, true⟩
    let log := sessions.logOf 0 [.issue (.named "bob")]
    let token := sessions.issuer.issue "bob" 0
    sessions.issuer.maxAge.isZero = false ∧ "bob" ≠ "alice" ∧
    sessions.Revokes "alice" (.revoke "alice") ∧
    (Work.answered (sessions.verify token) log.vault).1 = .ok (.named "bob") ∧
    (Work.answered (sessions.verify token) (sessions.step log (.revoke "alice")).vault).1
      = .ok (.named "bob") := by
  intro sessions log token
  have hstands : sessions.Standing log.history log.vault.now "bob" token :=
    ⟨0, by decide, [], [], rfl, nofun, nofun⟩
  have haccepted : (Work.answered (sessions.verify token) log.vault).1 = .ok (.named "bob") :=
    verify_ok_of_standing rfl (inStep_logOf rfl 0 _) (by decide) hstands
  have hcontinues : ¬ Continues "bob" "alice" := by
    rintro (h | ⟨rest, h⟩)
    · exact absurd h (by decide)
    · exact absurd (List.cons.inj h).1 (by decide)
  exact ⟨rfl, by decide, rfl, haccepted,
    (verify_revoked sessions rfl log (.revoke "alice") (by decide) rfl haccepted).1 hcontinues⟩

/-- The user "alice:token:laptop" has another name than alice, and loses a token to a revocation for
alice. -/
theorem revoked_with_alice :
    let sessions : Sessions := ⟨⟨"kubesphere", .ofSeconds 60, "secret"⟩, true⟩
    let log := sessions.logOf 0 [.issue (.named "alice:token:laptop")]
    let token := sessions.issuer.issue "alice:token:laptop" 0
    (Work.answered (sessions.verify token) log.vault).1 = .ok (.named "alice:token:laptop") ∧
    (Work.answered (sessions.verify token) (sessions.step log (.revoke "alice")).vault).1
      = .error .incorrectCredential := by
  intro sessions log token
  have hstands : sessions.Standing log.history log.vault.now "alice:token:laptop" token :=
    ⟨0, by decide, [], [], rfl, nofun, nofun⟩
  have haccepted : (Work.answered (sessions.verify token) log.vault).1
      = .ok (.named "alice:token:laptop") :=
    verify_ok_of_standing rfl (inStep_logOf rfl 0 _) (by decide) hstands
  have hcovered : IsRecordOf "alice" (recordKey "alice:token:laptop" token) :=
    (isRecordOf_recordKey_iff (TokenIssuer.colon_not_mem_issue _ _ _)).mpr
      (Or.inr (Or.inr ⟨"laptop".toList, rfl⟩))
  have hrevokes : sessions.Revokes "alice" (.revoke "alice") := rfl
  refine ⟨haccepted, ?_⟩
  rw [verify_step_of_revokes rfl (by decide) hrevokes haccepted, if_pos hcovered]

/-! ### For how long a revocation lasts -/

/-- A revocation takes no time, and the history tells of it. -/
theorem step_revoke (sessions : Sessions) (log : SessionLog) (user : String) :
    (sessions.step log (.revoke user)).vault.now = log.vault.now ∧
    (sessions.step log (.revoke user)).history = .revoked user :: log.history := by
  obtain ⟨count, store, hanswer, -⟩ := revokeAll_answered user log.vault
  rw [step, hanswer]
  exact ⟨rfl, rfl⟩

/-- An issue takes no time, and the history tells of it and of the revocation before it, where there
is one. -/
theorem step_issue (hmaxAge : sessions.issuer.maxAge.isZero = false) (log : SessionLog)
    (user : Identity) :
    (sessions.step log (.issue user)).vault.now = log.vault.now ∧
    (sessions.step log (.issue user)).history
      = .issued log.vault.now user.name
            (sessions.issuer.issue user.name (secondsOf log.vault.now)) ::
          if sessions.multipleLogin then log.history else .revoked user.name :: log.history := by
  obtain ⟨store, hanswer, -⟩ := issueTo_answered hmaxAge user log.vault
  rw [step, hanswer]
  exact ⟨rfl, rfl⟩

/-- An event adds to the history what happens at its time or later, so a run that goes on cannot
issue anything in the past. -/
theorem history_step (hmaxAge : sessions.issuer.maxAge.isZero = false) (log : SessionLog)
    (event : SessionEvent) :
    log.vault.now ≤ (sessions.step log event).vault.now ∧
    ∃ since, (sessions.step log event).history = since ++ log.history ∧
      ∀ time user token, .issued time user token ∈ since → log.vault.now ≤ time := by
  cases event with
  | pass elapsed => exact ⟨Nat.le_add_right _ _, [], rfl, nofun⟩
  | revoke name =>
    obtain ⟨hnow, hhistory⟩ := step_revoke sessions log name
    rw [hnow, hhistory]
    exact ⟨Nat.le_refl _, [.revoked name], rfl, by simp⟩
  | verify token =>
    obtain ⟨store, hanswer, -⟩ := live?_verify hmaxAge token log.vault
    rw [step, hanswer]
    exact ⟨Nat.le_refl _, [], rfl, nofun⟩
  | issue identity =>
    obtain ⟨hnow, hhistory⟩ := step_issue hmaxAge log identity
    rw [hnow, hhistory]
    refine ⟨Nat.le_refl _, ?_⟩
    cases sessions.multipleLogin with
    | true => exact ⟨[_], rfl, by simp +contextual⟩
    | false => exact ⟨[_, .revoked identity.name], rfl, by simp +contextual⟩

/-- A run adds to the history what happens from its start on. -/
theorem history_foldl (hmaxAge : sessions.issuer.maxAge.isZero = false) (log : SessionLog)
    (events : List SessionEvent) :
    log.vault.now ≤ (events.foldl sessions.step log).vault.now ∧
    ∃ since, (events.foldl sessions.step log).history = since ++ log.history ∧
      ∀ time user token, .issued time user token ∈ since → log.vault.now ≤ time := by
  induction events generalizing log with
  | nil => exact ⟨Nat.le_refl _, [], rfl, nofun⟩
  | cons event rest ih =>
    obtain ⟨hfirst, added, hadded, htimes⟩ := history_step hmaxAge log event
    obtain ⟨hrest, since, hsince, hlater⟩ := ih (sessions.step log event)
    refine ⟨Nat.le_trans hfirst hrest, since ++ added, ?_, fun time user token hmem => ?_⟩
    · rw [List.foldl_cons, hsince, hadded, List.append_assoc]
    · rcases List.mem_append.mp hmem with hmem | hmem
      · exact Nat.le_trans hfirst (hlater time user token hmem)
      · exact htimes time user token hmem

/-- The last issue of a token is in what was added to a history, or was the last one before and has
not been revoked since. -/
theorem LastIssued.of_append {since earlier : List SessionRecord} {user token : String}
    {time : Instant} (h : LastIssued (since ++ earlier) user token time) :
    .issued time user token ∈ since ∨ LastIssued earlier user token time := by
  obtain ⟨after, before, hsplit, hlast, hkept⟩ := h
  rcases List.append_eq_append_iff.mp hsplit with ⟨rest, rfl, rfl⟩ | ⟨rest, rfl, hrest⟩
  · exact Or.inr ⟨rest, before, rfl, fun t hmem => hlast t (List.mem_append_right _ hmem),
      fun other hmem => hkept other (List.mem_append_right _ hmem)⟩
  · cases rest with
    | nil => exact Or.inr ⟨[], before, hrest.symm, nofun, nofun⟩
    | cons first rest =>
      obtain ⟨rfl, -⟩ := List.cons.inj hrest
      exact Or.inl (List.mem_append_right _ List.mem_cons_self)

/-- Once a token that was issued has no record, be it that it was revoked or that it ended, it is
refused at every later moment of a run, unless it was issued again since then: within the second of
its issue, and less than its lifetime ago. -/
theorem refused_unless_issued_again (sessions : Sessions)
    (hmaxAge : sessions.issuer.maxAge.isZero = false) (start : Instant)
    (events later : List SessionEvent) {time : Instant} {user token : String}
    (hissued : .issued time user token ∈ (sessions.logOf start events).history)
    (hgone : (sessions.logOf start events).vault.store.live?
      (sessions.logOf start events).vault.now (recordKey user token) = none) :
    let gone := sessions.logOf start events
    let log := sessions.logOf start (events ++ later)
    (Work.answered (sessions.verify token) log.vault).1 = .error .incorrectCredential ∨
    ∃ again since, log.history = since ++ gone.history ∧ .issued again user token ∈ since ∧
      gone.vault.now ≤ again ∧ secondsOf again = secondsOf time ∧
      log.vault.now < again + sessions.issuer.maxAge.millis := by
  intro gone log
  have hbefore : sessions.InStep gone := inStep_logOf hmaxAge start events
  have hafter : sessions.InStep log := inStep_logOf hmaxAge start (events ++ later)
  have hrun : log = later.foldl sessions.step gone := List.foldl_append
  obtain ⟨hnow, since, hhistory, htimes⟩ := history_foldl hmaxAge gone later
  rw [← hrun] at hnow hhistory
  by_cases hstands : ∃ name, sessions.Standing log.history log.vault.now name token
  · obtain ⟨name, again, hend, hlast⟩ := hstands
    -- the token is made from its user and second, so both issues are of the same ones
    have hagain : .issued again name token ∈ log.history := by
      obtain ⟨front, back, hsplit, -⟩ := hlast
      rw [hsplit]
      exact List.mem_append_right _ List.mem_cons_self
    have hsame : sessions.issuer.issue name (secondsOf again)
        = sessions.issuer.issue user (secondsOf time) :=
      (hafter.issued again name token hagain).2.symm.trans
        (hbefore.issued time user token hissued).2
    obtain ⟨rfl, hsecond⟩ := TokenIssuer.issue_injective hsame
    rw [hhistory] at hlast
    rcases hlast.of_append with hmem | hearlier
    · exact Or.inr ⟨again, since, hhistory, hmem, htimes _ _ _ hmem, hsecond, hend⟩
    · -- a token that was issued before then, and not since, has its record
      have htoken : ':' ∉ token.toList := by
        rw [(hbefore.issued time name token hissued).2]
        exact TokenIssuer.colon_not_mem_issue _ _ _
      have hstanding : sessions.Standing gone.history gone.vault.now name token :=
        ⟨again, Nat.lt_of_le_of_lt hnow hend, hearlier⟩
      have hlive := (standing_iff_isSome hbefore name htoken).mp hstanding
      rw [hgone] at hlive
      cases hlive
  · exact Or.inl (verify_error_of_not_standing hmaxAge hafter hstands)

/-- A token that is revoked after its issue stays in the history, and has no record: the history
forgets nothing. -/
theorem issued_revoked (hmaxAge : sessions.issuer.maxAge.isZero = false) {log : SessionLog}
    (h : sessions.InStep log) {time : Instant} {user token : String}
    (hissued : .issued time user token ∈ log.history) :
    .issued time user token ∈ (sessions.step log (.revoke user)).history ∧
    (sessions.step log (.revoke user)).vault.store.live?
      (sessions.step log (.revoke user)).vault.now (recordKey user token) = none := by
  have htoken : ':' ∉ token.toList := by
    rw [(h.issued time user token hissued).2]
    exact TokenIssuer.colon_not_mem_issue _ _ _
  constructor
  · rw [(step_revoke sessions log user).2]
    exact List.mem_cons_of_mem _ hissued
  · rw [← Option.not_isSome_iff_eq_none,
      ← standing_iff_isSome (h.step hmaxAge (.revoke user)) user htoken]
    exact not_standing_revoke log user token _

/-- A token that is revoked a second after its issue stays refused when alice logs in again, since
the new token has another second in it. -/
theorem refused_unless_issued_again_alice :
    let sessions : Sessions := ⟨⟨"kubesphere", .ofSeconds 60, "secret"⟩, true⟩
    let events : List SessionEvent := [.issue (.named "alice"), .pass 1000, .revoke "alice"]
    let gone := sessions.logOf 0 events
    let log := sessions.logOf 0 (events ++ [.issue (.named "alice")])
    let token := sessions.issuer.issue "alice" 0
    sessions.issuer.maxAge.isZero = false ∧ .issued 0 "alice" token ∈ gone.history ∧
    gone.vault.store.live? gone.vault.now (recordKey "alice" token) = none ∧
    (Work.answered (sessions.verify token) log.vault).1 = .error .incorrectCredential := by
  intro sessions events gone log token
  let before := sessions.logOf 0 [.issue (.named "alice"), .pass 1000]
  have hrun : gone = sessions.step before (.revoke "alice") := rfl
  have hbefore : sessions.InStep before := inStep_logOf rfl 0 _
  have hfirst : .issued 0 "alice" token ∈ before.history := List.mem_cons_self
  obtain ⟨hissued, hgone⟩ := issued_revoked rfl hbefore hfirst
  have hnow := (step_revoke sessions before "alice").1
  rw [← hrun] at hissued hgone hnow
  refine ⟨rfl, hissued, hgone, ?_⟩
  rcases refused_unless_issued_again sessions rfl 0 events [.issue (.named "alice")] hissued hgone
    with hrefused | ⟨again, -, -, -, hafter, hsecond, -⟩
  · exact hrefused
  · -- alice logs in again in another second
    have hlater : ∀ n : Nat, 1000 ≤ n → n / 1000 ≠ 0 := by
      intro n hn
      omega
    rw [hnow] at hafter
    exact absurd hsecond (hlater again hafter)

/-- A token that is revoked within the second of its issue is accepted again when alice logs in
again within it. -/
theorem accepted_after_revocation_alice :
    let sessions : Sessions := ⟨⟨"kubesphere", .ofSeconds 60, "secret"⟩, true⟩
    let events : List SessionEvent := [.issue (.named "alice"), .revoke "alice"]
    let gone := sessions.logOf 0 events
    let log := sessions.logOf 0 (events ++ [.issue (.named "alice")])
    let token := sessions.issuer.issue "alice" 0
    .issued 0 "alice" token ∈ gone.history ∧
    gone.vault.store.live? gone.vault.now (recordKey "alice" token) = none ∧
    (Work.answered (sessions.verify token) log.vault).1 = .ok (.named "alice") := by
  intro sessions events gone log token
  let before := sessions.logOf 0 [.issue (.named "alice")]
  have hrun : gone = sessions.step before (.revoke "alice") := rfl
  have hbefore : sessions.InStep before := inStep_logOf rfl 0 _
  have hfirst : .issued 0 "alice" token ∈ before.history := List.mem_cons_self
  obtain ⟨hissued, hgone⟩ := issued_revoked rfl hbefore hfirst
  have hnow := (step_revoke sessions before "alice").1
  rw [← hrun] at hissued hgone hnow
  -- the revocation took no time, so the second issue is at the time of the first
  have hstart : gone.vault.now = 0 := hnow
  have hmaxAge : sessions.issuer.maxAge.isZero = false := rfl
  have hmultiple : sessions.multipleLogin = true := rfl
  have hagain : log = sessions.step gone (.issue (.named "alice")) := rfl
  obtain ⟨hlogNow, hlogHistory⟩ := step_issue hmaxAge gone (.named "alice")
  rw [← hagain, hstart] at hlogNow hlogHistory
  rw [if_pos hmultiple] at hlogHistory
  have hstands : sessions.Standing log.history log.vault.now "alice" token := by
    rw [hlogNow, hlogHistory]
    exact ⟨0, by decide, [], gone.history, rfl, nofun, nofun⟩
  have hclock :
      secondsOf log.vault.now + sessions.issuer.maxAge.seconds ≤ Text.Numeral.maxWord := by
    rw [hlogNow]
    decide
  exact ⟨hissued, hgone, verify_ok_of_standing rfl (inStep_logOf rfl 0 _) hclock hstands⟩

end Sessions

end AccessGateway
