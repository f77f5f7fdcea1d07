import AccessGateway.Proofs.Credential.Schedule
import AccessGateway.Proofs.Login.Sessions
import Mathlib.Data.List.Perm.Subperm

/-!
# `AccessGateway.Proofs.Login.SingleLogin`: logins of one user that are made at the same time

Where a user may be logged in only once, a login revokes the tokens of the user before it puts its
own on record. It lists the records, removes those it found, and records its token, each by a call
of its own. A token that another login records between the first and the last of them is not in the
list, and stays.

What is left is stated by how many logins are between listing and recording at the same time. With
at most one such login at any moment, one token is left when all are over; each further one leaves
one more.

* `Sessions.Login`: the points between the calls of a login.
* `Sessions.Replacing`: the invariant of a run. Each token on record is about to be removed by some
  login, or is in a list that is no longer than the bound, the tokens still to be recorded included.
* `Sessions.Replacing.turn`: a turn keeps count of the tokens that no login is about to remove.
* `Sessions.run_overlapping`, `Sessions.verify_overlapping`: that two logins which both list before
  the first of them records leave both their tokens.
* `Sessions.verified_length_le_of_overlap_le`: how many tokens are accepted after logins in any
  order of turns.

The logins may begin with any tokens on record: the first list takes all of them in.
-/

set_option autoImplicit false

namespace AccessGateway

open Time (Duration)

namespace Sessions

variable (sessions : Sessions) (user : String)

/-! ### One login -/

/-- A login has listed the tokens of its user and has yet to record its own. It is told by the call
that comes next. -/
def isReplacing : Program (Outcome IssuedToken) → Bool
  | .call (.del _) _ => true
  | .call (.set ..) _ => true
  | _ => false

/-- The points between the calls of a login: before the clock is read, before the tokens of the
user are listed, before they are removed, before the new token is recorded, and the end. -/
inductive Login where
  | starting
  | listing (token : String)
  | removing (token : String) (keys : List String)
  | recording (token : String)
  | finished (token : String)
  deriving DecidableEq

namespace Login

/-- Puts a token on record. -/
def record (token : String) : Work IssuedToken := do
  Work.set (recordKey user token) token (some sessions.issuer.maxAge)
  return { token, expiresIn := some sessions.issuer.maxAge.seconds }

/-- What is left to do at a point. The token is fixed by the reading of the clock, before anything
is listed. -/
def work : Login → Work IssuedToken
  | starting => sessions.issueTo (.named user)
  | listing token => revokeAll user >>= fun _ => record sessions user token
  | removing token keys => Work.del keys >>= fun _ => record sessions user token
  | recording token => record sessions user token
  | finished token => return { token, expiresIn := some sessions.issuer.maxAge.seconds }

/-- The work as a program. -/
def program (login : Login) : Program (Outcome IssuedToken) :=
  ExceptT.run (login.work sessions user)

/-- The tokens of the user have been listed. -/
def hasListed : Login → Bool
  | starting | listing _ => false
  | _ => true

/-- The tokens of the user have been listed, and the new one is not recorded. -/
def isBetween : Login → Bool
  | removing .. | recording _ => true
  | _ => false

/-- A login under a single one begins by listing the tokens that there are, with the new token at
hand already. It was made from the instant on the clock. -/
theorem step_starting (hmaxAge : sessions.issuer.maxAge.isZero = false)
    (hsingle : sessions.multipleLogin = false) (vault : Vault) :
    (program sessions user starting).step .zero .answers vault
      = some (program sessions user
          (listing (sessions.issuer.issue user (secondsOf vault.now))), vault) := by
  have hnow : (ExceptT.run Work.now).step .zero .answers vault
      = some (ExceptT.run (pure vault.now), vault) := rfl
  rw [program, work, issueTo, Work.step_bind _ hnow]
  show some (ExceptT.run (ite _ _ _), vault) = _
  simp only [hmaxAge, hsingle, Bool.false_eq_true, if_false, if_true]
  rfl

/-- The list is of the live records of the user. Without any there is nothing to remove, and the new
one is recorded next. -/
theorem step_listing (token : String) (vault : Vault) :
    ∃ keys, (∀ key, key ∈ keys
        ↔ (vault.store.live? vault.now key).isSome = true ∧ IsRecordOf user key) ∧
      (program sessions user (listing token)).step .zero .answers vault
        = some (program sessions user
            (if keys.isEmpty then recording token else removing token keys), vault) := by
  obtain ⟨keys, hkeys, -, hmem⟩ := mem_keys_iff vault.store vault.now user
  have hanswer : (StoreCall.keys (recordPattern user)).answer vault.store vault.now
      = (.ok keys, vault.store) := by
    show (vault.store.keys vault.now (recordPattern user), vault.store) = _
    rw [hkeys]
    rfl
  have hask : (ExceptT.run (Work.keys (recordPattern user))).step .zero .answers vault
      = some (ExceptT.run (pure keys), vault) := Work.step_ask hanswer
  refine ⟨keys, hmem, ?_⟩
  rw [program, work, revokeAll, Work.step_bind _ (Work.step_bind _ hask)]
  cases keys with
  | nil => rfl
  | cons key rest => rfl

/-- The listed tokens are removed in one call, and no other; one that was recorded since the listing
stays. -/
theorem step_removing (token : String) (keys : List String) (vault : Vault) :
    (program sessions user (removing token keys)).step .zero .answers vault
      = some (program sessions user (recording token),
          { vault with store := (vault.store.del vault.now keys).2 }) := rfl

/-- The new token is recorded at last, with the lifetime of tokens. -/
theorem step_recording (token : String) (vault : Vault) :
    (program sessions user (recording token)).step .zero .answers vault
      = some (program sessions user (finished token),
          { vault with
            store := vault.store.set vault.now (recordKey user token) token
              (some sessions.issuer.maxAge) }) := rfl

/-- What shows of a login from outside is the point that it has reached, and an answer shows that it
is past all calls. -/
theorem observed (login : Login) :
    isReplacing (login.program sessions user) = login.isBetween ∧
      ((login.program sessions user).value?.isSome = true → login.hasListed = true ∧
        ∀ token keys, login ≠ removing token keys) := by
  cases login with
  | starting => exact ⟨rfl, nofun⟩
  | listing token => exact ⟨rfl, nofun⟩
  | removing token keys => exact ⟨rfl, nofun⟩
  | recording token => exact ⟨rfl, nofun⟩
  | finished token => exact ⟨rfl, fun _ => ⟨rfl, nofun⟩⟩

/-- The programs that are between list and record are the logins that are, so the overlap can be
counted on either. -/
theorem countP_isReplacing (logins : List Login) :
    (logins.map (program sessions user)).countP isReplacing = logins.countP isBetween := by
  rw [List.countP_map]
  refine List.countP_congr fun login _ => ?_
  rw [Function.comp, (login.observed sessions user).1]

end Login

/-! ### Logins at the same time -/

/-- Logins that are made at the same time. -/
def atOnce (vault : Vault) (identities : List Identity) : Pool (Outcome IssuedToken) :=
  ⟨vault, identities.map fun identity => ExceptT.run (sessions.issueTo identity)⟩

/-- A login is about to remove the record of the token: it has listed the key and not removed it
yet. -/
def IsDoomed (logins : List Login) (token : String) : Prop :=
  ∃ own keys, .removing own keys ∈ logins ∧ recordKey user token ∈ keys

/-- A pool of logins of one user, each at the point that is listed for it. Once one of them has
listed the tokens of the user, those on record that no login is about to remove, and those that
logins have yet to record, are at most as many as the bound says. -/
structure Replacing (bound : Nat) (logins : List Login) (pool : Pool (Outcome IssuedToken)) :
    Prop where
  programs : pool.programs = logins.map (Login.program sessions user)
  nonempty : logins ≠ []
  counted : (∃ login ∈ logins, login.hasListed = true) → ∃ fresh : List String,
    fresh.length + logins.countP Login.isBetween ≤ bound ∧
    ∀ token, (pool.vault.store.live? pool.vault.now (recordKey user token)).isSome = true →
      token ∈ fresh ∨ IsDoomed user logins token

variable {sessions} {user}

/-- A token has one key for its user, so two tokens never share a record. -/
theorem recordKey_right_injective {token token' : String}
    (h : recordKey user token = recordKey user token') : token = token' :=
  (String.append_right_inj _).mp h

/-- The logins that are about to remove a token are this one or others, so a step of one login needs
to look at that one only. -/
theorem isDoomed_place {before after : List Login} {login : Login} {token : String} :
    IsDoomed user (before ++ login :: after) token
      ↔ IsDoomed user [login] token ∨ IsDoomed user (before ++ after) token := by
  simp only [IsDoomed, List.mem_append, List.mem_cons, List.not_mem_nil, or_false]
  constructor
  · rintro ⟨own, keys, hmem | heq | hmem, hkey⟩
    · exact Or.inr ⟨own, keys, Or.inl hmem, hkey⟩
    · exact Or.inl ⟨own, keys, heq, hkey⟩
    · exact Or.inr ⟨own, keys, Or.inr hmem, hkey⟩
  · rintro (⟨own, keys, heq, hkey⟩ | ⟨own, keys, hmem | hmem, hkey⟩)
    · exact ⟨own, keys, Or.inr (Or.inl heq), hkey⟩
    · exact ⟨own, keys, Or.inl hmem, hkey⟩
    · exact ⟨own, keys, Or.inr (Or.inr hmem), hkey⟩

/-- No login that is at another point is about to remove a token: only the call that removes has a
list of keys. -/
theorem not_isDoomed_singleton {login : Login} {token : String}
    (h : ∀ own keys, login ≠ .removing own keys) : ¬ IsDoomed user [login] token := by
  rintro ⟨own, keys, hmem, -⟩
  exact h own keys (List.mem_singleton.mp hmem).symm

namespace Replacing

variable {bound : Nat} {logins before after : List Login} {pool : Pool (Outcome IssuedToken)}

/-- A step that takes one login from a point to another, after the tokens were listed or without a
list. The tokens that it adds make up for those that it had yet to record, so the count does not
grow. -/
theorem move {login login' : Login} {store : CredentialStore}
    (h : sessions.Replacing user bound (before ++ login :: after) pool) (added : List String)
    (hlisted : login'.hasListed = true → login.hasListed = true)
    (hadded : added.length + (if login'.isBetween then 1 else 0)
      ≤ if login.isBetween then 1 else 0)
    (hlive : ∀ token, (store.live? pool.vault.now (recordKey user token)).isSome = true →
      token ∈ added ∨ ¬ IsDoomed user [login] token ∧
        (pool.vault.store.live? pool.vault.now (recordKey user token)).isSome = true) :
    sessions.Replacing user bound (before ++ login' :: after)
      ⟨{ pool.vault with store }, before.map (Login.program sessions user) ++
        login'.program sessions user :: after.map (Login.program sessions user)⟩ where
  programs := by rw [List.map_append, List.map_cons]
  nonempty := by simp
  counted := by
    rintro ⟨other, hother, hotherListed⟩
    -- one that has listed now had listed before
    have hbefore : ∃ other ∈ before ++ login :: after, other.hasListed = true := by
      rcases List.mem_append.mp hother with hmem | hmem
      · exact ⟨other, List.mem_append_left _ hmem, hotherListed⟩
      rcases List.mem_cons.mp hmem with rfl | hmem
      · exact ⟨login, List.mem_append_right _ List.mem_cons_self, hlisted hotherListed⟩
      · exact ⟨other, List.mem_append_right _ (List.mem_cons_of_mem _ hmem), hotherListed⟩
    obtain ⟨fresh, hcount, hfresh⟩ := h.counted hbefore
    refine ⟨added ++ fresh, ?_, fun token htoken => ?_⟩
    · rw [Pool.countP_place] at hcount ⊢
      rw [List.length_append]
      omega
    · rcases hlive token htoken with hmem | ⟨hspared, htoken⟩
      · exact Or.inl (List.mem_append_left _ hmem)
      rcases hfresh token htoken with hmem | hdoomed
      · exact Or.inl (List.mem_append_right _ hmem)
      · have hothers := (isDoomed_place.mp hdoomed).resolve_left hspared
        exact Or.inr (isDoomed_place.mpr (Or.inr hothers))

/-- A list leaves no token that is not about to be removed: this login is about to remove all of
them. From then on only what is recorded later counts. -/
theorem list {vault : Vault} {token : String} {keys : List String}
    (hkeys : ∀ key, key ∈ keys
      ↔ (vault.store.live? vault.now key).isSome = true ∧ IsRecordOf user key)
    {login : Login}
    (hlogin : login = if keys.isEmpty then .recording token else .removing token keys)
    (hoverlap : (before ++ login :: after).countP Login.isBetween ≤ bound) :
    sessions.Replacing user bound (before ++ login :: after)
      ⟨vault, before.map (Login.program sessions user) ++
        login.program sessions user :: after.map (Login.program sessions user)⟩ where
  programs := by rw [List.map_append, List.map_cons]
  nonempty := by simp
  counted := by
    refine fun _ => ⟨[], by simpa using hoverlap, fun other hother => Or.inr ?_⟩
    have hmem : recordKey user other ∈ keys :=
      (hkeys _).mpr ⟨hother, isRecordOf_recordKey user other⟩
    have hsome : ¬ keys.isEmpty = true := by
      rw [List.isEmpty_iff]
      exact List.ne_nil_of_mem hmem
    rw [if_neg hsome] at hlogin
    exact isDoomed_place.mpr (Or.inl ⟨token, keys, List.mem_singleton.mpr hlogin.symm, hmem⟩)

/-- A turn keeps count of the tokens, as long as no more logins overlap than the bound. Its cases
are the points at which the login that goes on may be. -/
theorem turn (hmaxAge : sessions.issuer.maxAge.isZero = false)
    (hsingle : sessions.multipleLogin = false)
    (h : sessions.Replacing user bound logins pool) (next : Turn)
    (hnext : ∀ event, next = .store event → ∀ token, recordKey user token ∉ event.written)
    (hoverlap : (pool.turn next).programs.countP isReplacing ≤ bound) :
    ∃ logins', sessions.Replacing user bound logins' (pool.turn next) := by
  cases next with
  | store event =>
    refine ⟨logins, h.programs, h.nonempty, fun hlisted => ?_⟩
    obtain ⟨fresh, hcount, hfresh⟩ := h.counted hlisted
    refine ⟨fresh, hcount, fun token htoken => hfresh token ?_⟩
    -- a record that is left was there before
    have hle := StoreEvent.now_le_effect pool.vault event
    have hsame := StoreEvent.live?_effect pool.vault event (hnext event rfl token)
    have hlater : (pool.vault.store.live? (event.effect pool.vault).now
        (recordKey user token)).isSome = true := hsame ▸ htoken
    rw [CredentialStore.live?_later _ hle] at hlater
    exact Option.isSome_of_isSome_bind hlater
  | program place =>
    rcases pool.turn_program place with
      hsame | ⟨before, program, after, program', vault, hprograms, hstep, -, hturn⟩
    · rw [hsame]
      exact ⟨logins, h⟩
    rw [hturn] at hoverlap ⊢
    -- the program that goes on is that of a login at some point, between the others
    obtain ⟨before, rest, rfl, rfl, hrest⟩ :=
      List.map_eq_append_iff.mp (h.programs.symm.trans hprograms)
    obtain ⟨login, after, rfl, rfl, rfl⟩ := List.map_eq_cons_iff.mp hrest
    cases login with
    | starting =>
      cases hstep.symm.trans (Login.step_starting sessions user hmaxAge hsingle pool.vault)
      exact ⟨_, h.move [] nofun (Nat.le_refl _) fun token htoken =>
        Or.inr ⟨not_isDoomed_singleton nofun, htoken⟩⟩
    | listing token =>
      obtain ⟨keys, hkeys, hlist⟩ := Login.step_listing sessions user token pool.vault
      cases hstep.symm.trans hlist
      rw [← List.map_cons, ← List.map_append, Login.countP_isReplacing] at hoverlap
      exact ⟨_, list hkeys rfl hoverlap⟩
    | removing token keys =>
      cases hstep.symm.trans (Login.step_removing sessions user token keys pool.vault)
      refine ⟨_, h.move [] (fun _ => rfl) (Nat.le_refl _) fun other hother => Or.inr ?_⟩
      rw [CredentialStore.live?_del] at hother
      split at hother
      · cases hother
      · rename_i hkey
        refine ⟨?_, hother⟩
        rintro ⟨own, removed, hmem, hremoved⟩
        cases List.mem_singleton.mp hmem
        exact hkey hremoved
    | recording token =>
      cases hstep.symm.trans (Login.step_recording sessions user token pool.vault)
      refine ⟨_, h.move [token] (fun _ => rfl) (Nat.le_refl _) fun other hother => ?_⟩
      rw [CredentialStore.live?_set] at hother
      split at hother
      · rename_i hkey
        exact Or.inl (List.mem_singleton.mpr (recordKey_right_injective hkey))
      · exact Or.inr ⟨not_isDoomed_singleton nofun, hother⟩
    | finished token => cases hstep

end Replacing

/-! ### Logins that overlap -/

/-- Two logins, the second a while after the first, that both list the tokens of their user before
the first of them records its own. -/
def overlapping (elapsed : Nat) : List Turn :=
  [.program 0, .store (.pass elapsed), .program 1, .program 0, .program 1, .program 0, .program 1]

/-- Where there is no token to list, a login goes on to record its own, and the vault stays as it
is. -/
theorem Login.step_listing_of_none (token : String) {vault : Vault}
    (hnone : ∀ key, IsRecordOf user key → vault.store.live? vault.now key = none) :
    (Login.program sessions user (.listing token)).step .zero .answers vault
      = some (Login.program sessions user (.recording token), vault) := by
  obtain ⟨keys, hkeys, hstep⟩ := Login.step_listing sessions user token vault
  have hempty : keys = [] := by
    refine List.eq_nil_iff_forall_not_mem.mpr fun key hmem => ?_
    obtain ⟨hlive, hrecord⟩ := (hkeys key).mp hmem
    rw [hnone key hrecord] at hlive
    cases hlive
  rw [hstep, hempty]
  rfl

/-- Both logins are over then, and have put their tokens on record. The second listed before the
first had recorded, so neither removes what the other wrote. -/
theorem run_overlapping (hmaxAge : sessions.issuer.maxAge.isZero = false)
    (hsingle : sessions.multipleLogin = false) (user : String) (start : Vault) (elapsed : Nat)
    (hnone : ∀ key, IsRecordOf user key → start.store.live? start.now key = none) :
    let now := start.now + elapsed
    let first := sessions.issuer.issue user (secondsOf start.now)
    let second := sessions.issuer.issue user (secondsOf now)
    (sessions.atOnce start [.named user, .named user]).run (overlapping elapsed)
      = ⟨⟨(start.store.set now (recordKey user first) first (some sessions.issuer.maxAge)).set now
            (recordKey user second) second (some sessions.issuer.maxAge), now⟩,
          [.finished first, .finished second].map (Login.program sessions user)⟩ := by
  intro now first second
  have hlater : ∀ key, IsRecordOf user key → start.store.live? now key = none := by
    intro key hrecord
    rw [CredentialStore.live?_later _ (Nat.le_add_right _ _), hnone key hrecord]
    rfl
  -- the pool after each of the turns, by the points that the two logins have reached
  let stage := fun (vault : Vault) (login login' : Login) =>
    Pool.mk vault ([login, login'].map (Login.program sessions user))
  let recorded := start.store.set now (recordKey user first) first (some sessions.issuer.maxAge)
  let replaced := recorded.set now (recordKey user second) second (some sessions.issuer.maxAge)
  have hfirst : (stage start .starting .starting).turn (.program 0)
      = stage start (.listing first) .starting :=
    Pool.turn_of_step rfl (Login.step_starting sessions user hmaxAge hsingle start)
  have hpass : (stage start (.listing first) .starting).turn (.store (.pass elapsed))
      = stage { start with now } (.listing first) .starting := rfl
  have hsecond : (stage { start with now } (.listing first) .starting).turn (.program 1)
      = stage { start with now } (.listing first) (.listing second) :=
    Pool.turn_of_step rfl (Login.step_starting sessions user hmaxAge hsingle { start with now })
  have hlistFirst : (stage { start with now } (.listing first) (.listing second)).turn (.program 0)
      = stage { start with now } (.recording first) (.listing second) :=
    Pool.turn_of_step rfl (Login.step_listing_of_none first hlater)
  have hlistSecond :
      (stage { start with now } (.recording first) (.listing second)).turn (.program 1)
        = stage { start with now } (.recording first) (.recording second) :=
    Pool.turn_of_step rfl (Login.step_listing_of_none second hlater)
  have hrecordFirst :
      (stage { start with now } (.recording first) (.recording second)).turn (.program 0)
        = stage ⟨recorded, now⟩ (.finished first) (.recording second) :=
    Pool.turn_of_step rfl (Login.step_recording sessions user first _)
  have hrecordSecond :
      (stage ⟨recorded, now⟩ (.finished first) (.recording second)).turn (.program 1)
        = stage ⟨replaced, now⟩ (.finished first) (.finished second) :=
    Pool.turn_of_step rfl (Login.step_recording sessions user second _)
  show (stage start .starting .starting).run (overlapping elapsed) = _
  rw [Pool.run, overlapping, List.foldl_cons, hfirst, List.foldl_cons, hpass, List.foldl_cons,
    hsecond, List.foldl_cons, hlistFirst, List.foldl_cons, hlistSecond, List.foldl_cons,
    hrecordFirst, List.foldl_cons, hrecordSecond, List.foldl_nil]

/-- So both logins are over after these turns, and have an answer. -/
theorem value?_overlapping (hmaxAge : sessions.issuer.maxAge.isZero = false)
    (hsingle : sessions.multipleLogin = false) (user : String) (start : Vault) (elapsed : Nat)
    (hnone : ∀ key, IsRecordOf user key → start.store.live? start.now key = none) :
    ∀ program ∈ ((sessions.atOnce start [.named user, .named user]).run
      (overlapping elapsed)).programs, program.value?.isSome = true := by
  rw [run_overlapping hmaxAge hsingle user start elapsed hnone]
  intro program hmem
  obtain ⟨login, hlogin, rfl⟩ := List.mem_map.mp hmem
  rcases List.mem_pair.mp hlogin with rfl | rfl
  · rfl
  · rfl

/-- Both tokens are accepted afterwards, if the second login came within the lifetime of the first
token. They are two unless the clock shows the same second. -/
theorem verify_overlapping (hmaxAge : sessions.issuer.maxAge.isZero = false)
    (hsingle : sessions.multipleLogin = false) (user : String) (start : Vault) {elapsed : Nat}
    (helapsed : elapsed < sessions.issuer.maxAge.millis)
    (hclock : secondsOf (start.now + elapsed) + sessions.issuer.maxAge.seconds
      ≤ Text.Numeral.maxWord)
    (hnone : ∀ key, IsRecordOf user key → start.store.live? start.now key = none)
    {seconds : Nat}
    (hseconds : seconds = secondsOf start.now ∨ seconds = secondsOf (start.now + elapsed)) :
    (Work.answered (sessions.verify (sessions.issuer.issue user seconds))
      ((sessions.atOnce start [.named user, .named user]).run (overlapping elapsed)).vault).1
      = .ok (.named user) := by
  let now := start.now + elapsed
  have hpos : 0 < sessions.issuer.maxAge.millis := Nat.lt_of_le_of_lt (Nat.zero_le _) helapsed
  have hlasting : ∀ value, (Entry.lasting? ⟨value, CredentialStore.deadlineOf now
      (some sessions.issuer.maxAge)⟩ now).isSome = true := by
    intro value
    rw [CredentialStore.deadlineOf, Option.filter_some, hmaxAge, Entry.lasting?_eq, if_pos]
    · rfl
    · rintro d ⟨⟩
      exact Nat.lt_add_of_pos_right hpos
  rw [run_overlapping hmaxAge hsingle user start elapsed hnone]
  rcases hseconds with rfl | rfl
  · refine (verify_answered_eq_ok_iff hmaxAge).mpr ⟨_, issuer_verify_issue user
      (Nat.le_add_right _ _) (Nat.add_lt_add_left helapsed _) hclock, ?_, rfl⟩
    show (CredentialStore.live? _ now (recordKey user _)).isSome = true
    rw [CredentialStore.live?_set, CredentialStore.live?_set, if_pos rfl]
    split
    · exact hlasting _
    · exact hlasting _
  · refine (verify_answered_eq_ok_iff hmaxAge).mpr ⟨_, issuer_verify_issue user
      (Nat.le_refl _) (Nat.lt_add_of_pos_right hpos) hclock, ?_, rfl⟩
    show (CredentialStore.live? _ now (recordKey user _)).isSome = true
    rw [CredentialStore.live?_set, if_pos rfl]
    exact hlasting _

/-! ### How many tokens are left -/

/-- Where a user may be logged in only once, logins of one user that are made at the same time leave
a number of tokens that depends on how many of them are between listing and recording at once: with
at most `bound` such logins at any moment, at most `bound` tokens of the user are accepted when all
are over. -/
theorem verified_length_le_of_overlap_le (sessions : Sessions)
    (hmaxAge : sessions.issuer.maxAge.isZero = false) (hsingle : sessions.multipleLogin = false)
    (user : String) (identities : List Identity) (hsome : identities ≠ [])
    (hidentities : ∀ identity ∈ identities, identity.name = user) (start : Vault)
    (turns : List Turn)
    (hturns : ∀ event, .store event ∈ turns → ∀ token, recordKey user token ∉ event.written)
    (bound : Nat)
    (hoverlap : ∀ moment ∈ (sessions.atOnce start identities).moments turns,
      moment.programs.countP isReplacing ≤ bound)
    (hover : ∀ program ∈ ((sessions.atOnce start identities).run turns).programs,
      program.value?.isSome = true) (tokens : List String) (hnodup : tokens.Nodup)
    (hverified : ∀ token ∈ tokens, (Work.answered (sessions.verify token)
      ((sessions.atOnce start identities).run turns).vault).1 = .ok (.named user)) :
    tokens.length ≤ bound := by
  let replacing := fun pool => ∃ logins, sessions.Replacing user bound logins pool
  have hstart : replacing (sessions.atOnce start identities) := by
    refine ⟨identities.map fun _ => .starting, ?_, by simpa using hsome, ?_⟩
    · rw [atOnce, List.map_map]
      refine List.map_congr_left fun identity hmem => ?_
      rw [← hidentities identity hmem]
      rfl
    · rintro ⟨login, hlogin, hlisted⟩
      obtain ⟨identity, -, rfl⟩ := List.mem_map.mp hlogin
      cases hlisted
  obtain ⟨logins, h⟩ : replacing ((sessions.atOnce start identities).run turns) := by
    refine Pool.run_induction hoverlap hstart ?_
    rintro pool next hnext ⟨logins, h⟩ hmoment
    exact h.turn hmaxAge hsingle next (fun event heq => hturns event (heq ▸ hnext)) hmoment
  have hpoints : ∀ login ∈ logins, login.hasListed = true ∧
      ∀ token keys, login ≠ .removing token keys := by
    intro login hmem
    refine (login.observed sessions user).2 (hover _ ?_)
    rw [h.programs]
    exact List.mem_map_of_mem hmem
  -- a login that is over has listed, so the tokens have been counted since
  obtain ⟨login, hlogin⟩ := List.exists_mem_of_ne_nil _ h.nonempty
  obtain ⟨fresh, hcount, hfresh⟩ := h.counted ⟨login, hlogin, (hpoints login hlogin).1⟩
  -- an accepted token is on record, and no login is left that would remove it
  have hsubset : tokens ⊆ fresh := by
    intro token hmem
    obtain ⟨claims, -, hlive, hname⟩ :=
      (verify_answered_eq_ok_iff hmaxAge).mp (hverified token hmem)
    obtain rfl : user = claims.subject := congrArg Identity.name hname
    refine (hfresh token hlive).resolve_right ?_
    rintro ⟨own, keys, hremoving, -⟩
    exact (hpoints _ hremoving).2 own keys rfl
  exact Nat.le_trans (List.subperm_of_subset hnodup hsubset).length_le
    (Nat.le_trans (Nat.le_add_right _ _) hcount)

/-- Two logins of alice, a second after one another, of which each lists the tokens of alice before
the other one records its own: two tokens are accepted when both are over. -/
theorem verified_twice_alice :
    let sessions : Sessions := ⟨⟨"kubesphere", .ofSeconds 60, "secret"⟩, false⟩
    let final :=
      (sessions.atOnce ⟨.empty, 0⟩ [.named "alice", .named "alice"]).run (overlapping 1000)
    let token := sessions.issuer.issue "alice" 0
    let token' := sessions.issuer.issue "alice" 1
    (∀ program ∈ final.programs, program.value?.isSome = true) ∧ token ≠ token' ∧
    (Work.answered (sessions.verify token) final.vault).1 = .ok (.named "alice") ∧
    (Work.answered (sessions.verify token') final.vault).1 = .ok (.named "alice") := by
  intro sessions final token token'
  have hmaxAge : sessions.issuer.maxAge.isZero = false := rfl
  have hsingle : sessions.multipleLogin = false := rfl
  have helapsed : 1000 < sessions.issuer.maxAge.millis := by decide
  have hclock : secondsOf (0 + 1000) + sessions.issuer.maxAge.seconds ≤ Text.Numeral.maxWord := by
    decide
  have hnone : ∀ key, IsRecordOf "alice" key →
      (CredentialStore.empty).live? 0 key = none := fun _ _ => rfl
  refine ⟨value?_overlapping hmaxAge hsingle "alice" ⟨.empty, 0⟩ 1000 hnone, fun heq => ?_, ?_, ?_⟩
  · exact absurd (TokenIssuer.issue_injective heq).2 (by decide)
  · exact verify_overlapping hmaxAge hsingle "alice" ⟨.empty, 0⟩ helapsed hclock hnone (Or.inl rfl)
  · exact verify_overlapping hmaxAge hsingle "alice" ⟨.empty, 0⟩ helapsed hclock hnone (Or.inr rfl)

/-- The two logins of alice overlap, and leave no more than two tokens. Both of them are accepted,
so the bound is reached. -/
theorem verified_length_le_of_overlap_le_alice :
    let sessions : Sessions := ⟨⟨"kubesphere", .ofSeconds 60, "secret"⟩, false⟩
    let pool := sessions.atOnce ⟨.empty, 0⟩ [.named "alice", .named "alice"]
    let final := pool.run (overlapping 1000)
    let tokens := [sessions.issuer.issue "alice" 0, sessions.issuer.issue "alice" 1]
    (∀ moment ∈ pool.moments (overlapping 1000), moment.programs.countP isReplacing ≤ 2) ∧
    (∀ program ∈ final.programs, program.value?.isSome = true) ∧ tokens.Nodup ∧
    (∀ token ∈ tokens,
      (Work.answered (sessions.verify token) final.vault).1 = .ok (.named "alice")) ∧
    tokens.length ≤ 2 := by
  intro sessions pool final tokens
  have hmaxAge : sessions.issuer.maxAge.isZero = false := rfl
  have hsingle : sessions.multipleLogin = false := rfl
  have hnone : ∀ key, IsRecordOf "alice" key →
      (CredentialStore.empty).live? 0 key = none := fun _ _ => rfl
  have hoverlap : ∀ moment ∈ pool.moments (overlapping 1000),
      moment.programs.countP isReplacing ≤ 2 := by
    decide +kernel
  have hover := value?_overlapping hmaxAge hsingle "alice" ⟨.empty, 0⟩ 1000 hnone
  have hnodup : tokens.Nodup := by
    refine List.nodup_cons.mpr ⟨fun hmem => ?_, by simp⟩
    exact absurd (TokenIssuer.issue_injective (List.mem_singleton.mp hmem)).2 (by decide)
  have hverified : ∀ token ∈ tokens,
      (Work.answered (sessions.verify token) final.vault).1 = .ok (.named "alice") := by
    intro token hmem
    rcases List.mem_pair.mp hmem with rfl | rfl
    · exact verify_overlapping hmaxAge hsingle "alice" ⟨.empty, 0⟩ (by decide) (by decide) hnone
        (Or.inl rfl)
    · exact verify_overlapping hmaxAge hsingle "alice" ⟨.empty, 0⟩ (by decide) (by decide) hnone
        (Or.inr rfl)
  have hturns : ∀ event, .store event ∈ overlapping 1000 →
      ∀ token, recordKey "alice" token ∉ event.written := by
    intro event hmem token
    simp only [overlapping, List.mem_cons, Turn.store.injEq, reduceCtorEq, false_or, or_false,
      List.not_mem_nil] at hmem
    rw [hmem]
    exact List.not_mem_nil
  exact ⟨hoverlap, hover, hnodup, hverified,
    verified_length_le_of_overlap_le sessions hmaxAge hsingle "alice"
      [.named "alice", .named "alice"] (List.cons_ne_nil _ _) (by simp [Identity.named])
      ⟨.empty, 0⟩ (overlapping 1000) hturns 2 hoverlap hover tokens hnodup hverified⟩

end Sessions

end AccessGateway
