import AccessGateway.Proofs.Login.Parts

/-!
# `AccessGateway.Proofs.Login.Outage`: what a login leaves behind when the store fails

A login makes up to three calls to the credential store, and ends with the first that fails. What
it has written by then stays, and what it would have written does not come. For the counter of its
account that makes four outcomes, which `PasswordLogin.Effect` lists; the counters of all other
accounts are left alone.

* `PasswordLogin.spares_authenticate`: a login writes no counter but that of the account it is aimed
  at.
* `PasswordLogin.effect_authenticate`: what it does to that one, however its calls are treated.

The outcome that matters is `Effect.unended`: the first mismatch was counted, and the call failed
that was to set the deadline. It is the only one after which a counter has no deadline, and
`Proofs.Login.Expiry` follows it through a run. Unlike `Proofs.Login.Verdict`, which takes the store
as it comes, the results here are about counters that logins have written.
-/

set_option autoImplicit false

namespace AccessGateway

open Time (Duration)

namespace PasswordLogin

variable {login : PasswordLogin} {account name password : String}

/-! ### Logins to other accounts -/

/-- Accounts do not share a counter: the key ends in the name of the account, and all keys begin
alike. -/
theorem counterKey_injective {account other : String}
    (h : counterKey account = counterKey other) : account = other :=
  (String.append_right_inj _).mp h

section
variable {key : String}

/-- The look at the counter writes no key at all. -/
theorem spares_isLockedOut : (login.isLockedOut account).Spares key := by
  rw [isLockedOut]
  split
  · trivial
  · refine Work.Spares.bind ⟨List.not_mem_nil, fun _ => trivial⟩ fun _ => trivial

/-- Counting a mismatch writes no key but the counter of the account, whichever of its calls
fails. -/
theorem spares_recordFailure (hkey : key ≠ counterKey account) :
    (login.recordFailure account).Spares key := by
  have hother : key ∉ [counterKey account] := fun h => hkey (List.mem_singleton.mp h)
  rw [recordFailure]
  split
  · trivial
  · refine Work.Spares.bind ⟨hother, fun _ => trivial⟩ fun count => ?_
    split
    · exact Work.Spares.bind ⟨hother, fun _ => trivial⟩ fun _ => trivial
    · trivial

/-- Forgetting the mismatches writes no key but the counter of the account, and that only by
removing it. -/
theorem spares_clearFailures (hkey : key ≠ counterKey account) :
    (login.clearFailures account).Spares key := by
  have hother : key ∉ [counterKey account] := fun h => hkey (List.mem_singleton.mp h)
  rw [clearFailures]
  split
  · trivial
  · exact Work.Spares.bind ⟨hother, fun _ => trivial⟩ fun _ => trivial

end

/-- A login leaves alone the counters of all accounts but the one that it is aimed at, whatever its
calls are answered. -/
theorem spares_authenticate (haim : login.isAimedAt account name password = false) :
    (login.authenticate name password).Spares (counterKey account) := by
  by_cases hactive : ∃ user, (name ≠ "" ∧ password ≠ "") ∧ login.find? name = some user ∧
      user.state = some .active
  case neg =>
    obtain ⟨fault, hlogin⟩ := authenticate_of_not_active hactive
    rw [hlogin]
    trivial
  obtain ⟨user, ⟨hname, hpassword⟩, hfind, hstate⟩ := hactive
  rw [authenticate_of_find? hname hpassword hfind hstate]
  refine Work.Spares.bind spares_isLockedOut fun locked => ?_
  cases locked with
  | true => split <;> trivial
  | false =>
    by_cases hhash : user.passwordHash = ""
    · rw [if_pos hhash]
      trivial
    -- only now something is written, and it is the counter of the account that was found
    have hother : counterKey account ≠ counterKey user.metadata.name := by
      intro hkey
      have hsame := counterKey_injective hkey
      simp [isAimedAt, hname, hpassword, hfind, hstate, hhash, hsame] at haim
    simp only [if_neg hhash, Bool.false_eq_true, if_false]
    split
    · exact (spares_clearFailures hother).bind fun _ => trivial
    · exact (spares_recordFailure hother).bind fun _ => trivial

/-! ### Logins to the account -/

variable (login account)

/-- What a login that is aimed at an account does to its counter, which stands at a count with a
deadline, and how it is answered. The password is wrong or not, and that together with the treatment
of the calls decides which outcomes there can be. -/
inductive Effect (wrong : Bool) (treatment : StoreCall → Treatment) (vault : Vault) (count : Nat)
    (deadline : Option Instant) : Outcome Identity × Vault → Prop where
  /-- A call failed before anything was written, or the account is locked out. -/
  | kept {answer : Outcome Identity} {vault' : Vault}
      (reason : (answer = .error .rateLimitExceeded ∧ login.maxTries ≤ count) ∨
        ((∃ reason, answer = .error (.backend reason)) ∧
          ¬ (wrong = true ∧ treatment (.get (counterKey account)) = .answers ∧
            treatment (.incr (counterKey account)) = .answers)))
      (now : vault.now ≤ vault'.now)
      (live : ∀ later, vault'.now ≤ later → vault'.store.live? later (counterKey account)
        = vault.store.live? later (counterKey account)) :
      Effect wrong treatment vault count deadline (answer, vault')
  /-- The password matches, and the counter is removed. -/
  | cleared {identity : Identity} {store : CredentialStore}
      (live : store.live? vault.now (counterKey account) = none) :
      Effect wrong treatment vault count deadline (.ok identity, { vault with store })
  /-- The password does not match. The first mismatch sets the deadline. -/
  | counted {store : CredentialStore} (mismatch : wrong = true) (few : count < login.maxTries)
      (live : ∀ later, vault.now ≤ later → store.live? later (counterKey account)
        = Entry.lasting? ⟨Text.natText (count + 1),
            if count = 0 then some (vault.now + login.lockoutWindow.millis) else deadline⟩ later) :
      Effect wrong treatment vault count deadline
        (.error .incorrectCredential, { vault with store })
  /-- The password does not match, and after the first mismatch was counted the call failed that
  was to set the deadline. -/
  | unended {reason : String} {store : CredentialStore} {now : Instant} (mismatch : wrong = true)
      (first : count = 0) (now_le : vault.now ≤ now)
      (calls : treatment (.get (counterKey account)) = .answers ∧
        treatment (.incr (counterKey account)) = .answers ∧
        treatment (.expire (counterKey account) login.lockoutWindow) ≠ .answers)
      (live : ∀ later, now ≤ later → store.live? later (counterKey account)
        = Entry.lasting? ⟨Text.natText 1, none⟩ later) :
      Effect wrong treatment vault count deadline (.error (.backend reason), ⟨store, now⟩)

variable {login account} {timeout : Duration} {treatment : StoreCall → Treatment} {vault : Vault}
  {count : Nat} {deadline : Option Instant}

/-- Forgetting the mismatches, after the look at the counter: the counter is removed, or the call
failed and it is kept. -/
theorem effect_clearFailures (htries : login.maxTries ≠ 0) {identity : Identity}
    {seen : CredentialStore}
    (hseen : Vault.Shows { vault with store := seen } vault.store.live?) :
    login.Effect account false treatment vault count deadline
      (Work.runOn timeout treatment (do
        login.clearFailures account
        return identity) { vault with store := seen }) := by
  obtain ⟨-, store, hclear, hafter⟩ | ⟨-, reason, now, hnow, hclear⟩ :=
    login.runOn_clearFailures hseen timeout treatment account
  · rw [Work.runOn_bind_of_ok _ _ _ _ hclear]
    exact .cleared ((hafter _ (Nat.le_refl _) _).trans (if_pos ⟨htries, rfl⟩))
  · -- the counter stays, and the login fails although the password matches
    rw [Work.runOn_bind_of_error _ _ _ _ hclear]
    exact .kept (Or.inr ⟨⟨reason, rfl⟩, fun h => nomatch h.1⟩) hnow fun later hlater =>
      hseen later (Nat.le_trans hnow hlater) _

/-- The first mismatch is the one that finds a counter at zero. -/
theorem addSigned_eq_one_iff (hle : count ≤ Text.Numeral.maxHalfWord) :
    Text.Numeral.addSigned count 1 = 1 ↔ count = 0 := by
  rw [Text.Numeral.addSigned_natCast_one (Nat.lt_of_le_of_lt hle (by decide))]
  omega

/-- The counter after one more mismatch, where the settings have a window and the count is one that
a login may have written. -/
theorem countedOn_eq (hzero : login.lockoutWindow.isZero = false)
    (hle : count ≤ Text.Numeral.maxHalfWord)
    (hentry : counterIn vault account = ⟨Text.natText count, deadline⟩) :
    login.countedOn treatment vault account count
      = ⟨Text.natText (count + 1),
          if count = 0 ∧
              treatment (.expire (counterKey account) login.lockoutWindow) = .answers then
            some (vault.now + login.lockoutWindow.millis)
          else deadline⟩ := by
  rw [countedOn, hentry]
  simp only [addSigned_eq_one_iff hle, hzero, true_and]
  rw [Text.Numeral.addSigned_natCast_one (Nat.lt_of_le_of_lt hle (by decide))]
  rfl

section
variable (htries : login.maxTries ≠ 0) (hzero : login.lockoutWindow.isZero = false)
  (hlive : vault.store.live? vault.now (counterKey account) = counterOf count deadline)
  (hle : count ≤ Text.Numeral.maxHalfWord) (hnew : count = 0 → deadline = none)
include htries hzero hlive hle hnew

/-- Counting a mismatch of an account that is not locked out, after the look at the counter. Which
of three outcomes it has depends on the two calls that it makes. -/
theorem effect_recordFailure (hfew : count < login.maxTries)
    (hget : treatment (.get (counterKey account)) = .answers) {seen : CredentialStore}
    (hseen : Vault.Shows { vault with store := seen } vault.store.live?) :
    login.Effect account true treatment vault count deadline
      (Work.runOn timeout treatment (do
        login.recordFailure account
        throw .incorrectCredential) { vault with store := seen }) := by
  -- the calls in their order: the count may fail, and after a first mismatch the deadline may
  by_cases hincr : treatment (.incr (counterKey account)) = .answers
  case neg =>
    obtain ⟨reason, now, hnow, hrecord⟩ :=
      isOutage_recordFailure timeout { vault with store := seen } htries hincr
    rw [Work.runOn_bind_of_error _ _ _ _ hrecord]
    exact .kept (Or.inr ⟨⟨reason, rfl⟩, fun h => hincr h.2.2⟩) hnow fun later hlater =>
      hseen later (Nat.le_trans hnow hlater) _
  have hentry : counterIn vault account = ⟨Text.natText count, deadline⟩ := by
    rw [counterIn, hlive, getD_counterOf hnew]
  have hcounts : login.CountsOn treatment vault account count :=
    ⟨htries, hincr, hentry ▸ Text.readInt_natText (Nat.le_trans hle (by decide))⟩
  obtain ⟨store, hshows, ⟨hwindow, hrecord⟩ | ⟨hmissed, reason, now, hnow, hrecord⟩⟩ :=
    runOn_recordFailure_of_countsOn hseen timeout hcounts
  · -- the first mismatch set the deadline, and a further one left it as it is
    rw [Work.runOn_bind_of_ok _ _ _ _ hrecord]
    refine .counted rfl hfew fun later hlater => ?_
    refine (hshows later hlater _).trans ((if_pos rfl).trans ?_)
    have hset : (count = 0 ∧
        treatment (.expire (counterKey account) login.lockoutWindow) = .answers) ↔ count = 0 :=
      and_iff_left_of_imp fun hfirst => Decidable.not_not.mp fun hexpire =>
        hwindow ⟨(addSigned_eq_one_iff hle).mpr hfirst, hzero, hexpire⟩
    rw [countedOn_eq hzero hle hentry]
    simp only [hset]
  · -- what was counted stays, and no later mismatch finds the count at one again
    have hfirst : count = 0 := (addSigned_eq_one_iff hle).mp hmissed.1
    rw [Work.runOn_bind_of_error _ _ _ _ hrecord]
    refine .unended rfl hfirst hnow ⟨hget, hincr, hmissed.2.2⟩ fun later hlater => ?_
    refine (hshows later (Nat.le_trans hnow hlater) _).trans ((if_pos rfl).trans ?_)
    rw [countedOn_eq hzero hle hentry, if_neg fun h => hmissed.2.2 h.2, hnew hfirst, hfirst]

/-- What a login that is aimed at an account does to its counter, on any store in which that is at
some count, and however the calls of the login are treated. -/
theorem effect_authenticate (haim : login.isAimedAt account name password = true) :
    login.Effect account (login.isWrong name password) treatment vault count deadline
      (Work.runOn timeout treatment (login.authenticate name password) vault) := by
  obtain ⟨identity, hlogin⟩ := authenticate_of_isAimedAt haim
  rw [hlogin]
  obtain ⟨hget, locked, seen, htolerates, hlook, hseen⟩ |
      ⟨⟨-, hget⟩, reason, now, hnow, hlook⟩ :=
    login.runOn_isLockedOut timeout treatment vault account
  case inr =>
    rw [Work.runOn_bind_of_error _ _ _ _ hlook]
    exact .kept (Or.inr ⟨⟨reason, rfl⟩, fun h => hget h.2.1⟩) hnow fun _ _ => rfl
  rw [Tolerates, or_iff_right htries, hlive, countOf_counterOf hle] at htolerates
  rw [Work.runOn_bind_of_ok _ _ _ _ hlook]
  cases locked with
  | true =>
    have hmany : login.maxTries ≤ count := Nat.le_of_not_lt fun hfew =>
      absurd (htolerates.mpr hfew) (by decide)
    exact .kept (Or.inl ⟨rfl, hmany⟩) (Nat.le_refl _) fun later hlater => hseen later hlater _
  | false =>
    cases login.isWrong name password with
    | true =>
      exact effect_recordFailure htries hzero hlive hle hnew (htolerates.mp rfl) (hget htries) hseen
    | false => exact effect_clearFailures htries hseen

end

end PasswordLogin

end AccessGateway
