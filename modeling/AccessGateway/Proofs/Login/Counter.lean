import AccessGateway.Login.Password
import AccessGateway.Proofs.Cluster.Store
import AccessGateway.Proofs.Credential.Store
import AccessGateway.Proofs.Text.Numeral

/-!
# `AccessGateway.Proofs.Login.Counter`: the mismatches of an account as a record

The mismatches of an account are kept as a decimal numeral under a key of the credential store, and
an account without mismatches has no record there. `PasswordLogin.counterOf` is that record for a
number and a deadline; results about lockouts speak of the number, and come back to the record by
the lemmas here.

* `PasswordLogin.countOf_counterOf`: what is written is read back, as long as a half word holds it.
  That much is needed, as the reader takes larger numbers for zero.
* `PasswordLogin.incr_counterOf`: one more mismatch is the next number, with the deadline that was
  there.
* `PasswordLogin.authenticate_of_find?`, `authenticate_of_isAimedAt`: a login that gets as far as a
  counter is a look at it, a comparison, and then a count or a removal.
* `PasswordLogin.authenticate_of_not_active`: any other login asks the store nothing.
-/

set_option autoImplicit false

namespace AccessGateway

instance decidableEqExcept {ε α : Type} [DecidableEq ε] [DecidableEq α] :
    DecidableEq (Except ε α)
  | .ok a, .ok b => decidable_of_iff (a = b) (Except.ok.injEq a b).to_iff.symm
  | .error e, .error f => decidable_of_iff (e = f) (Except.error.injEq e f).to_iff.symm
  | .ok _, .error _ => .isFalse nofun
  | .error _, .ok _ => .isFalse nofun

namespace PasswordLogin

/-- A counter that was written as a number is read as that number. -/
theorem countOf_natText {count : Nat} (hle : count ≤ Text.Numeral.maxHalfWord) :
    countOf (some (Text.natText count)) = count := by
  show (Text.Numeral.readNat Text.Numeral.maxHalfWord
    (Text.natText count).toList).toOption.getD 0 = _
  rw [Text.readNat_natText hle]
  rfl

/-- The record of a number of mismatches, with its deadline. No mismatches are no record. -/
def counterOf (count : Nat) (deadline : Option Instant) : Option Entry :=
  if count = 0 then none else some ⟨Text.natText count, deadline⟩

variable {count : Nat} {deadline : Option Instant}

/-- What was written for some mismatches is read as their number, also where zero is written as no
record. -/
theorem countOf_counterOf (hle : count ≤ Text.Numeral.maxHalfWord) :
    countOf ((counterOf count deadline).map Entry.value) = count := by
  rw [counterOf]
  split
  · rename_i hzero
    rw [hzero]
    rfl
  · exact countOf_natText hle

/-- A counter stays what it is until its deadline, and a missing one stays missing. -/
theorem bind_counterOf_lasting? {now : Instant} (hdeadline : ∀ d ∈ deadline, now < d) :
    ((counterOf count deadline).bind fun entry => entry.lasting? now)
      = counterOf count deadline := by
  rw [counterOf]
  split
  · rfl
  · rw [Option.bind_some, Entry.lasting?_eq, if_pos hdeadline]

/-- Where there is no record, the store counts from an entry written like zero mismatches. -/
theorem getD_counterOf (hnew : count = 0 → deadline = none) :
    (counterOf count deadline).getD CredentialStore.zeroEntry = ⟨Text.natText count, deadline⟩ := by
  rw [counterOf]
  split
  · rename_i hzero
    rw [hnew hzero, hzero, Text.natText_zero]
    rfl
  · rfl

/-- Counting one more mismatch answers with the next number and writes it, under the deadline that
was there. A record that is new has no deadline yet. -/
theorem incr_counterOf {store : CredentialStore} {now : Instant} {key : String}
    (hlive : store.live? now key = counterOf count deadline)
    (hle : count ≤ Text.Numeral.maxHalfWord) (hnew : count = 0 → deadline = none) :
    ∃ counted, store.incr now key = (.ok ((count : Int) + 1), counted) ∧
      ∀ later other, counted.live? later other
        = if other = key then Entry.lasting? ⟨Text.natText (count + 1), deadline⟩ later
          else store.live? later other := by
  have hentry : (store.live? now key).getD CredentialStore.zeroEntry
      = ⟨Text.natText count, deadline⟩ := by
    rw [hlive, getD_counterOf hnew]
  have hread : Text.Numeral.readInt
      ((store.live? now key).getD CredentialStore.zeroEntry).value.toList = .ok (count : Int) := by
    rw [hentry]
    exact Text.readInt_natText (Nat.le_trans hle (by decide))
  obtain ⟨hcount, hafter⟩ := CredentialStore.incr_of_readInt _ _ _ hread
  -- the count is far from the largest signed word
  rw [Text.Numeral.addSigned_natCast_one (Nat.lt_of_le_of_lt hle (by decide))] at hcount hafter
  refine ⟨_, Prod.ext hcount rfl, fun later other => ?_⟩
  rw [hafter, hentry]
  rfl

/-! ### Logins that get as far as a counter -/

variable (login : PasswordLogin) (account : String)

/-- A login gets as far as the counter of an account and, unless that locks it out, to the
comparison with the account's password. It is a test of the login alone, not of what the store
holds. -/
def isAimedAt (name password : String) : Bool :=
  decide (name ≠ "") && decide (password ≠ "") && (login.find? name).any fun user =>
    decide (user.metadata.name = account) && decide (user.state = some .active) &&
      decide (user.passwordHash ≠ "")

/-- The password is not the one of the account that the name stands for. For a name that stands for
no account nothing is said. -/
def isWrong (name password : String) : Bool :=
  (login.find? name).any fun user => !login.matchesHash password user.passwordHash

variable {login account} {name password : String}

/-- A name that is no address stands for the last of the accounts that are called so. -/
theorem find?_ofList_eq_some_iff {users : List User} {user : User}
    (husers : login.users = .ofList users) (hname : isEmail name = false) :
    login.find? name = some user ↔ IsLastOfKey users user ∧
      user.metadata.namespace = "" ∧ user.metadata.name = name := by
  rw [find?, hname, if_neg Bool.false_ne_true, husers]
  exact Store.get?_ofList_eq_some_iff ..

/-- A login to an active account is a look at its counter, a comparison, and then a count or a
removal. All guards before the look have been passed. -/
theorem authenticate_of_find? {user : User} (hname : name ≠ "") (hpassword : password ≠ "")
    (hfind : login.find? name = some user) (hstate : user.state = some .active) :
    login.authenticate name password = (do
      if ← login.isLockedOut user.metadata.name then throw .rateLimitExceeded
      if user.passwordHash = "" then throw .incorrectCredential
      if login.matchesHash password user.passwordHash then
        login.clearFailures user.metadata.name
        return identityOf user
      else
        login.recordFailure user.metadata.name
        throw .incorrectCredential) := by
  have hchecked : checkState user = .ok () := by rw [checkState, hstate]
  rw [authenticate, if_neg (not_or.mpr ⟨hname, hpassword⟩), hfind]
  simp only [hchecked]
  rfl

/-- A login without both inputs, to no account, or to one that is not active, asks the store
nothing. -/
theorem authenticate_of_not_active
    (h : ¬ ∃ user, (name ≠ "" ∧ password ≠ "") ∧ login.find? name = some user ∧
      user.state = some .active) :
    ∃ fault, login.authenticate name password = throw fault := by
  rw [authenticate]
  split
  · exact ⟨_, rfl⟩
  rename_i hgiven
  split
  · exact ⟨_, rfl⟩
  rename_i user hfind
  have hchecked : ∃ fault, checkState user = .error fault := by
    rw [checkState]
    split
    · rename_i hactive
      exact absurd ⟨user, not_or.mp hgiven, hfind, hactive⟩ h
    · exact ⟨_, rfl⟩
    · exact ⟨_, rfl⟩
  obtain ⟨fault, hchecked⟩ := hchecked
  rw [hchecked]
  exact ⟨fault, rfl⟩

/-- A login that is aimed at an account has a hash to compare with, so it is a look, and then a
count or a removal by whether the password is wrong. -/
theorem authenticate_of_isAimedAt (haim : login.isAimedAt account name password = true) :
    ∃ identity, login.authenticate name password = (do
      if ← login.isLockedOut account then throw .rateLimitExceeded
      if login.isWrong name password then
        login.recordFailure account
        throw .incorrectCredential
      else
        login.clearFailures account
        return identity) := by
  rw [isAimedAt, Bool.and_eq_true, Bool.and_eq_true, decide_eq_true_eq, decide_eq_true_eq,
    Option.any_eq_true] at haim
  obtain ⟨⟨hname, hpassword⟩, user, hfind, huser⟩ := haim
  rw [Bool.and_eq_true, Bool.and_eq_true, decide_eq_true_eq, decide_eq_true_eq,
    decide_eq_true_eq] at huser
  obtain ⟨⟨rfl, hstate⟩, hhash⟩ := huser
  -- what the aim asks for are the guards that stand before and after the look
  refine ⟨identityOf user, ?_⟩
  rw [authenticate_of_find? hname hpassword hfind hstate, isWrong, hfind]
  simp only [if_neg hhash, Option.any_some]
  by_cases hmatches : login.matchesHash password user.passwordHash = true
  · simp only [hmatches, Bool.not_true, Bool.false_eq_true, if_true, if_false]
  · simp only [hmatches, Bool.not_false, if_true]
    rfl

end PasswordLogin

end AccessGateway
