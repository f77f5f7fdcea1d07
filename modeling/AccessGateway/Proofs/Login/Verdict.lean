import AccessGateway.Proofs.Cluster.Store
import AccessGateway.Proofs.Login.Parts
import AccessGateway.Proofs.Text.Split

/-!
# `AccessGateway.Proofs.Login.Verdict`: a login proves the password of one live account

A login has many ways to fail, and on some of them it writes. `PasswordLogin.Verdict` sorts them by
what is left in the store: the login proved the password and the counter of the account is gone,
or it was refused and counted, or it was refused and nothing changed. Its conditions speak of the
accounts and of the store before the login, and of the calls that the store answers.

* `PasswordLogin.find?_eq_some_iff`: the account that a login name stands for. There is one at most,
  so whatever is said of an account that a login reaches is said of a single one.
* `PasswordLogin.identifies_iff`: the identity that a login returns, by its parts.
* `PasswordLogin.verdict_authenticate`: what a login comes to, on every store and however its calls
  are treated. The parts of a login (`Proofs.Login.Parts`) are put together here.
* `PasswordLogin.authenticate_proves_password`: success as an equivalence, and what a login changes.

The conditions are structures with a field for each guard that a login passes: `Reaches` for those
up to the comparison, `Counts` for a mismatch that is counted, `AnswersCalls` for the calls that a
successful login makes.
-/

set_option autoImplicit false

namespace AccessGateway

open Time (Duration)

attribute [ext] Identity

/-! ### The account of a login name -/

/-- One `@` with text on both sides of it, and neither blanks nor angle brackets. Nothing else is
asked of an address. -/
def IsEmailAddress (name : String) : Prop :=
  ∃ before after, name.toList = before ++ '@' :: after ∧ before ≠ [] ∧ after ≠ [] ∧
    ∀ c ∈ before ++ after, c ≠ '@' ∧ c ≠ '<' ∧ c ≠ '>' ∧ Text.isBlank c = false

/-- The characters that an address may have on either side of its at sign: all but brackets, blanks
and further at signs. -/
theorem isOutsideAddress_eq_false_iff (c : Char) :
    isOutsideAddress c = false ↔ c ≠ '@' ∧ c ≠ '<' ∧ c ≠ '>' ∧ Text.isBlank c = false := by
  simp only [isOutsideAddress, Bool.or_eq_false_iff, beq_eq_false_iff_ne, and_assoc]

/-- A login name is taken for an address when there is one at sign in it, with something on either
side, and no blank or angle bracket anywhere. -/
theorem isEmail_iff (name : String) : isEmail name = true ↔ IsEmailAddress name := by
  rw [isEmail, IsEmailAddress]
  simp only [← isOutsideAddress_eq_false_iff, List.forall_mem_append]
  constructor
  · intro h
    split at h
    · rename_i before after hcut
      obtain ⟨htext, -⟩ := Text.splitOnce?_eq_some_iff.mp hcut
      exact ⟨before, after, htext, by simpa [and_assoc] using h⟩
    · cases h
  · rintro ⟨before, after, htext, hparts⟩
    have hfirst : '@' ∉ before := fun hat => absurd (hparts.2.2.1 '@' hat) (by decide)
    rw [htext, Text.splitOnce?_append _ _ _ hfirst]
    simpa [and_assoc] using hparts

namespace PasswordLogin

section
variable (login : PasswordLogin) (name : String) (user : User)

/-- The account of a login name: the first one with that address, in the order of namespaces and
names, or the one in no namespace with that name. A name that is an address stands for no account
that is merely called so. -/
structure StandsFor : Prop where
  byAddress : IsEmailAddress name → user.email = name ∧
    ∃ key : ObjectKey, login.users.index[key]? = some user ∧
      ∀ (other : ObjectKey) (earlier : User), login.users.index[other]? = some earlier →
        compare other key = .lt → earlier.email ≠ name
  byName : ¬ IsEmailAddress name → login.users.index[ObjectKey.mk "" name]? = some user

/-- A look-up by name or address finds the account that the name stands for, and no other one: by
address the first in the order of keys, by name the one in no namespace. -/
theorem find?_eq_some_iff : login.find? name = some user ↔ login.StandsFor name user := by
  rw [find?]
  by_cases haddress : IsEmailAddress name
  · rw [if_pos ((isEmail_iff name).mpr haddress), Store.find?_toList_eq_some_iff]
    simp only [decide_eq_true_eq, decide_eq_false_iff_not]
    exact ⟨fun h => ⟨fun _ => h, absurd haddress⟩, fun h => h.byAddress haddress⟩
  · rw [if_neg fun h => haddress ((isEmail_iff name).mp h)]
    exact ⟨fun h => ⟨fun h' => absurd h' haddress, fun _ => h⟩, fun h => h.byName haddress⟩

/-- The name of an account, no groups, and the mark of an account that never completed a first login
as the only attribute, if it has it. -/
structure Identifies (identity : Identity) : Prop where
  name : identity.name = user.metadata.name
  groups : identity.groups = ∅
  extra : ∀ key, identity.extra[key]?
    = if key = Identity.uninitializedKey then
        user.metadata.annotations[key]?.map fun value => [value]
      else none

/-- The identity that a login returns has the name of the account and its mark, and no groups, so
what groups grant is not granted to it. -/
theorem identifies_identityOf : Identifies user (identityOf user) := by
  rw [identityOf]
  split
  · rename_i value hmark
    refine ⟨rfl, rfl, fun key => ?_⟩
    by_cases hkey : key = Identity.uninitializedKey
    · subst hkey
      rw [if_pos rfl, hmark]
      exact Std.ExtTreeMap.getElem?_insert_self
    · rw [if_neg hkey]
      refine Std.ExtTreeMap.getElem?_insert.trans ?_
      rw [if_neg fun heq => hkey (Std.LawfulEqOrd.eq_of_compare heq).symm]
      exact Std.ExtTreeMap.getElem?_empty
  · rename_i hunmarked
    refine ⟨rfl, rfl, fun key => Std.ExtTreeMap.getElem?_empty.trans ?_⟩
    split
    · rename_i hkey
      rw [hkey, hunmarked, Option.map_none]
    · rfl

/-- There is one identity for an account. -/
theorem identifies_iff (identity : Identity) :
    Identifies user identity ↔ identity = identityOf user := by
  constructor
  · intro h
    have hsame := identifies_identityOf user
    have hextra : identity.extra = (identityOf user).extra :=
      Std.ExtTreeMap.ext_getElem? fun key => (h.extra key).trans (hsame.extra key).symm
    rw [Identity.ext_iff]
    exact ⟨h.name.trans hsame.name.symm, h.groups.trans hsame.groups.symm, hextra⟩
  · rintro rfl
    exact identifies_identityOf user

end

/-! ### What decides a login -/

section
variable (login : PasswordLogin) (treatment : StoreCall → Treatment) (vault : Vault)
  (name password : String) (user : User) (account : String)

/-- A login comes to the comparison of the password with the hash of an account. Whether the store
answers the look at the counter is not part of it. -/
structure Reaches : Prop where
  name_ne : name ≠ ""
  password_ne : password ≠ ""
  standsFor : login.StandsFor name user
  active : user.state = some .active
  tolerates : login.Tolerates vault user.metadata.name
  hash_ne : user.passwordHash ≠ ""

/-- A login is refused for its password, and that is counted: the comparison fails, the store
answers the look and the count, and what it has for the counter is a number. -/
structure Counts (count : Int) : Prop where
  reaches : login.Reaches vault name password user
  mismatch : login.matchesHash password user.passwordHash = false
  get : treatment (.get (counterKey user.metadata.name)) = .answers
  counts : login.CountsOn treatment vault user.metadata.name count

/-- The store answers the calls of a login with the right password, which are the look and the
removal. Without a limit there are none. -/
def AnswersCalls : Prop :=
  login.maxTries ≠ 0 → treatment (.get (counterKey account)) = .answers ∧
    treatment (.del [counterKey account]) = .answers

end

variable {login : PasswordLogin} {timeout : Duration} {treatment : StoreCall → Treatment}
  {vault : Vault} {name password account : String}

/-! ### What a login comes to -/

section
variable (login : PasswordLogin) (treatment : StoreCall → Treatment) (vault : Vault)
  (name password : String)

/-- What a login comes to, with the answer and with what the store has afterwards. The three cases
exclude each other, as the conditions of each deny those of the others. -/
inductive Verdict : Outcome Identity × Vault → Prop where
  /-- The password was the one of the account, and the counter is gone. -/
  | proved {user : User} {after : Vault} (reaches : login.Reaches vault name password user)
      (matching : login.matchesHash password user.passwordHash = true)
      (answers : login.AnswersCalls treatment user.metadata.name)
      (shows : after.Shows fun later key =>
        if login.maxTries ≠ 0 ∧ key = counterKey user.metadata.name then none
        else vault.store.live? later key) :
      Verdict (.ok (identityOf user), after)
  /-- The password was another one, and that was counted. -/
  | counted {user : User} {count : Int} {fault : Fault} {after : Vault}
      (counts : login.Counts treatment vault name password user count)
      (shows : after.Shows fun later key =>
        if key = counterKey user.metadata.name then
          (login.countedOn treatment vault user.metadata.name count).lasting? later
        else vault.store.live? later key) :
      Verdict (.error fault, after)
  /-- The login was refused in any other way. -/
  | kept {fault : Fault} {after : Vault}
      (unproved : ∀ user, login.Reaches vault name password user →
        login.matchesHash password user.passwordHash = true →
        ¬ login.AnswersCalls treatment user.metadata.name)
      (uncounted : ∀ user count, ¬ login.Counts treatment vault name password user count)
      (shows : after.Shows vault.store.live?) :
      Verdict (.error fault, after)

end

/-- An account that a login reaches is the one that its name is looked up as, since the look-up is
the guard that stands for it. -/
theorem Reaches.find? {user : User} (h : login.Reaches vault name password user) :
    login.find? name = some user :=
  (login.find?_eq_some_iff name user).mpr h.standsFor

/-- The account of a name is the only one that a login can be about: a name stands for one account
at most. -/
theorem Reaches.unique {user other : User} (h : login.Reaches vault name password user)
    (hother : login.Reaches vault name password other) : other = user :=
  Option.some.inj (hother.find?.symm.trans h.find?)

/-- A login is kept from success and from being counted if it is so for the account of its name.
Other accounts it cannot reach. -/
theorem Verdict.kept_of_find? {user : User} (hfind : login.find? name = some user) {fault : Fault}
    {after : Vault}
    (hunproved : login.Reaches vault name password user →
      login.matchesHash password user.passwordHash = true →
      ¬ login.AnswersCalls treatment user.metadata.name)
    (huncounted : ∀ count, ¬ login.Counts treatment vault name password user count)
    (hshows : after.Shows vault.store.live?) :
    login.Verdict treatment vault name password (.error fault, after) := by
  have hunique : ∀ {other}, login.Reaches vault name password other → other = user :=
    fun hreaches => Option.some.inj (hreaches.find?.symm.trans hfind)
  refine .kept (fun other hreaches => ?_) (fun other count h => ?_) hshows
  · cases hunique hreaches
    exact hunproved hreaches
  · cases hunique h.reaches
    exact huncounted count h

section
variable {user : User} {seen : CredentialStore} (hfind : login.find? name = some user)
  (hreaches : login.Reaches vault name password user)
  (hget : login.maxTries ≠ 0 → treatment (.get (counterKey user.metadata.name)) = .answers)
  (hseen : Vault.Shows { vault with store := seen } vault.store.live?)
include hfind hreaches hget hseen

/-- The right password, after the look at the counter: the login has succeeded if the store forgets
the mismatches, and fails with the store otherwise. -/
theorem verdict_clearFailures (hmatches : login.matchesHash password user.passwordHash = true) :
    login.Verdict treatment vault name password
      (Work.runOn timeout treatment (do
        login.clearFailures user.metadata.name
        return identityOf user) { vault with store := seen }) := by
  obtain ⟨hdel, store, hclear, hafter⟩ | ⟨⟨hlimit, hdel⟩, houtage⟩ :=
    login.runOn_clearFailures hseen timeout treatment user.metadata.name
  · rw [Work.runOn_bind_of_ok _ _ _ _ hclear]
    exact .proved hreaches hmatches (fun hlimit => ⟨hget hlimit, hdel hlimit⟩) hafter
  · obtain ⟨reason, after, hclear, hafter⟩ := houtage.shows hseen
    rw [Work.runOn_bind_of_error _ _ _ _ hclear]
    exact .kept_of_find? hfind (fun _ _ h => hdel (h hlimit).2)
      (fun _ h => nomatch hmatches.symm.trans h.mismatch) hafter

/-- A wrong password, after the look at the counter: the login is refused, and counted or not as the
store lets it. -/
theorem verdict_recordFailure (hmismatch : login.matchesHash password user.passwordHash = false) :
    login.Verdict treatment vault name password
      (Work.runOn timeout treatment (do
        login.recordFailure user.metadata.name
        throw .incorrectCredential) { vault with store := seen }) := by
  -- whatever comes of the count, the login is refused
  have hrefused : ∀ {outcome after}, Work.runOn timeout treatment
      (login.recordFailure user.metadata.name) { vault with store := seen } = (outcome, after) →
      ∃ fault, Work.runOn timeout treatment (do
        login.recordFailure user.metadata.name
        throw .incorrectCredential) { vault with store := seen }
          = ((.error fault : Outcome Identity), after) := by
    intro outcome after hrecord
    cases outcome with
    | ok value => exact ⟨_, Work.runOn_bind_of_ok _ _ _ _ hrecord⟩
    | error fault => exact ⟨_, Work.runOn_bind_of_error _ _ _ _ hrecord⟩
  by_cases hcounts : ∃ count, login.CountsOn treatment vault user.metadata.name count
  · obtain ⟨count, hcounts⟩ := hcounts
    have hverdict : login.Counts treatment vault name password user count :=
      ⟨hreaches, hmismatch, hget hcounts.limited, hcounts⟩
    obtain ⟨store, hshows, ⟨-, hrecord⟩ | ⟨-, houtage⟩⟩ :=
      runOn_recordFailure_of_countsOn hseen timeout hcounts
    · obtain ⟨fault, hrefused⟩ := hrefused hrecord
      rw [hrefused]
      exact .counted hverdict hshows
    · obtain ⟨reason, after, hrecord, hafter⟩ := houtage.shows hshows
      obtain ⟨fault, hrefused⟩ := hrefused hrecord
      rw [hrefused]
      exact .counted hverdict hafter
  · obtain ⟨outcome, after, hrecord, hafter⟩ :=
      runOn_recordFailure_of_not_countsOn hseen timeout (not_exists.mp hcounts)
    obtain ⟨fault, hrefused⟩ := hrefused hrecord
    rw [hrefused]
    exact .kept_of_find? hfind (fun _ h => nomatch hmismatch.symm.trans h)
      (fun count h => hcounts ⟨count, h.counts⟩) hafter

end

/-- What a login comes to, on every store and however its calls are treated. The cases are taken in
the order of the guards of a login, and each guard settles one condition of the verdict. -/
theorem verdict_authenticate (login : PasswordLogin) (timeout : Duration)
    (treatment : StoreCall → Treatment) (vault : Vault) (name password : String) :
    login.Verdict treatment vault name password
      (Work.runOn timeout treatment (login.authenticate name password) vault) := by
  by_cases hactive : ∃ user, (name ≠ "" ∧ password ≠ "") ∧ login.find? name = some user ∧
      user.state = some .active
  case neg =>
    have hunreached : ∀ user, ¬ login.Reaches vault name password user := fun user h =>
      hactive ⟨user, ⟨h.name_ne, h.password_ne⟩, h.find?, h.active⟩
    obtain ⟨fault, hlogin⟩ := authenticate_of_not_active hactive
    rw [hlogin]
    exact .kept (fun user h => absurd h (hunreached user))
      (fun user _ h => hunreached user h.reaches) fun _ _ _ => rfl
  obtain ⟨user, ⟨hname, hpassword⟩, hfind, hstate⟩ := hactive
  rw [authenticate_of_find? hname hpassword hfind hstate]
  obtain ⟨hget, locked, seen, htolerates, hlook, hseen⟩ | ⟨⟨hlimit, hget⟩, houtage⟩ :=
    login.runOn_isLockedOut timeout treatment vault user.metadata.name
  case inr =>
    obtain ⟨reason, after, hlook, hafter⟩ := houtage.shows fun _ _ _ => rfl
    rw [Work.runOn_bind_of_error _ _ _ _ hlook]
    exact .kept_of_find? hfind (fun _ _ h => hget (h hlimit).1) (fun _ h => hget h.get) hafter
  rw [Work.runOn_bind_of_ok _ _ _ _ hlook]
  cases locked with
  | true =>
    have hlocked : ¬ login.Tolerates vault user.metadata.name := fun h =>
      absurd (htolerates.mpr h) (by decide)
    exact .kept_of_find? hfind (fun h => absurd h.tolerates hlocked)
      (fun _ h => hlocked h.reaches.tolerates) hseen
  | false =>
    by_cases hhash : user.passwordHash = ""
    · simp only [if_pos hhash]
      exact .kept_of_find? hfind (fun h => absurd hhash h.hash_ne)
        (fun _ h => h.reaches.hash_ne hhash) hseen
    have hreaches : login.Reaches vault name password user :=
      ⟨hname, hpassword, (login.find?_eq_some_iff name user).mp hfind, hstate,
        htolerates.mp rfl, hhash⟩
    simp only [if_neg hhash, Bool.false_eq_true, if_false]
    split
    · rename_i hmatches
      exact verdict_clearFailures hfind hreaches hget hseen hmatches
    · rename_i hmismatch
      exact verdict_recordFailure hfind hreaches hget hseen (Bool.eq_false_iff.mpr hmismatch)

/-- A login succeeds exactly when it proves the password of the one account that the name stands
for: both inputs are given, the account is active, has fewer mismatches than are tolerated and has
a hash, the password matches it, and the store answers. It gives the identity of that account, and
of the records in the store it takes away the counter of the account and no other. A login that is
refused adds one to that counter, if it came as far as a comparison that failed and the store
counts, and otherwise changes nothing. -/
theorem authenticate_proves_password (login : PasswordLogin) (timeout : Duration)
    (treatment : StoreCall → Treatment) (vault : Vault) (name password : String) :
    let result := Work.runOn timeout treatment (login.authenticate name password) vault
    (∀ identity, result.1 = .ok identity ↔
      ∃ user, login.Reaches vault name password user ∧
        login.matchesHash password user.passwordHash = true ∧
        login.AnswersCalls treatment user.metadata.name ∧ Identifies user identity) ∧
    (∀ identity user, result.1 = .ok identity → login.Reaches vault name password user →
      result.2.Shows fun later key =>
        if login.maxTries ≠ 0 ∧ key = counterKey user.metadata.name then none
        else vault.store.live? later key) ∧
    (∀ fault, result.1 = .error fault →
      (∃ user count, login.Counts treatment vault name password user count ∧
        result.2.Shows fun later key =>
          if key = counterKey user.metadata.name then
            (login.countedOn treatment vault user.metadata.name count).lasting? later
          else vault.store.live? later key) ∨
      ((∀ user count, ¬ login.Counts treatment vault name password user count) ∧
        result.2.Shows vault.store.live?)) := by
  have hverdict := login.verdict_authenticate timeout treatment vault name password
  generalize Work.runOn timeout treatment (login.authenticate name password) vault = result
    at hverdict ⊢
  cases hverdict with
  | @proved user after hreaches hmatches hanswers hshows =>
    refine ⟨fun identity => ⟨fun h => ?_, ?_⟩, fun identity other _ hother => ?_, nofun⟩
    · cases h
      exact ⟨user, hreaches, hmatches, hanswers, identifies_identityOf user⟩
    · rintro ⟨other, hother, -, -, hidentity⟩
      cases hreaches.unique hother
      rw [(identifies_iff user identity).mp hidentity]
    · cases hreaches.unique hother
      exact hshows
  | @counted user count fault after hcounts hshows =>
    refine ⟨fun identity => ⟨nofun, ?_⟩, nofun, fun _ _ => Or.inl ⟨user, count, hcounts, hshows⟩⟩
    rintro ⟨other, hother, hmatches, -⟩
    cases hcounts.reaches.unique hother
    exact nomatch hmatches.symm.trans hcounts.mismatch
  | kept hunproved huncounted hshows =>
    refine ⟨fun identity => ⟨nofun, ?_⟩, nofun, fun _ _ => Or.inr ⟨huncounted, hshows⟩⟩
    rintro ⟨user, hreaches, hmatches, hanswers, -⟩
    exact absurd hanswers (hunproved user hreaches hmatches)

/-- With one mismatch counted and two tolerated, the right password is let in and the counter goes,
and another wrong one is counted, though the window stays the one of the first. -/
theorem authenticate_proves_password_alice :
    let user := User.active "alice" "secret"
    let login : PasswordLogin :=
      { users := .ofList [user], maxTries := 2, lockoutWindow := .ofSeconds 60
        matchesHash := fun password hash => password == hash }
    let vault : Vault :=
      ⟨CredentialStore.empty.set 0 (counterKey "alice") "1" (some (.ofSeconds 60)), 500⟩
    let attempt (password : String) :=
      Work.runOn .zero (fun _ => .answers) (login.authenticate "alice" password) vault
    login.Reaches vault "alice" "secret" user ∧
    (attempt "secret").1 = .ok (.named "alice") ∧
    (attempt "secret").2.store.live? 500 (counterKey "alice") = none ∧
    login.Counts (fun _ => .answers) vault "alice" "guess" user 1 ∧
    (attempt "guess").2.store.live? 500 (counterKey "alice") = some ⟨"2", some 60000⟩ := by
  intro user login vault attempt
  have hfind : login.find? "alice" = some user :=
    (find?_ofList_eq_some_iff rfl (by decide)).mpr ⟨⟨[], [], rfl, nofun⟩, rfl, rfl⟩
  have hreaches : ∀ password ≠ "", login.Reaches vault "alice" password user := fun _ h =>
    ⟨by decide, h, (login.find?_eq_some_iff "alice" user).mp hfind, rfl, Or.inr (by decide),
      by decide⟩
  have hcounts : login.Counts (fun _ => .answers) vault "alice" "guess" user 1 :=
    ⟨hreaches _ (by decide), by decide, rfl, by decide, rfl, by decide⟩
  have hresult := login.authenticate_proves_password .zero (fun _ => .answers) vault "alice"
  have hsecret := hresult "secret"
  have hguess := hresult "guess"
  have hok : (attempt "secret").1 = .ok (.named "alice") :=
    (hsecret.1 _).mpr ⟨user, hreaches _ (by decide), by decide, fun _ => ⟨rfl, rfl⟩,
      identifies_identityOf user⟩
  refine ⟨hreaches _ (by decide), hok, ?_, hcounts, ?_⟩
  · have hshows := hsecret.2.1 _ user hok (hreaches _ (by decide)) 500 (by decide)
    exact (hshows (counterKey "alice")).trans (if_pos ⟨by decide, rfl⟩)
  · have hrefused : (attempt "guess").1 = .error .incorrectCredential := by decide
    obtain ⟨other, count, hother, hshows⟩ | ⟨huncounted, -⟩ := hguess.2.2 _ hrefused
    · cases hcounts.reaches.unique hother.reaches
      cases Except.ok.inj (hcounts.counts.number.symm.trans hother.counts.number)
      have htwo : Text.intText (Text.Numeral.addSigned 1 1) = "2" :=
        Text.natText_digit (by decide)
      have hcounted : login.countedOn (fun _ => .answers) vault "alice" 1
          = ⟨"2", some 60000⟩ := by
        rw [countedOn, htwo]
        rfl
      refine (hshows 500 (by decide) (counterKey "alice")).trans ((if_pos rfl).trans ?_)
      exact congrArg (Entry.lasting? · 500) hcounted
    · exact absurd hcounts (huncounted user 1)

end PasswordLogin

end AccessGateway
