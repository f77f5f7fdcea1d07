import AccessGateway.Proofs.Cluster.Store
import AccessGateway.Proofs.Credential.Run
import AccessGateway.Proofs.Login.Counter

/-!
# `AccessGateway.Proofs.Login.Lockout`: a lockout is a fixed-window limit

The mismatches of an account are counted by a decimal numeral in the credential store, with a
deadline of its own. `Window` is what that counter stands for, and `Window.after` computes it
from the answers that the logins of a run got, without the store. So the specification is a function
of what clients have seen, and says nothing of keys, records or evictions.

A run holds logins to one account and anything else that happens to the store between them, other
than a write to the counter of the account. It may start with any store in which that counter is
absent. An account is found by its name or by its address, and both lead to the same counter.

* `PasswordLogin.authenticate_answered`: a login is a look at the counter, a comparison, and
  then a count or a removal.
* `PasswordLogin.Tracks`: the invariant of a run. The record of the counter is that of the window
  that is open, and no more mismatches count than are tolerated.
* `PasswordLogin.Tracks.authenticate`: what one login answers by the window, and that it keeps
  the counter in step with it.
* `PasswordLogin.tracks_logOf`: the counter is in step after any run.
* `PasswordLogin.authenticate_fixedWindow`: after any run, the next login is answered by the
  mismatches since the current window opened.

The window is fixed and does not slide: its end is set by the first mismatch, and later ones leave
it where it is. The limit is a half word, as the reader of counters takes no larger number; below it
the count never comes near the end of the signed words.
-/

set_option autoImplicit false

namespace AccessGateway

open Time (Duration)

/-! ### Windows -/

/-- A period in which the mismatches of an account are counted together, with the instant of the
first of them. -/
structure Window where
  opened : Instant
  mismatches : Nat
  deriving DecidableEq

namespace Window

/-- A window of some length is open until that has passed; one of no length stays open, since its
counter has no deadline. -/
def isOpen (length : Duration) (now : Instant) (window : Window) : Bool :=
  length.isZero || decide (now < window.opened + length.millis)

/-- The window that is open at an instant, if any. -/
def current (length : Duration) (now : Instant) (window : Option Window) : Option Window :=
  window.filter (isOpen length now)

/-- The mismatches since the current window opened, which are none if no window is open. -/
def count (length : Duration) (now : Instant) (window : Option Window) : Nat :=
  ((current length now window).map mismatches).getD 0

/-- The window after a login got an answer. A mismatch opens one unless one is open, and a success
closes it. A login that is refused for another reason leaves it as it is. -/
def next (length : Duration) (window : Option Window) : Instant × Outcome Identity → Option Window
  | (_, .ok _) => none
  | (now, .error .incorrectCredential) =>
    match current length now window with
    | some window => some { window with mismatches := window.mismatches + 1 }
    | none => some ⟨now, 1⟩
  | (_, .error _) => window

/-- The window after logins, from their answers and the instants at which they were made. -/
def after (length : Duration) (answers : List (Instant × Outcome Identity)) : Option Window :=
  answers.foldl (next length) none

/-- The counter of a window, with the deadline at which the window ends. -/
def counter (length : Duration) (window : Window) : Entry :=
  ⟨Text.natText window.mismatches, CredentialStore.deadlineOf window.opened (some length)⟩

/-- The counter of a window lasts as long as the window is open, so the store forgets it at the
instant at which the window closes. -/
theorem lasting?_counter (length : Duration) (now : Instant) (window : Window) :
    (window.counter length).lasting? now
      = if window.isOpen length now then some (window.counter length) else none := by
  rw [counter, Entry.lasting?_eq, isOpen, CredentialStore.deadlineOf, Option.filter_some]
  cases length.isZero with
  | true => simp
  | false => simp

/-- A window that is open later is open now, since it closes once and for all when its time is
over. -/
theorem isOpen_of_le {length : Duration} {now later : Instant} {window : Window}
    (hle : now ≤ later) (hopen : window.isOpen length later = true) :
    window.isOpen length now = true := by
  rw [isOpen, Bool.or_eq_true, decide_eq_true_eq] at hopen ⊢
  exact hopen.imp_right (Nat.lt_of_le_of_lt hle)

/-- A window is open when it opens, also one of no length, which never closes. -/
theorem isOpen_opened (length : Duration) (now : Instant) (mismatches : Nat) :
    isOpen length now ⟨now, mismatches⟩ = true := by
  rcases length with ⟨_ | millis⟩
  · rfl
  · rw [isOpen, Bool.or_eq_true, decide_eq_true_eq]
    exact Or.inr (Nat.lt_add_of_pos_right (Nat.succ_pos millis))

/-- What is open later is what is open now and stays so: no window opens by itself. -/
theorem current_later (length : Duration) {now later : Instant} (hle : now ≤ later)
    (window : Option Window) :
    current length later window = current length later (current length now window) := by
  cases window with
  | none => rfl
  | some window =>
    cases hlater : window.isOpen length later with
    | true => simp [current, Option.filter_some, hlater, isOpen_of_le hle hlater]
    | false => cases hnow : window.isOpen length now <;>
        simp [current, Option.filter_some, hlater, hnow]

/-- The window that a mismatch counts in is open at that instant, whether it is the one before or a
new one. -/
theorem current_next_mismatch (length : Duration) (now : Instant) (window : Option Window) :
    current length now (next length window (now, .error .incorrectCredential))
      = next length window (now, .error .incorrectCredential) := by
  rw [next]
  cases hcurrent : current length now window with
  | none => exact Option.filter_some_pos (isOpen_opened length now 1)
  | some open' =>
    have hopen : open'.isOpen length now = true := (Option.filter_eq_some_iff.mp hcurrent).2
    exact Option.filter_some_pos hopen

/-- A mismatch is one more in the window that is open after it, or the first in a new one. -/
theorem count_next_mismatch (length : Duration) (now : Instant) (window : Option Window) :
    count length now (next length window (now, .error .incorrectCredential))
      = count length now window + 1 := by
  rw [count, current_next_mismatch, next, count]
  cases current length now window with
  | none => rfl
  | some open' => rfl

end Window

namespace PasswordLogin

variable (login : PasswordLogin)

/-! ### One login -/

/-- Whether an account is locked out is decided by its counter. -/
theorem isLockedOut_answered (htries : login.maxTries ≠ 0) (account : String) (vault : Vault) :
    Work.answered (login.isLockedOut account) vault
      = (.ok (decide (login.maxTries
            ≤ countOf ((vault.store.live? vault.now (counterKey account)).map Entry.value))),
          { vault with store := vault.store.evict vault.now (counterKey account) }) := by
  rw [isLockedOut, if_neg htries]
  rfl

/-- Counting a mismatch: the counter is raised, and what was first in it gets the time of the
window. -/
theorem recordFailure_answered (htries : login.maxTries ≠ 0) (account : String) (vault : Vault)
    {count : Int} {counted : CredentialStore}
    (hincr : vault.store.incr vault.now (counterKey account) = (.ok count, counted)) :
    Work.answered (login.recordFailure account) vault
      = (.ok (), { vault with store :=
          if count = 1 ∧ login.lockoutWindow.isZero = false then
            (counted.expire vault.now (counterKey account) login.lockoutWindow).2
          else counted }) := by
  have hask : Work.answered (Work.incr (counterKey account)) vault
      = (.ok count, { vault with store := counted }) := by
    show (let (reply, store) := vault.store.incr vault.now (counterKey account);
      (reply, { vault with store })) = _
    rw [hincr]
  rw [recordFailure, if_neg htries, Work.answered_bind_of_ok _ hask]
  split
  · rfl
  · rfl

/-- Forgetting all mismatches: the counter is removed, with whatever time it had. -/
theorem clearFailures_answered (htries : login.maxTries ≠ 0) (account : String) (vault : Vault) :
    Work.answered (login.clearFailures account) vault
      = (.ok (), { vault with store := (vault.store.del vault.now [counterKey account]).2 }) := by
  rw [clearFailures, if_neg htries]
  rfl

/-- A login to an active account with a password is a look at the counter, a comparison, and then a
count or a removal. What the look says is given, so that the equation is about the rest. -/
theorem authenticate_answered {name password : String} {user : User} {vault seen : Vault}
    {locked : Bool} (hname : name ≠ "") (hpassword : password ≠ "")
    (hfind : login.find? name = some user) (hstate : user.state = some .active)
    (hhash : user.passwordHash ≠ "")
    (hlocked : Work.answered (login.isLockedOut user.metadata.name) vault = (.ok locked, seen)) :
    Work.answered (login.authenticate name password) vault
      = if locked then (.error .rateLimitExceeded, seen)
        else if login.matchesHash password user.passwordHash then
          Work.answered (do
            login.clearFailures user.metadata.name
            return identityOf user) seen
        else
          Work.answered (do
            login.recordFailure user.metadata.name
            throw .incorrectCredential) seen := by
  rw [authenticate, if_neg (not_or.mpr ⟨hname, hpassword⟩), hfind]
  have hchecked : Work.answered (Work.ofOutcome (checkState user)) vault = (.ok (), vault) := by
    rw [Work.answered_ofOutcome, checkState, hstate]
  show Work.answered (_ >>= _) vault = _
  rw [Work.answered_bind_of_ok _ hchecked, Work.answered_bind_of_ok _ hlocked]
  cases locked with
  | true => rfl
  | false =>
    simp only [if_neg hhash, Bool.false_eq_true, if_false]
    split
    · rfl
    · rfl

/-! ### The counter between logins -/

/-- The counter of an account is the one of a window, if that is still open, and absent otherwise.
The window has counted at least one mismatch and no more than are tolerated. -/
structure Tracks (account : String) (vault : Vault) (window : Option Window) : Prop where
  live : vault.store.live? vault.now (counterKey account)
    = (Window.current login.lockoutWindow vault.now window).map
        (Window.counter login.lockoutWindow)
  bounds : ∀ w ∈ window, 1 ≤ w.mismatches ∧ w.mismatches ≤ login.maxTries

variable {login}

/-- The open window is within the limit: it has at least one mismatch and at most as many as are
tolerated. -/
theorem Tracks.bounds_current {account : String} {vault : Vault} {window : Option Window}
    {w : Window} (h : login.Tracks account vault window)
    (hcurrent : Window.current login.lockoutWindow vault.now window = some w) :
    1 ≤ w.mismatches ∧ w.mismatches ≤ login.maxTries :=
  h.bounds w (Option.eq_some_of_filter_eq_some hcurrent)

/-- No more mismatches count than the limit, as a login that is locked out does not get to the
comparison. -/
theorem Tracks.count_le {account : String} {vault : Vault} {window : Option Window}
    (h : login.Tracks account vault window) :
    Window.count login.lockoutWindow vault.now window ≤ login.maxTries := by
  rw [Window.count]
  cases hcurrent : Window.current login.lockoutWindow vault.now window with
  | none => exact Nat.zero_le _
  | some w => exact (h.bounds_current hcurrent).2

/-- The counter is read as the mismatches that count. It can be read, as it never exceeds the
limit. -/
theorem Tracks.countOf_eq {account : String} {vault : Vault} {window : Option Window}
    (h : login.Tracks account vault window) (hword : login.maxTries ≤ Text.Numeral.maxHalfWord) :
    countOf ((vault.store.live? vault.now (counterKey account)).map Entry.value)
      = Window.count login.lockoutWindow vault.now window := by
  rw [h.live, Window.count]
  cases hcurrent : Window.current login.lockoutWindow vault.now window with
  | none => rfl
  | some w =>
    exact countOf_natText (Nat.le_trans (h.bounds_current hcurrent).2 hword)

/-- A counter that counts anything is live, so looking at it evicts nothing, and a refusal leaves
the store exactly as it was. -/
theorem Tracks.evict_eq {account : String} {vault : Vault} {window : Option Window}
    (h : login.Tracks account vault window)
    (hcount : Window.count login.lockoutWindow vault.now window ≠ 0) :
    vault.store.evict vault.now (counterKey account) = vault.store := by
  have hlive := h.live
  cases hcurrent : Window.current login.lockoutWindow vault.now window with
  | none =>
    rw [Window.count, hcurrent] at hcount
    exact absurd rfl hcount
  | some w =>
    rw [hcurrent] at hlive
    exact CredentialStore.evict_of_live hlive

/-- What happens to the store between logins leaves the counter in step, as long as the counter is
not written. -/
theorem Tracks.effect {account : String} {vault : Vault} {window : Option Window}
    (h : login.Tracks account vault window) (event : StoreEvent)
    (hkey : counterKey account ∉ event.written) :
    login.Tracks account (event.effect vault) window where
  live := by
    rw [StoreEvent.live?_effect vault event hkey,
      CredentialStore.live?_later _ (StoreEvent.now_le_effect vault event), h.live,
      Window.current_later _ (StoreEvent.now_le_effect vault event)]
    cases Window.current login.lockoutWindow vault.now window with
    | none => rfl
    | some w =>
      show (w.counter login.lockoutWindow).lasting? _ = _
      rw [Window.lasting?_counter, Window.current, Option.filter_some]
      split
      · rfl
      · rfl
  bounds := h.bounds

/-- The first mismatch of a window opens it: the counter is at one, with the deadline that the
window gives it. -/
theorem recordFailure_first {account : String} {vault : Vault} (htries : login.maxTries ≠ 0)
    (hlive : vault.store.live? vault.now (counterKey account) = none) :
    ∃ store, Work.answered (login.recordFailure account) vault = (.ok (), { vault with store }) ∧
      store.live? vault.now (counterKey account)
        = some (Window.counter login.lockoutWindow ⟨vault.now, 1⟩) := by
  have habsent : vault.store.live? vault.now (counterKey account) = counterOf 0 none := hlive
  obtain ⟨counted, hincr, hcounted⟩ := incr_counterOf habsent (Nat.zero_le _) fun _ => rfl
  refine ⟨_, login.recordFailure_answered htries account vault hincr, ?_⟩
  have hlasts := Window.lasting?_counter login.lockoutWindow vault.now ⟨vault.now, 1⟩
  rw [if_pos (Window.isOpen_opened _ _ _)] at hlasts
  rw [← hlasts]
  -- the counter starts without a deadline and gets one unless the window has no length
  have hstarted := hcounted vault.now (counterKey account)
  rw [if_pos rfl] at hstarted
  cases hzero : login.lockoutWindow.isZero with
  | true =>
    rw [if_neg (by simp), hstarted, Window.counter, CredentialStore.deadlineOf,
      Option.filter_some, hzero]
    rfl
  | false =>
    rw [if_pos ⟨rfl, rfl⟩, CredentialStore.live?_expire _ (Nat.le_refl _), if_pos rfl, hstarted,
      Window.counter, CredentialStore.deadlineOf, Option.filter_some, hzero]
    rfl

/-- A further mismatch of a window is counted and leaves its end as it is: only the count of one
asks for a deadline. -/
theorem recordFailure_further {account : String} {vault : Vault} {window : Window}
    (htries : login.maxTries ≠ 0) (hword : window.mismatches ≤ Text.Numeral.maxHalfWord)
    (hcounted : 1 ≤ window.mismatches) (hopen : window.isOpen login.lockoutWindow vault.now = true)
    (hlive : vault.store.live? vault.now (counterKey account)
      = some (window.counter login.lockoutWindow)) :
    ∃ store, Work.answered (login.recordFailure account) vault = (.ok (), { vault with store }) ∧
      store.live? vault.now (counterKey account)
        = some (Window.counter login.lockoutWindow
            { window with mismatches := window.mismatches + 1 }) := by
  have hsome : window.mismatches ≠ 0 := Nat.ne_of_gt hcounted
  have hcounter : vault.store.live? vault.now (counterKey account)
      = counterOf window.mismatches
          (CredentialStore.deadlineOf window.opened (some login.lockoutWindow)) := by
    rw [hlive, counterOf, if_neg hsome]
    rfl
  obtain ⟨counted, hincr, hafter⟩ := incr_counterOf hcounter hword fun hzero => absurd hzero hsome
  refine ⟨_, login.recordFailure_answered htries account vault hincr, ?_⟩
  -- the count is two or more, so no new deadline is set
  have hnotfirst : ¬ ((window.mismatches : Int) + 1 = 1 ∧
      login.lockoutWindow.isZero = false) := by
    omega
  rw [if_neg hnotfirst, hafter, if_pos rfl]
  have hlasts := Window.lasting?_counter login.lockoutWindow vault.now
    { window with mismatches := window.mismatches + 1 }
  rw [Window.isOpen] at hopen
  rw [Window.isOpen, if_pos hopen] at hlasts
  exact hlasts

/-- Counting a mismatch below the limit keeps the counter in step with the window that the answer
leads to. -/
theorem Tracks.recordFailure {account : String} {vault : Vault} {window : Option Window}
    (h : login.Tracks account vault window) (hword : login.maxTries ≤ Text.Numeral.maxHalfWord)
    (hfew : Window.count login.lockoutWindow vault.now window < login.maxTries) :
    ∃ store, Work.answered (login.recordFailure account) vault = (.ok (), { vault with store }) ∧
      login.Tracks account { vault with store }
        (Window.next login.lockoutWindow window (vault.now, .error .incorrectCredential)) := by
  have hnext := Window.current_next_mismatch login.lockoutWindow vault.now window
  have hlive := h.live
  have htries : login.maxTries ≠ 0 := Nat.ne_of_gt (Nat.lt_of_le_of_lt (Nat.zero_le _) hfew)
  rw [Window.count] at hfew
  rw [Window.next] at hnext ⊢
  cases hcurrent : Window.current login.lockoutWindow vault.now window with
  | none =>
    -- no window is open: this mismatch opens one, also where an older one has passed
    rw [hcurrent] at hlive hnext
    obtain ⟨store, hanswer, hcounter⟩ := recordFailure_first htries hlive
    refine ⟨store, hanswer, ⟨?_, ?_⟩⟩
    · rw [hnext]
      exact hcounter
    · rintro w ⟨⟩
      exact ⟨Nat.le_refl 1, Nat.one_le_iff_ne_zero.mpr htries⟩
  | some w =>
    rw [hcurrent] at hlive hnext hfew
    have hbounds := h.bounds_current hcurrent
    have hopen : w.isOpen login.lockoutWindow vault.now = true :=
      (Option.filter_eq_some_iff.mp hcurrent).2
    obtain ⟨store, hanswer, hcounter⟩ :=
      recordFailure_further htries (by omega) hbounds.1 hopen hlive
    refine ⟨store, hanswer, ⟨?_, ?_⟩⟩
    · rw [hnext]
      exact hcounter
    · rintro w' ⟨⟩
      exact ⟨Nat.le_add_left 1 _, hfew⟩

/-- Forgetting all mismatches closes the window: the counter is gone, and so is what it counted. -/
theorem tracks_clearFailures (htries : login.maxTries ≠ 0) (account : String) (vault : Vault) :
    ∃ store, Work.answered (login.clearFailures account) vault = (.ok (), { vault with store }) ∧
      login.Tracks account { vault with store } none := by
  refine ⟨_, login.clearFailures_answered htries account vault, ⟨?_, nofun⟩⟩
  show (vault.store.del vault.now [counterKey account]).2.live? vault.now (counterKey account) = _
  rw [CredentialStore.live?_del, if_pos (List.mem_singleton_self _)]
  rfl

/-! ### Logins to one account -/

section
variable {user : User} {name password : String}

/-- What one login does, by the mismatches that count and the comparison of the password, and that
it keeps the counter in step. This is the step of the induction over runs. -/
theorem Tracks.authenticate {vault : Vault} {window : Option Window}
    (h : login.Tracks user.metadata.name vault window) (htries : login.maxTries ≠ 0)
    (hword : login.maxTries ≤ Text.Numeral.maxHalfWord) (hstate : user.state = some .active)
    (hhash : user.passwordHash ≠ "") (hname : name ≠ "") (hpassword : password ≠ "")
    (hfind : login.find? name = some user) :
    let count := Window.count login.lockoutWindow vault.now window
    let answered := Work.answered (login.authenticate name password) vault
    (login.maxTries ≤ count → answered = (.error .rateLimitExceeded, vault)) ∧
    (count < login.maxTries → login.matchesHash password user.passwordHash = true →
      answered.1 = .ok (identityOf user)) ∧
    (count < login.maxTries → login.matchesHash password user.passwordHash = false →
      answered.1 = .error .incorrectCredential) ∧
    answered.2.now = vault.now ∧
    login.Tracks user.metadata.name answered.2
      (Window.next login.lockoutWindow window (vault.now, answered.1)) := by
  intro count answered
  have hlocked := login.isLockedOut_answered htries user.metadata.name vault
  rw [h.countOf_eq hword] at hlocked
  have hanswered := login.authenticate_answered hname hpassword hfind hstate hhash hlocked
  -- the look at the counter is one more call that writes nothing
  have hseen : login.Tracks user.metadata.name
      { vault with store := vault.store.evict vault.now (counterKey user.metadata.name) } window :=
    h.effect (.call (.get (counterKey user.metadata.name))) List.not_mem_nil
  by_cases hmany : login.maxTries ≤ count
  · have hkept : vault.store.evict vault.now (counterKey user.metadata.name) = vault.store :=
      h.evict_eq (Nat.ne_of_gt (Nat.lt_of_lt_of_le (Nat.pos_of_ne_zero htries) hmany))
    rw [decide_eq_true hmany, if_pos rfl, hkept] at hanswered
    have hrefused : answered = (.error .rateLimitExceeded, vault) := hanswered
    rw [hrefused]
    exact ⟨fun _ => rfl, fun hfew => absurd hfew (Nat.not_lt.mpr hmany),
      fun hfew => absurd hfew (Nat.not_lt.mpr hmany), rfl, h⟩
  · have hfew : count < login.maxTries := Nat.lt_of_not_le hmany
    rw [decide_eq_false hmany, if_neg Bool.false_ne_true] at hanswered
    cases hmatches : login.matchesHash password user.passwordHash with
    | true =>
      obtain ⟨store, hclear, htracks⟩ := tracks_clearFailures htries user.metadata.name
        { vault with store := vault.store.evict vault.now (counterKey user.metadata.name) }
      rw [hmatches, if_pos rfl, Work.answered_bind_of_ok _ hclear] at hanswered
      have hsucceeded : answered = (.ok (identityOf user), { vault with store }) := hanswered
      rw [hsucceeded]
      exact ⟨fun h => absurd h hmany, fun _ _ => rfl, fun _ h => (nomatch h), rfl, htracks⟩
    | false =>
      obtain ⟨store, hrecord, htracks⟩ := hseen.recordFailure hword hfew
      rw [hmatches, if_neg Bool.false_ne_true, Work.answered_bind_of_ok _ hrecord] at hanswered
      have hfailed : answered = (.error .incorrectCredential, { vault with store }) := hanswered
      rw [hfailed]
      exact ⟨fun h => absurd h hmany, fun _ h => (nomatch h), fun _ _ => rfl, rfl, htracks⟩

/-- Without a limit a login compares the password and leaves the store alone, so nothing ever locks
the account. -/
theorem authenticate_answered_unlimited (htries : login.maxTries = 0) (vault : Vault)
    (hstate : user.state = some .active) (hhash : user.passwordHash ≠ "") (hname : name ≠ "")
    (hpassword : password ≠ "") (hfind : login.find? name = some user) :
    Work.answered (login.authenticate name password) vault
      = (if login.matchesHash password user.passwordHash then .ok (identityOf user)
          else .error .incorrectCredential, vault) := by
  have hlocked : Work.answered (login.isLockedOut user.metadata.name) vault
      = (.ok false, vault) := by
    rw [isLockedOut, if_pos htries]
    rfl
  rw [login.authenticate_answered hname hpassword hfind hstate hhash hlocked,
    if_neg Bool.false_ne_true, clearFailures, recordFailure, if_pos htries, if_pos htries]
  split
  · rfl
  · rfl

end

end PasswordLogin

/-! ### Runs -/

/-- A login to an account, or something else that happens to the store. -/
inductive LoginEvent where
  | store (event : StoreEvent)
  | attempt (name password : String)

/-- A store after some logins, and when they were made and how answered. -/
structure LoginLog where
  vault : Vault
  answers : List (Instant × Outcome Identity)

namespace PasswordLogin

/-- What one event adds to a log. -/
def step (login : PasswordLogin) (log : LoginLog) : LoginEvent → LoginLog
  | .store event => { log with vault := event.effect log.vault }
  | .attempt name password =>
    let (answer, vault) := Work.answered (login.authenticate name password) log.vault
    ⟨vault, log.answers ++ [(log.vault.now, answer)]⟩

/-- The log of a run. -/
def logOf (login : PasswordLogin) (start : Vault) (events : List LoginEvent) : LoginLog :=
  events.foldl login.step ⟨start, []⟩

/-- The event is a login to the account with a name and a password, or leaves the counter of the
account to the logins. These are the events that a run about one account may have. -/
def Concerns (login : PasswordLogin) (user : User) : LoginEvent → Prop
  | .store event => counterKey user.metadata.name ∉ event.written
  | .attempt name password => name ≠ "" ∧ password ≠ "" ∧ login.find? name = some user

variable {login : PasswordLogin} {user : User}

/-- What holds at the start of a run and is kept by its events holds at its end. The step may assume
that the event concerns the account. -/
theorem logOf_induction {P : LoginLog → Prop} {start : Vault} (events : List LoginEvent)
    (hevents : ∀ event ∈ events, login.Concerns user event) (hstart : P ⟨start, []⟩)
    (hstep : ∀ log event, login.Concerns user event → P log → P (login.step log event)) :
    P (login.logOf start events) :=
  List.foldlRecOn events login.step hstart fun log h event hmem =>
    hstep log event (hevents event hmem) h

/-- The counter is in step after any run: it is that of the window computed from the answers. No
counter may be there at the start, as it would count mismatches that the run did not see. -/
theorem tracks_logOf (htries : login.maxTries ≠ 0)
    (hword : login.maxTries ≤ Text.Numeral.maxHalfWord)
    (hstate : user.state = some .active) (hhash : user.passwordHash ≠ "") (start : Vault)
    (habsent : start.store.live? start.now (counterKey user.metadata.name) = none)
    (events : List LoginEvent) (hevents : ∀ event ∈ events, login.Concerns user event) :
    login.Tracks user.metadata.name (login.logOf start events).vault
      (Window.after login.lockoutWindow (login.logOf start events).answers) := by
  refine logOf_induction
    (P := fun log => login.Tracks user.metadata.name log.vault
      (Window.after login.lockoutWindow log.answers))
    events hevents ⟨habsent, nofun⟩ fun log event hevent h => ?_
  cases event with
  | store event => exact h.effect event hevent
  | attempt name password =>
    obtain ⟨hname, hpassword, hfind⟩ := hevent
    have hnext := (h.authenticate htries hword hstate hhash hname hpassword hfind).2.2.2.2
    show login.Tracks _ _ (Window.after _ (log.answers ++ [_]))
    rw [Window.after, List.foldl_append]
    exact hnext

/-- Without a limit no counter is written in any run, so none is there that was not there before. -/
theorem live?_logOf_unlimited (htries : login.maxTries = 0)
    (hstate : user.state = some .active) (hhash : user.passwordHash ≠ "") (start : Vault)
    (habsent : start.store.live? start.now (counterKey user.metadata.name) = none)
    (events : List LoginEvent) (hevents : ∀ event ∈ events, login.Concerns user event) :
    (login.logOf start events).vault.store.live? (login.logOf start events).vault.now
      (counterKey user.metadata.name) = none := by
  refine logOf_induction
    (P := fun log => log.vault.store.live? log.vault.now (counterKey user.metadata.name) = none)
    events hevents habsent fun log event hevent h => ?_
  cases event with
  | store event =>
    have hkept := StoreEvent.live?_effect log.vault event hevent
    exact hkept.trans (CredentialStore.live?_eq_none_of_le (StoreEvent.now_le_effect _ event) h)
  | attempt name password =>
    obtain ⟨hname, hpassword, hfind⟩ := hevent
    have hanswered :=
      authenticate_answered_unlimited htries log.vault hstate hhash hname hpassword hfind
    show (Work.answered _ log.vault).2.store.live? (Work.answered _ log.vault).2.now _ = none
    rw [hanswered]
    exact h

/-- Logins to an active account with a password, one after another, are limited by a fixed window.
Whatever happened before, the answer to the next one depends on the mismatches since the current
window opened: at the limit it is refused, whatever the password, and nothing changes; below it a
matching password succeeds and closes the window, and any other is one more mismatch. Without a
limit only the password counts, and no login touches the store. -/
theorem authenticate_fixedWindow (login : PasswordLogin) (user : User)
    (hstate : user.state = some .active) (hhash : user.passwordHash ≠ "")
    (hword : login.maxTries ≤ Text.Numeral.maxHalfWord) (start : Vault)
    (habsent : start.store.live? start.now (counterKey user.metadata.name) = none)
    (events : List LoginEvent) (hevents : ∀ event ∈ events, login.Concerns user event)
    (name password : String) (hattempt : login.Concerns user (.attempt name password)) :
    let log := login.logOf start events
    let countIn := fun answers => Window.count login.lockoutWindow log.vault.now
      (Window.after login.lockoutWindow answers)
    let count := countIn log.answers
    let matching := login.matchesHash password user.passwordHash
    let answered := Work.answered (login.authenticate name password) log.vault
    let answers := log.answers ++ [(log.vault.now, answered.1)]
    (login.maxTries ≠ 0 →
      count ≤ login.maxTries ∧
      (login.maxTries ≤ count → answered = (.error .rateLimitExceeded, log.vault)) ∧
      (count < login.maxTries → matching = true → answered.1 = .ok (identityOf user) ∧
        Window.after login.lockoutWindow answers = none) ∧
      (count < login.maxTries → matching = false → answered.1 = .error .incorrectCredential ∧
        countIn answers = count + 1)) ∧
    (login.maxTries = 0 →
      log.vault.store.live? log.vault.now (counterKey user.metadata.name) = none ∧
      answered = (if matching then .ok (identityOf user) else .error .incorrectCredential,
        log.vault)) := by
  intro log countIn count matching answered answers
  obtain ⟨hname, hpassword, hfind⟩ := hattempt
  have hafter : Window.after login.lockoutWindow answers
      = Window.next login.lockoutWindow (Window.after login.lockoutWindow log.answers)
          (log.vault.now, answered.1) := by
    show Window.after _ (log.answers ++ [_]) = _
    rw [Window.after, List.foldl_append]
    rfl
  constructor
  · intro htries
    have htracks := tracks_logOf htries hword hstate hhash start habsent events hevents
    obtain ⟨hrefused, hmatch, hmismatch, -, -⟩ :=
      htracks.authenticate htries hword hstate hhash hname hpassword hfind
    refine ⟨htracks.count_le, hrefused, fun hfew h => ?_, fun hfew h => ?_⟩
    · have hanswer : answered.1 = .ok (identityOf user) := hmatch hfew h
      rw [hafter, hanswer]
      exact ⟨rfl, rfl⟩
    · have hanswer : answered.1 = .error .incorrectCredential := hmismatch hfew h
      show _ ∧ Window.count _ _ (Window.after _ answers) = _
      rw [hafter, hanswer]
      exact ⟨rfl, Window.count_next_mismatch _ _ _⟩
  · intro htries
    exact ⟨live?_logOf_unlimited htries hstate hhash start habsent events hevents,
      authenticate_answered_unlimited htries log.vault hstate hhash hname hpassword hfind⟩

/-- With two tries, the first wrong password is a mismatch, and another one half a second later is
still below the limit. -/
theorem authenticate_fixedWindow_alice :
    let user := User.active "alice" "secret"
    let login : PasswordLogin :=
      { users := .ofList [user], maxTries := 2, lockoutWindow := .ofSeconds 60
        matchesHash := fun password hash => password == hash }
    let start : Vault := ⟨.empty, 0⟩
    let log := login.logOf start [.attempt "alice" "guess", .store (.pass 500)]
    (∀ event ∈ [LoginEvent.attempt "alice" "guess", .store (.pass 500)],
      login.Concerns user event) ∧
    (Work.answered (login.authenticate "alice" "guess") start).1 = .error .incorrectCredential ∧
    Window.count login.lockoutWindow log.vault.now (Window.after login.lockoutWindow log.answers)
      ≤ 2 := by
  intro user login start log
  have hfind : login.find? "alice" = some user :=
    (find?_ofList_eq_some_iff rfl (by decide)).mpr ⟨⟨[], [], rfl, nofun⟩, rfl, rfl⟩
  have hattempt : login.Concerns user (.attempt "alice" "guess") := ⟨by decide, by decide, hfind⟩
  have hevents : ∀ event ∈ [LoginEvent.attempt "alice" "guess", .store (.pass 500)],
      login.Concerns user event := by
    simp only [List.forall_mem_cons]
    exact ⟨hattempt, List.not_mem_nil, nofun⟩
  have hfirst := authenticate_fixedWindow login user rfl (by decide) (by decide) start rfl []
    nofun "alice" "guess" hattempt
  have hsecond := authenticate_fixedWindow login user rfl (by decide) (by decide) start rfl _
    hevents "alice" "guess" hattempt
  exact ⟨hevents, ((hfirst.1 (by decide)).2.2.2 (by decide) (by decide)).1,
    (hsecond.1 (by decide)).1⟩

end PasswordLogin

end AccessGateway
