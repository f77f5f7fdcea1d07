import AccessGateway.Proofs.Credential.Calls
import AccessGateway.Proofs.Login.Counter

/-!
# `AccessGateway.Proofs.Login.Parts`: the parts of a login, on a store that may fail

A login looks at the counter of its account, and then removes it or counts one more. Here is what
each of these parts does to all that the store has, whatever record it finds and however its calls
are treated. The two that write come after the look, which may have evicted a record that expired;
so they start from a store that shows the same, and speak of the one before the look.

* `PasswordLogin.runOn_isLockedOut`: the look.
* `PasswordLogin.runOn_clearFailures`: the removal.
* `PasswordLogin.runOn_openWindow`: the deadline of a first mismatch, after it was counted.
* `PasswordLogin.runOn_recordFailure_of_countsOn`, `runOn_recordFailure_of_not_countsOn`: the count.

Each says that the part was done, with what the store shows then, or that a call failed and the
store shows what it did before. Nothing is assumed about what stands under the key of a counter: it
may be any text, and counting is the addition of signed words, which wraps around at the largest.
-/

set_option autoImplicit false

namespace AccessGateway

open Text.Numeral (addSigned)
open Time (Duration)

namespace PasswordLogin

/-! ### Counters -/

section
variable (login : PasswordLogin) (treatment : StoreCall → Treatment) (vault : Vault)
  (account : String)

/-- An account has fewer mismatches than are tolerated, or the settings have no limit. What the
store has for its counter counts as zero unless it reads as a number. -/
def Tolerates : Prop :=
  login.maxTries = 0 ∨
    countOf ((vault.store.live? vault.now (counterKey account)).map Entry.value) < login.maxTries

/-- The record that the mismatches of an account are counted on from: the one in the store, or that
of a counter at zero. -/
def counterIn : Entry :=
  (vault.store.live? vault.now (counterKey account)).getD CredentialStore.zeroEntry

/-- A mismatch is counted: there is a limit, the store counts, and what it has is a number. The
number may be any signed word, also one that no login has written. -/
structure CountsOn (count : Int) : Prop where
  limited : login.maxTries ≠ 0
  incr : treatment (.incr (counterKey account)) = .answers
  number : Text.Numeral.readInt (counterIn vault account).value.toList = .ok count

/-- The counter after one more mismatch. The count of one has the deadline of a new window, unless
there is no window or the store failed to set it; any other keeps the deadline that was there. After
the largest signed word comes the smallest. -/
def countedOn (count : Int) : Entry where
  value := Text.intText (addSigned count 1)
  deadline :=
    if addSigned count 1 = 1 ∧ login.lockoutWindow.isZero = false ∧
        treatment (.expire (counterKey account) login.lockoutWindow) = .answers then
      some (vault.now + login.lockoutWindow.millis)
    else (counterIn vault account).deadline

/-- The mismatch is the first, but the store fails to open its window. The counter then has no
deadline. -/
def MissesWindow (count : Int) : Prop :=
  addSigned count 1 = 1 ∧ login.lockoutWindow.isZero = false ∧
    treatment (.expire (counterKey account) login.lockoutWindow) ≠ .answers

end

variable {login : PasswordLogin} {timeout : Duration} {treatment : StoreCall → Treatment}
  {vault : Vault} {account : String}

/-- What is counted on has not expired. -/
theorem lt_of_mem_counterIn {deadline : Instant}
    (h : deadline ∈ (counterIn vault account).deadline) : vault.now < deadline := by
  rw [counterIn] at h
  cases hlive : vault.store.live? vault.now (counterKey account) with
  | none => rw [hlive] at h; cases h
  | some entry =>
    rw [hlive] at h
    obtain ⟨-, hlasts⟩ := Option.filter_eq_some_iff.mp hlive
    rw [Bool.not_eq_true', Entry.isExpired, Option.any_eq_false] at hlasts
    simpa using hlasts deadline h

/-! ### The look -/

/-- The look at the counter changes nothing that is seen. It tells whether the account is locked
out, or a call has failed; without a limit there is no call. -/
theorem runOn_isLockedOut (login : PasswordLogin) (timeout : Duration)
    (treatment : StoreCall → Treatment) (vault : Vault) (account : String) :
    ((login.maxTries ≠ 0 → treatment (.get (counterKey account)) = .answers) ∧
      ∃ locked seen, (locked = false ↔ login.Tolerates vault account) ∧
        Work.runOn timeout treatment (login.isLockedOut account) vault
          = (.ok locked, { vault with store := seen }) ∧
        Vault.Shows { vault with store := seen } vault.store.live?) ∨
    ((login.maxTries ≠ 0 ∧ treatment (.get (counterKey account)) ≠ .answers) ∧
      vault.IsOutage (Work.runOn timeout treatment (login.isLockedOut account) vault)) := by
  rw [isLockedOut]
  by_cases hlimit : login.maxTries = 0
  · rw [if_pos hlimit]
    exact Or.inl ⟨absurd hlimit, false, vault.store, ⟨fun _ => Or.inl hlimit, fun _ => rfl⟩, rfl,
      fun _ _ _ => rfl⟩
  rw [if_neg hlimit]
  by_cases hget : treatment (.get (counterKey account)) = .answers
  · have hanswer : (StoreCall.get (counterKey account)).answer vault.store vault.now
        = (.ok ((vault.store.live? vault.now (counterKey account)).map Entry.value),
            vault.store.evict vault.now (counterKey account)) := rfl
    have hask := Work.runOn_ask_of_answers timeout vault hget hanswer
    refine Or.inl ⟨fun _ => hget, _, _, ?_, Work.runOn_bind_of_ok _ _ _ _ hask, ?_⟩
    · rw [decide_eq_false_iff_not, Nat.not_le, Tolerates, or_iff_right hlimit]
    · exact fun _ hlater _ => CredentialStore.live?_evict _ hlater _ _
  · exact Or.inr ⟨⟨hlimit, hget⟩, Work.isOutage_bind _ (Work.runOn_ask_of_not_answers _ _ hget)⟩

/-! ### The window -/

/-- Opening the window, after a mismatch was counted. The count stays also where the window is
missed, and the login then ends with the fault of the store. -/
theorem runOn_openWindow {count : Int} {counted : CredentialStore}
    (hcounted : ∀ later, vault.now ≤ later → ∀ key, counted.live? later key
      = if key = counterKey account then
          Entry.lasting?
            ⟨Text.intText (addSigned count 1), (counterIn vault account).deadline⟩ later
        else vault.store.live? later key) :
    let opened := Work.runOn timeout treatment (do
      if addSigned count 1 = 1 ∧ login.lockoutWindow.isZero = false then
        let _ ← Work.expire (counterKey account) login.lockoutWindow)
      { vault with store := counted }
    ∃ store, Vault.Shows { vault with store } (fun later key =>
        if key = counterKey account then
          (login.countedOn treatment vault account count).lasting? later
        else vault.store.live? later key) ∧
      ((¬ login.MissesWindow treatment account count ∧ opened = (.ok (), { vault with store })) ∨
        (login.MissesWindow treatment account count ∧
          Vault.IsOutage { vault with store } opened)) := by
  rw [countedOn, MissesWindow]
  -- a window is opened for the count of one only, and for that one the call may fail
  by_cases hfirst : addSigned count 1 = 1 ∧ login.lockoutWindow.isZero = false
  case neg =>
    rw [if_neg hfirst, if_neg fun h => hfirst ⟨h.1, h.2.1⟩]
    exact ⟨counted, hcounted, Or.inl ⟨fun h => hfirst ⟨h.1, h.2.1⟩, rfl⟩⟩
  rw [if_pos hfirst]
  by_cases hexpire : treatment (.expire (counterKey account) login.lockoutWindow) = .answers
  case neg =>
    rw [if_neg fun h => hexpire h.2.2]
    exact ⟨counted, hcounted, Or.inr ⟨⟨hfirst.1, hfirst.2, hexpire⟩,
      Work.isOutage_bind _ (Work.runOn_ask_of_not_answers _ _ hexpire)⟩⟩
  have hanswer : (StoreCall.expire (counterKey account) login.lockoutWindow).answer counted
        vault.now
      = (.ok (counted.expire vault.now (counterKey account) login.lockoutWindow).1,
          (counted.expire vault.now (counterKey account) login.lockoutWindow).2) := rfl
  have hask := Work.runOn_ask_of_answers timeout { vault with store := counted } hexpire hanswer
  -- the counter is there to be given a deadline, as the one it has did not come yet
  have hlive : counted.live? vault.now (counterKey account)
      = some ⟨Text.intText (addSigned count 1), (counterIn vault account).deadline⟩ := by
    rw [hcounted vault.now (Nat.le_refl _), if_pos rfl, Entry.lasting?_eq,
      if_pos fun _ => lt_of_mem_counterIn]
  rw [if_pos ⟨hfirst.1, hfirst.2, hexpire⟩]
  refine ⟨_, fun later hlater key => ?_,
    Or.inl ⟨fun hmissed => hmissed.2.2 hexpire, Work.runOn_bind_of_ok _ _ _ _ hask⟩⟩
  refine (CredentialStore.live?_expire _ hlater _ _ _).trans ?_
  rw [hlive, Option.bind_some]
  exact ite_congr rfl (fun _ => rfl) fun hkey =>
    (hcounted later hlater key).trans (if_neg hkey)

/-! ### The removal and the count -/

/-- Counting a mismatch on a store that fails to. -/
theorem isOutage_recordFailure (timeout : Duration) (vault : Vault) (hlimit : login.maxTries ≠ 0)
    (hincr : treatment (.incr (counterKey account)) ≠ .answers) :
    vault.IsOutage (Work.runOn timeout treatment (login.recordFailure account) vault) := by
  rw [recordFailure, if_neg hlimit]
  exact Work.isOutage_bind _ (Work.runOn_ask_of_not_answers _ _ hincr)

section
variable {seen : CredentialStore}
  (hseen : Vault.Shows { vault with store := seen } vault.store.live?)
include hseen

/-- Forgetting the mismatches. The counter is gone, or the call failed and it is still there. -/
theorem runOn_clearFailures (login : PasswordLogin) (timeout : Duration)
    (treatment : StoreCall → Treatment) (account : String) :
    ((login.maxTries ≠ 0 → treatment (.del [counterKey account]) = .answers) ∧
      ∃ store, Work.runOn timeout treatment (login.clearFailures account)
          { vault with store := seen } = (.ok (), { vault with store }) ∧
        Vault.Shows { vault with store } fun later key =>
          if login.maxTries ≠ 0 ∧ key = counterKey account then none
          else vault.store.live? later key) ∨
    ((login.maxTries ≠ 0 ∧ treatment (.del [counterKey account]) ≠ .answers) ∧
      Vault.IsOutage { vault with store := seen }
        (Work.runOn timeout treatment (login.clearFailures account)
          { vault with store := seen })) := by
  rw [clearFailures]
  by_cases hlimit : login.maxTries = 0
  · rw [if_pos hlimit]
    refine Or.inl ⟨absurd hlimit, seen, rfl, fun later hlater key => ?_⟩
    exact (hseen later hlater key).trans (if_neg fun h => h.1 hlimit).symm
  rw [if_neg hlimit]
  by_cases hdel : treatment (.del [counterKey account]) = .answers
  · have hanswer : (StoreCall.del [counterKey account]).answer seen vault.now
        = (.ok (seen.del vault.now [counterKey account]).1,
            (seen.del vault.now [counterKey account]).2) := rfl
    have hask := Work.runOn_ask_of_answers timeout { vault with store := seen } hdel hanswer
    refine Or.inl ⟨fun _ => hdel, _, Work.runOn_bind_of_ok _ _ _ _ hask, ?_⟩
    intro later hlater key
    simp only [CredentialStore.live?_del, List.mem_singleton, hseen later hlater key, ne_eq, hlimit,
      not_false_eq_true, true_and]
  · exact Or.inr ⟨⟨hlimit, hdel⟩, Work.isOutage_bind _ (Work.runOn_ask_of_not_answers _ _ hdel)⟩

/-- Counting a mismatch where it is counted. The count has been written in either case; what differs
is whether the window was opened, if there was one to open. -/
theorem runOn_recordFailure_of_countsOn (timeout : Duration) {count : Int}
    (h : login.CountsOn treatment vault account count) :
    let recorded := Work.runOn timeout treatment (login.recordFailure account)
      { vault with store := seen }
    ∃ store, Vault.Shows { vault with store } (fun later key =>
        if key = counterKey account then
          (login.countedOn treatment vault account count).lasting? later
        else vault.store.live? later key) ∧
      ((¬ login.MissesWindow treatment account count ∧ recorded = (.ok (), { vault with store })) ∨
        (login.MissesWindow treatment account count ∧
          Vault.IsOutage { vault with store } recorded)) := by
  have hentry : (seen.live? vault.now (counterKey account)).getD CredentialStore.zeroEntry
      = counterIn vault account := by
    rw [counterIn, ← hseen vault.now (Nat.le_refl _)]
  obtain ⟨hcount, hafter⟩ := CredentialStore.incr_of_readInt _ _ _ (hentry ▸ h.number)
  have hanswer : (StoreCall.incr (counterKey account)).answer seen vault.now
      = (.ok (addSigned count 1), (seen.incr vault.now (counterKey account)).2) :=
    Prod.ext hcount rfl
  have hask := Work.runOn_ask_of_answers timeout { vault with store := seen } h.incr hanswer
  rw [recordFailure, if_neg h.limited]
  refine Work.runOn_bind_of_ok _ _ _ _ hask ▸ runOn_openWindow fun later hlater key => ?_
  rw [hafter, hentry, hseen later hlater]

/-- Where a mismatch is not counted, nothing is: there is no limit, the store does not count, or
what it has is no number. -/
theorem runOn_recordFailure_of_not_countsOn (timeout : Duration)
    (h : ∀ count, ¬ login.CountsOn treatment vault account count) :
    ∃ outcome after, Work.runOn timeout treatment (login.recordFailure account)
        { vault with store := seen } = (outcome, after) ∧ after.Shows vault.store.live? := by
  by_cases hlimit : login.maxTries = 0
  · rw [recordFailure, if_pos hlimit]
    exact ⟨_, _, rfl, hseen⟩
  by_cases hincr : treatment (.incr (counterKey account)) = .answers
  case neg =>
    have houtage := isOutage_recordFailure timeout { vault with store := seen } hlimit hincr
    obtain ⟨reason, after, hrecord, hafter⟩ := houtage.shows hseen
    exact ⟨_, after, hrecord, hafter⟩
  cases hread : Text.Numeral.readInt (counterIn vault account).value.toList with
  | ok count => exact absurd ⟨hlimit, hincr, hread⟩ (h count)
  | error fault =>
    rw [counterIn, ← hseen vault.now (Nat.le_refl _)] at hread
    have hanswer : (StoreCall.incr (counterKey account)).answer seen vault.now = _ :=
      CredentialStore.incr_of_readInt_error _ _ _ hread
    have hask := Work.runOn_ask_of_answers timeout { vault with store := seen } hincr hanswer
    rw [recordFailure, if_neg hlimit]
    exact ⟨_, _, Work.runOn_bind_of_error _ _ _ _ hask, hseen⟩

end

end PasswordLogin

end AccessGateway
