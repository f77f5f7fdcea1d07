import AccessGateway.Proofs.Login.Outage

/-!
# `AccessGateway.Proofs.Login.Expiry`: when a lockout ends

The first mismatch of an account is counted by one call to the credential store, and another call
sets the deadline after which the counter is gone. If the store answers both, the account is locked
out no longer than the window lasts. If it answers the first and not the second, the counter has no
deadline, no later mismatch sets one, and it stays until a login succeeds.

A run holds logins of any kind, each with a treatment of its calls of its own, and anything else
that happens to the store between them other than a write to the counter of one account. Its log
keeps for each login when it was made, on what terms, and how it was answered, and every result is
stated on that log.

* `PasswordLogin.DueTo`: the invariant of a run. The counter is at some count with some deadline,
  and the log has the mismatches that this is due to: those since the one that set the deadline
  (`Timed`), or those since one that failed to (`Untimed`).
* `PasswordLogin.DueTo.attempt`: one login keeps the counter due to the mismatches.
* `PasswordLogin.dueTo_logUnder`: the counter is due to the mismatches after any run.
* `PasswordLogin.lockout_ends_unless_untimed`: when a counter ends, what a refusal is due to, and
  the runs after which a counter has no end.
-/

set_option autoImplicit false

namespace AccessGateway

open Time (Duration)

/-! ### Runs on a store that may fail -/

/-- A login, with the treatment of its calls, or something else that happens to the store. The
treatment may change from one login to the next. -/
inductive OutageEvent where
  | store (event : StoreEvent)
  | attempt (name password : String) (treatment : StoreCall → Treatment)

/-- A login that was made: when, on what terms, and how it was answered. -/
structure LoginRecord where
  instant : Instant
  name : String
  password : String
  treatment : StoreCall → Treatment
  answer : Outcome Identity

/-- A store after some logins, and these. -/
structure OutageLog where
  vault : Vault
  records : List LoginRecord

namespace LoginRecord

variable (login : PasswordLogin) (account : String) (record : LoginRecord)

/-- A wrong password for an account was recognized, and the client was told so. -/
def isMismatch : Bool :=
  login.isAimedAt account record.name record.password &&
    decide (record.answer = .error .incorrectCredential)

/-- Someone logged in to an account. -/
def isSuccess : Bool :=
  login.isAimedAt account record.name record.password && record.answer.toBool

/-- A wrong password for an account was counted, and the call failed that was to set a deadline. The
client was told of the store and not of the password. -/
structure LeavesNoDeadline : Prop where
  aimed : login.isAimedAt account record.name record.password = true
  wrong : login.isWrong record.name record.password = true
  counted : record.treatment (.get (PasswordLogin.counterKey account)) = .answers ∧
    record.treatment (.incr (PasswordLogin.counterKey account)) = .answers
  expiry : record.treatment (.expire (PasswordLogin.counterKey account) login.lockoutWindow)
    ≠ .answers
  answer : ∃ reason, record.answer = .error (.backend reason)

end LoginRecord

namespace PasswordLogin

/-- What one event adds to a log. -/
def stepUnder (login : PasswordLogin) (timeout : Duration) (log : OutageLog) :
    OutageEvent → OutageLog
  | .store event => { log with vault := event.effect log.vault }
  | .attempt name password treatment =>
    let (answer, vault) :=
      Work.runOn timeout treatment (login.authenticate name password) log.vault
    ⟨vault, log.records ++ [⟨log.vault.now, name, password, treatment, answer⟩]⟩

/-- The log of a run. -/
def logUnder (login : PasswordLogin) (timeout : Duration) (start : Vault)
    (events : List OutageEvent) : OutageLog :=
  events.foldl (login.stepUnder timeout) ⟨start, []⟩

/-! ### What the counter is due to -/

variable (login : PasswordLogin) (account : String)

/-- So many mismatches, the first of which set the deadline. The others were made since then, by
this or another name for the account. -/
def Timed (records : List LoginRecord) (count : Nat) (deadline : Option Instant) : Prop :=
  ∃ opening ∈ records, opening.isMismatch login account = true ∧
    deadline = some (opening.instant + login.lockoutWindow.millis) ∧
    count ≤ records.countP fun record =>
      record.isMismatch login account && decide (opening.instant ≤ record.instant)

/-- Mismatches the first of which set no deadline, and no success since. Whether more were counted
after it makes no difference. -/
def Untimed (records : List LoginRecord) : Prop :=
  ∃ before record after, records = before ++ record :: after ∧
    record.LeavesNoDeadline login account ∧
    ∀ later ∈ after, later.isSuccess login account = false

/-- The counter of the account is due to the mismatches that are logged. It has no deadline exactly
when the log says that none was set. -/
structure DueTo (log : OutageLog) (count : Nat) (deadline : Option Instant) : Prop where
  live : log.vault.store.live? log.vault.now (counterKey account) = counterOf count deadline
  le : count ≤ login.maxTries
  past : ∀ record ∈ log.records, record.instant ≤ log.vault.now
  new : count = 0 → deadline = none
  cause : count ≠ 0 → login.Timed account log.records count deadline ∨
    (deadline = none ∧ login.Untimed account log.records)
  untimed : login.Untimed account log.records → count ≠ 0 ∧ deadline = none

variable {login account}

/-- A counter that was given its deadline keeps it through later records, whatever these are of. -/
theorem Timed.append {records : List LoginRecord} {count : Nat} {deadline : Option Instant}
    (h : login.Timed account records count deadline) (record : LoginRecord) :
    login.Timed account (records ++ [record]) count deadline := by
  obtain ⟨opening, hmem, hmismatch, hdeadline, hcount⟩ := h
  refine ⟨opening, List.mem_append_left _ hmem, hmismatch, hdeadline, ?_⟩
  rw [List.countP_append]
  exact Nat.le_trans hcount (Nat.le_add_right _ _)

/-- A counter that has no deadline is still without one after any login but a successful one, which
removes it. -/
theorem Untimed.append {records : List LoginRecord} (h : login.Untimed account records)
    {record : LoginRecord} (hrecord : record.isSuccess login account = false) :
    login.Untimed account (records ++ [record]) := by
  obtain ⟨before, unended, after, rfl, hunended, hafter⟩ := h
  refine ⟨before, unended, after ++ [record], by simp, hunended, fun later hlater => ?_⟩
  rcases List.mem_append.mp hlater with hlater | hlater
  · exact hafter later hlater
  · rw [List.mem_singleton.mp hlater]
    exact hrecord

/-- A counter has no deadline because the last login left it without one, or because it had none
before and the last login was no success. These are all the ways in which one more record can
matter. -/
theorem Untimed.of_append {records : List LoginRecord} {record : LoginRecord}
    (h : login.Untimed account (records ++ [record])) :
    record.LeavesNoDeadline login account ∨
      (login.Untimed account records ∧ record.isSuccess login account = false) := by
  obtain ⟨before, unended, after, heq, hunended, hafter⟩ := h
  -- the login that set no deadline is the last one, or the last one came after it
  rcases List.eq_nil_or_concat after with rfl | ⟨after, last, rfl⟩
  · obtain ⟨-, hlast⟩ := List.append_inj' heq rfl
    rw [List.singleton_inj.mp hlast]
    exact Or.inl hunended
  · rw [List.concat_eq_append] at heq hafter
    rw [← List.cons_append, ← List.append_assoc] at heq
    obtain ⟨rfl, hlast⟩ := List.append_inj' heq rfl
    rw [List.singleton_inj.mp hlast]
    exact Or.inr ⟨⟨before, unended, after, rfl, hunended, fun later hlater =>
      hafter later (List.mem_append_left _ hlater)⟩,
      hafter last (List.mem_append_right _ (List.mem_singleton_self _))⟩

namespace DueTo

variable {timeout : Duration} {log : OutageLog} {count : Nat} {deadline : Option Instant}

/-- Records are of logins that were made before, the last one included. -/
theorem past_append (h : login.DueTo account log count deadline) {record : LoginRecord}
    {now : Instant} (hinstant : record.instant = log.vault.now) (hle : log.vault.now ≤ now) :
    ∀ other ∈ log.records ++ [record], other.instant ≤ now := by
  intro other hother
  rcases List.mem_append.mp hother with hother | hother
  · exact Nat.le_trans (h.past other hother) hle
  · rw [List.mem_singleton.mp hother, hinstant]
    exact hle

/-- The deadline of a counter that counts anything is ahead, or it would not be live. -/
theorem lt_deadline (h : login.DueTo account log count deadline) (hcount : count ≠ 0) :
    ∀ d ∈ deadline, log.vault.now < d := by
  intro d hd
  have hlive := h.live
  rw [counterOf, if_neg hcount] at hlive
  have hlasts := (Option.filter_eq_some_iff.mp hlive).2
  rw [Option.mem_def.mp hd] at hlasts
  simpa [Entry.isExpired] using hlasts

/-- What leaves the counter alone, leaves it as it is or its deadline passes; in the second case it
counts nothing any more. -/
theorem later (h : login.DueTo account log count deadline) {vault : Vault}
    (hle : log.vault.now ≤ vault.now)
    (hsame : vault.store.live? vault.now (counterKey account)
      = log.vault.store.live? vault.now (counterKey account)) :
    ∃ count deadline, login.DueTo account { log with vault } count deadline := by
  have hpast : ∀ record ∈ log.records, record.instant ≤ vault.now := fun record hrecord =>
    Nat.le_trans (h.past record hrecord) hle
  rw [CredentialStore.live?_later log.vault.store hle, h.live] at hsame
  by_cases hlasts : ∀ d ∈ deadline, vault.now < d
  · exact ⟨count, deadline, {
      live := hsame.trans (bind_counterOf_lasting? hlasts)
      le := h.le
      past := hpast
      new := h.new
      cause := h.cause
      untimed := h.untimed }⟩
  · have hgone : vault.store.live? vault.now (counterKey account) = none := by
      rw [hsame, counterOf]
      split
      · rfl
      · rw [Option.bind_some, Entry.lasting?_eq, if_neg hlasts]
    exact ⟨0, none, {
      live := hgone
      le := Nat.zero_le _
      past := hpast
      new := fun _ => rfl
      cause := fun hcount => absurd rfl hcount
      -- a counter without a deadline would have lasted
      untimed := fun huntimed => absurd (fun d hd => by
        rw [(h.untimed huntimed).2] at hd
        cases hd) hlasts }⟩

/-- A login that leaves the counter alone and is no success is one more record, and the counter is
due to what it was due to. -/
theorem kept (h : login.DueTo account log count deadline) {vault : Vault} {record : LoginRecord}
    (hle : log.vault.now ≤ vault.now)
    (hsame : vault.store.live? vault.now (counterKey account)
      = log.vault.store.live? vault.now (counterKey account))
    (hinstant : record.instant = log.vault.now)
    (hsuccess : record.isSuccess login account = false)
    (hleaves : ¬ record.LeavesNoDeadline login account) :
    ∃ count deadline, login.DueTo account ⟨vault, log.records ++ [record]⟩ count deadline := by
  have hpast := h.past_append hinstant hle
  obtain ⟨count, deadline, h⟩ := h.later hle hsame
  exact ⟨count, deadline, {
    live := h.live
    le := h.le
    past := hpast
    new := h.new
    cause := fun hcount => (h.cause hcount).imp (fun h => h.append record)
      fun h => ⟨h.1, h.2.append hsuccess⟩
    untimed := fun huntimed => h.untimed (huntimed.of_append.resolve_left hleaves).1 }⟩

/-- A mismatch that was counted is one more record. -/
theorem counted (h : login.DueTo account log count deadline) {store : CredentialStore}
    {record : LoginRecord} (hzero : login.lockoutWindow.isZero = false)
    (hfew : count < login.maxTries) (hinstant : record.instant = log.vault.now)
    (hmismatch : record.isMismatch login account = true)
    (hsuccess : record.isSuccess login account = false)
    (hleaves : ¬ record.LeavesNoDeadline login account)
    (hlive : store.live? log.vault.now (counterKey account)
      = Entry.lasting? ⟨Text.natText (count + 1),
          if count = 0 then some (log.vault.now + login.lockoutWindow.millis) else deadline⟩
          log.vault.now) :
    ∃ count deadline, login.DueTo account
      ⟨{ log.vault with store }, log.records ++ [record]⟩ count deadline := by
  have hpast := h.past_append hinstant (Nat.le_refl _)
  by_cases hfirst : count = 0
  · -- the mismatch is the one that set the deadline
    rw [if_pos hfirst, Entry.lasting?_eq, if_pos, hfirst] at hlive
    · refine ⟨1, some (log.vault.now + login.lockoutWindow.millis), {
        live := hlive
        le := Nat.one_le_iff_ne_zero.mpr (Nat.ne_of_gt (Nat.lt_of_le_of_lt (Nat.zero_le _) hfew))
        past := hpast
        new := nofun
        cause := fun _ => Or.inl ⟨record, List.mem_append_right _ (List.mem_singleton_self _),
          hmismatch, by rw [hinstant], ?_⟩
        untimed := fun huntimed => absurd hfirst
          (h.untimed (huntimed.of_append.resolve_left hleaves).1).1 }⟩
      refine Nat.succ_le_of_lt (List.countP_pos_iff.mpr ⟨record,
        List.mem_append_right _ (List.mem_singleton_self _), ?_⟩)
      exact Bool.and_eq_true_iff.mpr ⟨hmismatch, decide_eq_true (Nat.le_refl _)⟩
    · rintro d ⟨⟩
      refine Nat.lt_add_of_pos_right ?_
      simpa [Duration.isZero, Nat.pos_iff_ne_zero] using hzero
  · -- the mismatch adds to those before it, with the deadline that they have or lack
    rw [if_neg hfirst, Entry.lasting?_eq, if_pos (h.lt_deadline hfirst)] at hlive
    refine ⟨count + 1, deadline, {
      live := hlive
      le := hfew
      past := hpast
      new := nofun
      cause := fun _ => (h.cause hfirst).imp (fun htimed => ?_)
        fun huntimed => ⟨huntimed.1, huntimed.2.append hsuccess⟩
      untimed := fun huntimed =>
        ⟨nofun, (h.untimed (huntimed.of_append.resolve_left hleaves).1).2⟩ }⟩
    obtain ⟨opening, hmem, hopening, hdeadline, hcount⟩ := htimed
    refine ⟨opening, List.mem_append_left _ hmem, hopening, hdeadline, ?_⟩
    have hsince : opening.instant ≤ record.instant := hinstant ▸ h.past opening hmem
    rw [List.countP_append, List.countP_singleton, hmismatch, Bool.true_and, decide_eq_true hsince]
    exact Nat.succ_le_succ hcount

/-- A login keeps the counter due to the mismatches. One that is aimed elsewhere leaves the counter
alone, and one that is aimed at the account has one of the four outcomes of `Effect`. -/
theorem attempt (h : login.DueTo account log count deadline) (htries : login.maxTries ≠ 0)
    (hword : login.maxTries ≤ Text.Numeral.maxHalfWord)
    (hzero : login.lockoutWindow.isZero = false) (name password : String)
    (treatment : StoreCall → Treatment) :
    ∃ count deadline, login.DueTo account
      (login.stepUnder timeout log (.attempt name password treatment)) count deadline := by
  cases haim : login.isAimedAt account name password with
  | false =>
    have hspares := spares_authenticate haim
    refine h.kept (Program.now_le_run _ _) (hspares.live?_run log.vault (Nat.le_refl _)) rfl ?_ ?_
    · rw [LoginRecord.isSuccess, haim, Bool.false_and]
    · exact fun hleaves => Bool.false_ne_true (haim.symm.trans hleaves.aimed)
  | true =>
    have heffect : login.Effect account (login.isWrong name password) treatment log.vault count
        deadline (Work.runOn timeout treatment (login.authenticate name password) log.vault) :=
      effect_authenticate htries hzero h.live (Nat.le_trans h.le hword) h.new haim
    rw [stepUnder]
    generalize Work.runOn timeout treatment (login.authenticate name password) log.vault = result
      at heffect ⊢
    cases heffect with
    | kept reason now live =>
      -- refused or failed, and if failed then before the mismatch was counted
      rcases reason with ⟨rfl, -⟩ | ⟨⟨_, rfl⟩, hcalls⟩
      · refine h.kept now (live _ (Nat.le_refl _)) rfl (Bool.and_false _) ?_
        exact fun hleaves => nomatch hleaves.answer
      · refine h.kept now (live _ (Nat.le_refl _)) rfl (Bool.and_false _) ?_
        exact fun hleaves => hcalls ⟨hleaves.wrong, hleaves.counted⟩
    | cleared live =>
      -- a success ends also what had no deadline
      refine ⟨0, none, {
        live := live
        le := Nat.zero_le _
        past := h.past_append rfl (Nat.le_refl _)
        new := fun _ => rfl
        cause := fun hcount => absurd rfl hcount
        untimed := fun huntimed => ?_ }⟩
      rcases huntimed.of_append with hleaves | ⟨-, hsuccess⟩
      · exact nomatch hleaves.answer
      · rw [LoginRecord.isSuccess, haim] at hsuccess
        cases hsuccess
    | counted mismatch few live =>
      refine h.counted hzero few rfl ?_ (Bool.and_false _) (fun hleaves => nomatch hleaves.answer)
        (live _ (Nat.le_refl _))
      rw [LoginRecord.isMismatch, haim]
      rfl
    | unended mismatch first now_le calls live =>
      have hlive := live _ (Nat.le_refl _)
      rw [Entry.lasting?_eq, if_pos nofun] at hlive
      exact ⟨1, none, {
        live := hlive
        le := Nat.one_le_iff_ne_zero.mpr htries
        past := h.past_append rfl now_le
        new := fun _ => rfl
        cause := fun _ => Or.inr ⟨rfl, log.records, _, [], rfl,
          { aimed := haim
            wrong := mismatch
            counted := ⟨calls.1, calls.2.1⟩
            expiry := calls.2.2
            answer := ⟨_, rfl⟩ }, nofun⟩
        untimed := fun _ => ⟨nofun, rfl⟩ }⟩

/-- So does anything else that does not write the counter, by any event of the store. -/
theorem store (h : login.DueTo account log count deadline) (event : StoreEvent)
    (hevent : counterKey account ∉ event.written) :
    ∃ count deadline, login.DueTo account (login.stepUnder timeout log (.store event))
      count deadline :=
  h.later (StoreEvent.now_le_effect log.vault event)
    (StoreEvent.live?_effect log.vault event hevent)

end DueTo

/-- After any run the counter is due to the mismatches of the run, by induction on its events. -/
theorem dueTo_logUnder (htries : login.maxTries ≠ 0)
    (hword : login.maxTries ≤ Text.Numeral.maxHalfWord)
    (hzero : login.lockoutWindow.isZero = false) (timeout : Duration) {start : Vault}
    (habsent : start.store.live? start.now (counterKey account) = none)
    {events : List OutageEvent}
    (hevents : ∀ event, .store event ∈ events → counterKey account ∉ event.written) :
    ∃ count deadline, login.DueTo account (login.logUnder timeout start events) count deadline := by
  have hstart : ∃ count deadline, login.DueTo account ⟨start, []⟩ count deadline :=
    ⟨0, none, {
      live := habsent
      le := Nat.zero_le _
      past := nofun
      new := fun _ => rfl
      cause := fun hcount => absurd rfl hcount
      untimed := by
        rintro ⟨before, _, _, heq, -⟩
        cases before <;> cases heq }⟩
  refine List.foldlRecOn (motive := fun log => ∃ count deadline, login.DueTo account log count
    deadline) events (login.stepUnder timeout) hstart ?_
  rintro log ⟨count, deadline, h⟩ event hmem
  cases event with
  | store event => exact h.store event (hevents event hmem)
  | attempt name password treatment => exact h.attempt htries hword hzero name password treatment

/-! ### How long an account is locked out -/

section
variable {log : OutageLog} {count : Nat} {deadline : Option Instant} {counter : Entry}

/-- A counter that is found has the deadline that its mismatches give it, and there is at least one
of them. -/
theorem DueTo.deadline_eq (h : login.DueTo account log count deadline)
    (hlive : log.vault.store.live? log.vault.now (counterKey account) = some counter) :
    count ≠ 0 ∧ counter.deadline = deadline := by
  have hcounter := h.live.symm.trans hlive
  rw [counterOf] at hcounter
  split at hcounter
  · cases hcounter
  · rename_i hcount
    cases hcounter
    exact ⟨hcount, rfl⟩

/-- A counter has the deadline that its first mismatch set, which is ahead, or none. In the first
case the mismatch is among the records, and the end of its window is the deadline. -/
theorem DueTo.deadline_cases (h : login.DueTo account log count deadline)
    (hlive : log.vault.store.live? log.vault.now (counterKey account) = some counter) :
    (∃ opening ∈ log.records, opening.isMismatch login account = true ∧
      counter.deadline = some (opening.instant + login.lockoutWindow.millis) ∧
      log.vault.now < opening.instant + login.lockoutWindow.millis) ∨
    counter.deadline = none := by
  obtain ⟨hcount, rfl⟩ := h.deadline_eq hlive
  refine (h.cause hcount).imp ?_ And.left
  rintro ⟨opening, hmem, hmismatch, hdeadline, -⟩
  exact ⟨opening, hmem, hmismatch, hdeadline, h.lt_deadline hcount _ hdeadline⟩

/-- Without a deadline is the counter that a failed call has left, and no other. So a lockout
without end can be told from the records alone. -/
theorem DueTo.deadline_eq_none_iff (h : login.DueTo account log count deadline) :
    (∃ counter, log.vault.store.live? log.vault.now (counterKey account) = some counter ∧
      counter.deadline = none) ↔ login.Untimed account log.records := by
  constructor
  · rintro ⟨counter, hlive, hnone⟩
    obtain ⟨hcount, rfl⟩ := h.deadline_eq hlive
    rcases h.cause hcount with ⟨_, -, -, hdeadline, -⟩ | ⟨-, huntimed⟩
    · cases hnone.symm.trans hdeadline
    · exact huntimed
  · intro huntimed
    obtain ⟨hcount, hnone⟩ := h.untimed huntimed
    have hlive := h.live
    rw [counterOf, if_neg hcount] at hlive
    exact ⟨_, hlive, hnone⟩

/-- A refusal is due to mismatches that are all less than a window ago, as many as are tolerated, or
to a counter without a deadline. -/
theorem DueTo.recent (h : login.DueTo account log count deadline) (htries : login.maxTries ≠ 0)
    (hmany : login.maxTries ≤ count) :
    login.maxTries ≤ (log.records.countP fun record => record.isMismatch login account &&
      decide (log.vault.now < record.instant + login.lockoutWindow.millis)) ∨
    login.Untimed account log.records := by
  have hcount : count ≠ 0 := fun hzero => htries (Nat.le_zero.mp (hzero ▸ hmany))
  refine (h.cause hcount).imp ?_ And.right
  rintro ⟨opening, -, -, hdeadline, hsince⟩
  -- mismatches since the first are no older than it, and the first is less than a window ago
  have hnow := h.lt_deadline hcount _ hdeadline
  refine Nat.le_trans hmany (Nat.le_trans hsince (List.countP_mono_left fun record _ hrecord => ?_))
  rw [Bool.and_eq_true, decide_eq_true_eq] at hrecord ⊢
  exact ⟨hrecord.1, Nat.lt_of_lt_of_le hnow (Nat.add_le_add_right hrecord.2 _)⟩

end

/-- The counter of an account ends a window after its first mismatch, and a refusal is due to
mismatches less than a window ago. There is one exception, however the calls of the logins are
treated: the call failed that was to set the deadline after the first mismatch was counted. From
then on, until someone logs in, the counter has no deadline. -/
theorem lockout_ends_unless_untimed (login : PasswordLogin) (account : String)
    (htries : login.maxTries ≠ 0) (hword : login.maxTries ≤ Text.Numeral.maxHalfWord)
    (hzero : login.lockoutWindow.isZero = false) (timeout : Duration) (start : Vault)
    (habsent : start.store.live? start.now (counterKey account) = none)
    (events : List OutageEvent)
    (hevents : ∀ event, .store event ∈ events → counterKey account ∉ event.written) :
    let log := login.logUnder timeout start events
    let now := log.vault.now
    let window := login.lockoutWindow.millis
    (∀ counter, log.vault.store.live? now (counterKey account) = some counter →
      (∃ opening ∈ log.records, opening.isMismatch login account = true ∧
        counter.deadline = some (opening.instant + window) ∧ now < opening.instant + window) ∨
      counter.deadline = none) ∧
    ((∃ counter, log.vault.store.live? now (counterKey account) = some counter ∧
      counter.deadline = none) ↔ login.Untimed account log.records) ∧
    ∀ name password treatment, login.isAimedAt account name password = true →
      (Work.runOn timeout treatment (login.authenticate name password) log.vault).1
        = .error .rateLimitExceeded →
      login.maxTries ≤ (log.records.countP fun record =>
        record.isMismatch login account && decide (now < record.instant + window)) ∨
      login.Untimed account log.records := by
  intro log now window
  obtain ⟨count, deadline, h⟩ := dueTo_logUnder htries hword hzero timeout habsent hevents
  refine ⟨fun counter hlive => h.deadline_cases hlive, h.deadline_eq_none_iff, ?_⟩
  intro name password treatment haim hrefused
  have heffect : login.Effect account (login.isWrong name password) treatment log.vault count
      deadline (Work.runOn timeout treatment (login.authenticate name password) log.vault) :=
    effect_authenticate htries hzero h.live (Nat.le_trans h.le hword) h.new haim
  generalize Work.runOn timeout treatment (login.authenticate name password) log.vault = result
    at heffect hrefused
  cases heffect with
  | kept reason now live =>
    rcases reason with ⟨-, hmany⟩ | ⟨⟨_, rfl⟩, -⟩
    · exact h.recent htries hmany
    · cases hrefused
  | cleared live => cases hrefused
  | counted mismatch few live => cases hrefused
  | unended mismatch first now_le calls live => cases hrefused

/-- A wrong password is counted and the deadline is not set. An hour later the right password is
refused, where the window is a minute. -/
theorem lockout_without_end_alice :
    let login : PasswordLogin :=
      { users := .ofList [User.active "alice" "secret"], maxTries := 1
        lockoutWindow := .ofSeconds 60, matchesHash := fun password hash => password == hash }
    let treatment : StoreCall → Treatment
      | .expire .. => .refuses "connection refused"
      | _ => .answers
    let log := login.logUnder .zero ⟨.empty, 0⟩
      [.attempt "alice" "guess" treatment, .store (.pass 3600000)]
    log.vault.store.live? log.vault.now (counterKey "alice") = some ⟨"1", none⟩ ∧
    (Work.answered (login.authenticate "alice" "secret") log.vault).1
      = .error .rateLimitExceeded := by
  decide +kernel

/-- A login that gets no answer from the store, and then one that does: the account is locked after
the second, for a mismatch that is still within the window or for a counter without a time. -/
theorem lockout_ends_unless_untimed_alice :
    let login : PasswordLogin :=
      { users := .ofList [User.active "alice" "secret"], maxTries := 1
        lockoutWindow := .ofSeconds 60, matchesHash := fun password hash => password == hash }
    let events : List OutageEvent :=
      [.attempt "alice" "guess" fun _ => .stalls, .attempt "alice" "guess" fun _ => .answers,
        .store (.pass 30000)]
    let log := login.logUnder (.ofSeconds 1) ⟨.empty, 0⟩ events
    (∀ event, .store event ∈ events → counterKey "alice" ∉ event.written) ∧
    login.isAimedAt "alice" "alice" "secret" = true ∧
    (Work.runOn (.ofSeconds 1) (fun _ => .answers) (login.authenticate "alice" "secret")
      log.vault).1 = .error .rateLimitExceeded ∧
    (1 ≤ (log.records.countP fun record => record.isMismatch login "alice" &&
        decide (log.vault.now < record.instant + login.lockoutWindow.millis)) ∨
      login.Untimed "alice" log.records) := by
  intro login events log
  have hevents : ∀ event, .store event ∈ events → counterKey "alice" ∉ event.written := by
    intro event hmem
    simp only [events, List.mem_cons, OutageEvent.store.injEq, reduceCtorEq, false_or, or_false,
      List.not_mem_nil] at hmem
    rw [hmem]
    exact List.not_mem_nil
  have haim : login.isAimedAt "alice" "alice" "secret" = true := by decide +kernel
  have hrefused : (Work.runOn (.ofSeconds 1) (fun _ => .answers)
      (login.authenticate "alice" "secret") log.vault).1 = .error .rateLimitExceeded := by
    decide +kernel
  exact ⟨hevents, haim, hrefused, (lockout_ends_unless_untimed login "alice" (by decide)
    (by decide) rfl (.ofSeconds 1) ⟨.empty, 0⟩ rfl events hevents).2.2 "alice" "secret"
    (fun _ => .answers) haim hrefused⟩

end PasswordLogin

end AccessGateway
