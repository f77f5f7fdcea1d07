import AccessGateway.Proofs.Credential.Schedule
import AccessGateway.Proofs.Login.Lockout

/-!
# `AccessGateway.Proofs.Login.Concurrency`: guesses that are made at the same time

A login looks at the counter of its account, compares the password, and counts a mismatch. The look
and the count are calls of their own, and the comparison between them takes its time. Logins that
look before any of the others has counted are all let through, however few tries are tolerated.

What the limit still does is stated by how many logins are between look and count at the same time.
With at most one such login at any moment, no more than the tolerated tries are let through; each
further one lets one more through.

* `PasswordLogin.Guess`: the points between the calls of a login with a wrong password. A program in
  the pool is always at one of them, and `Guess.observed` says what can be told of the point from
  the program.
* `PasswordLogin.Guessing`: the invariant of a run. The counter stands at the number of logins that
  have counted, and a login that looks is let through only while that is below the limit.
* `PasswordLogin.Guessing.turn`: a turn keeps the counter in step with the logins.
* `PasswordLogin.letThrough_lt_of_overlap_le`: how many logins are let through in any order of
  turns, and how all are answered.
* `PasswordLogin.letThrough_of_looks_first`: that there is no bound without one on the overlap.

All of it happens within one window. Once that has ended the counting starts anew, as it would for
logins one after another (`Proofs.Login.Lockout`).
-/

set_option autoImplicit false

namespace AccessGateway

open Time (Duration)

namespace PasswordLogin

variable (login : PasswordLogin) (account : String)

/-! ### One login with a wrong password -/

/-- A login has compared the password and has yet to count a mismatch. It is told by the call that
comes next. -/
def isMidway : Program (Outcome Identity) → Bool
  | .call c _ => decide (c = .incr (counterKey account))
  | _ => false

/-- A login was let through to the comparison: it has looked at the counter and was not refused. It
stays so when it is over. -/
def wasLetThrough : Program (Outcome Identity) → Bool
  | .call c _ => decide (c ≠ .get (counterKey account))
  | .done (.error .rateLimitExceeded) => false
  | _ => true

/-- The points between the calls of a login with a wrong password: before the look at the counter,
before the mismatch is counted, before the window is opened, and the two ends. -/
inductive Guess where
  | looking
  | counting
  | opening
  | mismatched
  | refused
  deriving DecidableEq

namespace Guess

/-- What is left to do at a point. Logins at one point do the same from then on. -/
def work : Guess → Work Identity
  | looking => do
    if ← login.isLockedOut account then throw .rateLimitExceeded
    login.recordFailure account
    throw .incorrectCredential
  | counting => do
    login.recordFailure account
    throw .incorrectCredential
  | opening =>
    (do let _ ← Work.expire (counterKey account) login.lockoutWindow) >>= fun _ : Unit =>
      throw .incorrectCredential
  | mismatched => throw .incorrectCredential
  | refused => throw .rateLimitExceeded

/-- The work as a program. -/
def program (guess : Guess) : Program (Outcome Identity) := ExceptT.run (guess.work login account)

/-- The password has been compared and the mismatch not counted. -/
def isCounting : Guess → Bool
  | counting => true
  | _ => false

/-- The mismatch has been counted. -/
def isCounted : Guess → Bool
  | opening | mismatched => true
  | _ => false

/-- The password has been compared. -/
def isLetThrough (guess : Guess) : Bool := guess.isCounted || guess.isCounting

/-- How it was answered, if it was. -/
def answer? : Guess → Option (Outcome Identity)
  | mismatched => some (.error .incorrectCredential)
  | refused => some (.error .rateLimitExceeded)
  | _ => none

/-- The attempts that were let through are those that were counted and those that are about to
be. -/
theorem countP_isLetThrough (guesses : List Guess) :
    guesses.countP isLetThrough = guesses.countP isCounted + guesses.countP isCounting := by
  induction guesses with
  | nil => rfl
  | cons guess rest ih =>
    rw [List.countP_cons, List.countP_cons, List.countP_cons, ih]
    cases guess <;> simp +arith [isLetThrough, isCounted, isCounting]

/-- The look at the counter decides whether an attempt goes on to be counted or is refused. It may
evict a counter that has expired. -/
theorem step_looking (htries : login.maxTries ≠ 0) (vault : Vault) :
    (program login account looking).step .zero .answers vault
      = some (program login account
          (if login.maxTries
              ≤ countOf ((vault.store.live? vault.now (counterKey account)).map Entry.value)
            then refused else counting),
          { vault with store := vault.store.evict vault.now (counterKey account) }) := by
  have hlook : (ExceptT.run (login.isLockedOut account)).step .zero .answers vault
      = some (ExceptT.run (pure (decide (login.maxTries
          ≤ countOf ((vault.store.live? vault.now (counterKey account)).map Entry.value)))),
          { vault with store := vault.store.evict vault.now (counterKey account) }) := by
    rw [isLockedOut, if_neg htries]
    rfl
  rw [program, work, Work.step_bind _ hlook]
  -- what the look says decides on the rest without a further call
  by_cases hmany : login.maxTries
      ≤ countOf ((vault.store.live? vault.now (counterKey account)).map Entry.value)
  · rw [if_pos hmany, decide_eq_true hmany]
    rfl
  · rw [if_neg hmany, decide_eq_false hmany]
    rfl

/-- Counting one more mismatch. The first one goes on to open the window, unless there is none: a
window of no length gives the counter no deadline, and there is nothing left to ask of the store. -/
theorem step_counting (htries : login.maxTries ≠ 0) (vault : Vault) {count : Int}
    {counted : CredentialStore}
    (hincr : vault.store.incr vault.now (counterKey account) = (.ok count, counted)) :
    (program login account counting).step .zero .answers vault
      = some (program login account
          (if count = 1 ∧ login.lockoutWindow.isZero = false then opening else mismatched),
          { vault with store := counted }) := by
  have hask : (ExceptT.run (Work.incr (counterKey account))).step .zero .answers vault
      = some (ExceptT.run (pure count), { vault with store := counted }) := Work.step_ask hincr
  rw [program, work, recordFailure, if_neg htries, Work.step_bind _ (Work.step_bind _ hask)]
  show some (ExceptT.run (ite _ _ _ >>= _), _) = _
  split
  · rfl
  · rfl

/-- Opening the window gives the counter its deadline, and ends the attempt as a mismatch. -/
theorem step_opening (vault : Vault) :
    (program login account opening).step .zero .answers vault
      = some (program login account mismatched,
          { vault with store :=
              (vault.store.expire vault.now (counterKey account) login.lockoutWindow).2 }) := rfl

/-- What shows of a login from outside is the point that it has reached, and its answer if it has
reached an end. -/
theorem observed (htries : login.maxTries ≠ 0) (guess : Guess) :
    isMidway account (guess.program login account) = guess.isCounting ∧
      wasLetThrough account (guess.program login account) = guess.isLetThrough ∧
      (guess.program login account).value? = guess.answer? := by
  cases guess with
  | looking =>
    rw [program, work, isLockedOut, if_neg htries]
    exact ⟨rfl, decide_eq_false fun h => h rfl, rfl⟩
  | counting =>
    rw [program, work, recordFailure, if_neg htries]
    exact ⟨decide_eq_true rfl, rfl, rfl⟩
  | opening => exact ⟨rfl, rfl, rfl⟩
  | mismatched => exact ⟨rfl, rfl, rfl⟩
  | refused => exact ⟨rfl, rfl, rfl⟩

/-- The programs that are between look and count are the attempts that are, so what an observer of
the programs sees is what the invariant speaks of. -/
theorem countP_isMidway (htries : login.maxTries ≠ 0) (guesses : List Guess) :
    (guesses.map (program login account)).countP (isMidway account)
      = guesses.countP isCounting := by
  rw [List.countP_map]
  refine List.countP_congr fun guess _ => ?_
  rw [Function.comp, (guess.observed login account htries).1]

/-- The programs that were let through are the attempts that were: the answer of a login tells a
mismatch from a lockout. -/
theorem countP_wasLetThrough (htries : login.maxTries ≠ 0) (guesses : List Guess) :
    (guesses.map (program login account)).countP (wasLetThrough account)
      = guesses.countP isLetThrough := by
  rw [List.countP_map]
  refine List.countP_congr fun guess _ => ?_
  rw [Function.comp, (guess.observed login account htries).2.1]

end Guess

/-- A login name and a wrong password for an account. The name may be that of the account or its
address. -/
def Misses (user : User) (attempt : String × String) : Prop :=
  attempt.1 ≠ "" ∧ attempt.2 ≠ "" ∧ login.find? attempt.1 = some user ∧
    login.matchesHash attempt.2 user.passwordHash = false

/-- To an active account with a password, such a login begins with the look at the counter: no
earlier guard refuses it, and the password does not match. -/
theorem authenticate_eq_looking {user : User} {attempt : String × String}
    (hstate : user.state = some .active) (hhash : user.passwordHash ≠ "")
    (hmisses : login.Misses user attempt) :
    login.authenticate attempt.1 attempt.2 = Guess.work login user.metadata.name .looking := by
  obtain ⟨hname, hpassword, hfind, hwrong⟩ := hmisses
  have haim : login.isAimedAt user.metadata.name attempt.1 attempt.2 = true := by
    simp [isAimedAt, hname, hpassword, hfind, hstate, hhash]
  have hmismatch : login.isWrong attempt.1 attempt.2 = true := by
    rw [isWrong, hfind, Option.any_some, hwrong]
    rfl
  obtain ⟨_, hlogin⟩ := authenticate_of_isAimedAt haim
  rw [hlogin, hmismatch]
  rfl

/-! ### The counter while a window lasts -/

/-- The counter of an account stands at a count, and ends no earlier than a window that opens at an
instant. Before the first count it is absent, and between the first count and the opening of the
window it has no deadline. -/
def CountsSince (opened : Instant) (count : Nat) (vault : Vault) : Prop :=
  ∃ deadline, vault.store.live? vault.now (counterKey account) = counterOf count deadline ∧
    (count = 0 → deadline = none) ∧
    ∀ d ∈ deadline, login.lockoutWindow.isZero = false ∧
      opened + login.lockoutWindow.millis ≤ d

variable {login} {account}

namespace CountsSince

variable {opened : Instant} {count : Nat} {vault : Vault}

/-- The counter is read as the number of mismatches since the window was opened. The bound is that
of the word it is read as; a larger number would be read as zero. -/
theorem countOf_eq (h : login.CountsSince account opened count vault)
    (hword : count ≤ Text.Numeral.maxHalfWord) :
    countOf ((vault.store.live? vault.now (counterKey account)).map Entry.value) = count := by
  obtain ⟨_, hlive, -, -⟩ := h
  rw [hlive, countOf_counterOf hword]

/-- The counter stays what it is within the window, as long as nothing writes it. -/
theorem later {vault' : Vault} (h : login.CountsSince account opened count vault)
    (hle : vault.now ≤ vault'.now)
    (hwithin : login.lockoutWindow.isZero = false →
      vault'.now < opened + login.lockoutWindow.millis)
    (hsame : vault'.store.live? vault'.now (counterKey account)
      = vault.store.live? vault'.now (counterKey account)) :
    login.CountsSince account opened count vault' := by
  obtain ⟨deadline, hlive, hnew, hdeadline⟩ := h
  refine ⟨deadline, ?_, hnew, hdeadline⟩
  -- a deadline is no earlier than the end of the window, which is still to come
  rw [hsame, CredentialStore.live?_later _ hle, hlive, bind_counterOf_lasting? fun d hd =>
    Nat.lt_of_lt_of_le (hwithin (hdeadline d hd).1) (hdeadline d hd).2]

/-- Counting a mismatch, in a window that is still open: the counter is one more, and keeps its
deadline. -/
theorem incr (h : login.CountsSince account opened count vault)
    (hwithin : login.lockoutWindow.isZero = false →
      vault.now < opened + login.lockoutWindow.millis)
    (hword : count ≤ Text.Numeral.maxHalfWord) :
    ∃ store, vault.store.incr vault.now (counterKey account) = (.ok ((count : Int) + 1), store) ∧
      login.CountsSince account opened (count + 1) { vault with store } := by
  obtain ⟨deadline, hlive, hnew, hdeadline⟩ := h
  obtain ⟨store, hincr, hafter⟩ := incr_counterOf hlive hword hnew
  refine ⟨store, hincr, deadline, ?_, nofun, hdeadline⟩
  show store.live? vault.now (counterKey account) = _
  rw [hafter, if_pos rfl, Entry.lasting?_eq, if_pos fun d hd =>
    Nat.lt_of_lt_of_le (hwithin (hdeadline d hd).1) (hdeadline d hd).2]
  rfl

/-- Opening the window, at an instant not before the one from which it is reckoned here. The
deadline is then no earlier than the one that the invariant asks for. -/
theorem expire (h : login.CountsSince account opened count vault) (hcount : count ≠ 0)
    (hzero : login.lockoutWindow.isZero = false) (hopened : opened ≤ vault.now) :
    login.CountsSince account opened count { vault with store :=
      (vault.store.expire vault.now (counterKey account) login.lockoutWindow).2 } := by
  obtain ⟨deadline, hlive, -, -⟩ := h
  refine ⟨some (vault.now + login.lockoutWindow.millis), ?_, fun h => absurd h hcount, ?_⟩
  · show (vault.store.expire _ _ _).2.live? vault.now _ = _
    rw [CredentialStore.live?_expire _ (Nat.le_refl _), if_pos rfl, hlive, counterOf,
      if_neg hcount, Option.bind_some, Entry.lasting?_eq, if_pos, counterOf, if_neg hcount]
    rintro d ⟨⟩
    refine Nat.lt_add_of_pos_right ?_
    simpa [Duration.isZero, Nat.pos_iff_ne_zero] using hzero
  · rintro d ⟨⟩
    exact ⟨hzero, Nat.add_le_add_right hopened _⟩

end CountsSince

/-! ### Logins at the same time -/

/-- Logins that are made at the same time, with these names and passwords. -/
def atOnce (login : PasswordLogin) (vault : Vault) (attempts : List (String × String)) :
    Pool (Outcome Identity) :=
  ⟨vault, attempts.map fun attempt => ExceptT.run (login.authenticate attempt.1 attempt.2)⟩

/-- A pool of logins with wrong passwords for an account, each at the point that is listed for it.
The mismatches that were counted since an instant are what the counter says. Those let through are
fewer than the limit and the bound together, and a login was refused only if the tolerated
mismatches were counted. -/
structure Guessing (login : PasswordLogin) (account : String) (opened : Instant) (bound : Nat)
    (guesses : List Guess) (pool : Pool (Outcome Identity)) : Prop where
  programs : pool.programs = guesses.map (Guess.program login account)
  counter : login.CountsSince account opened (guesses.countP Guess.isCounted) pool.vault
  started : opened ≤ pool.vault.now
  bounded : guesses.countP Guess.isLetThrough < login.maxTries + bound
  refused : .refused ∈ guesses → login.maxTries ≤ guesses.countP Guess.isCounted
  timed : .opening ∈ guesses → login.lockoutWindow.isZero = false

namespace Guessing

variable {opened : Instant} {bound : Nat} {guesses : List Guess} {pool : Pool (Outcome Identity)}

variable {before after : List Guess}

/-- A step that takes one login from a point to another. The counts are those of the other logins
and one for the login itself. -/
theorem move {guess guess' : Guess} {store : CredentialStore}
    (h : login.Guessing account opened bound (before ++ guess :: after) pool)
    (hcounter : login.CountsSince account opened
      ((before ++ after).countP Guess.isCounted + if guess'.isCounted then 1 else 0)
      { pool.vault with store })
    (hcounted : guess.isCounted = true → guess'.isCounted = true)
    (hbounded : (before ++ after).countP Guess.isLetThrough
      + (if guess'.isLetThrough then 1 else 0) < login.maxTries + bound)
    (hrefused : guess' = .refused →
      login.maxTries ≤ (before ++ guess :: after).countP Guess.isCounted)
    (htimed : guess' = .opening → login.lockoutWindow.isZero = false) :
    login.Guessing account opened bound (before ++ guess' :: after)
      ⟨{ pool.vault with store },
        before.map (Guess.program login account) ++
          guess'.program login account :: after.map (Guess.program login account)⟩ := by
  -- any other login is where it was
  have hmem : ∀ other, other ∈ before ++ guess' :: after →
      guess' = other ∨ other ∈ before ++ guess :: after := by
    intro other hother
    rw [List.mem_append, List.mem_cons] at hother ⊢
    exact hother.elim (fun h => Or.inr (Or.inl h)) fun h =>
      h.elim (fun h => Or.inl h.symm) fun h => Or.inr (Or.inr (Or.inr h))
  -- a login that has counted stays counted, so what was true of the count at a refusal still is
  have hle : (before ++ guess :: after).countP Guess.isCounted
      ≤ (before ++ guess' :: after).countP Guess.isCounted := by
    rw [Pool.countP_place, Pool.countP_place]
    refine Nat.add_le_add_left ?_ _
    split
    · exact Nat.le_of_eq (if_pos (hcounted ‹_›)).symm
    · exact Nat.zero_le _
  exact {
    programs := by rw [List.map_append, List.map_cons]
    counter := by
      rw [Pool.countP_place]
      exact hcounter
    started := h.started
    bounded := by
      rw [Pool.countP_place]
      exact hbounded
    refused := fun hother => Nat.le_trans ((hmem _ hother).elim hrefused h.refused) hle
    timed := fun hother => (hmem _ hother).elim htimed h.timed }

/-- The counter can be read, as far as it may count: the logins that overlap cannot take it beyond a
word. -/
theorem counted_le (h : login.Guessing account opened bound guesses pool)
    (hword : login.maxTries + bound ≤ Text.Numeral.maxHalfWord + 1) :
    guesses.countP Guess.isCounted ≤ Text.Numeral.maxHalfWord := by
  have hbounded := h.bounded
  rw [Guess.countP_isLetThrough] at hbounded
  omega

/-- Opening the window ends the login, whose counter had no deadline until now. -/
theorem open_window (h : login.Guessing account opened bound (before ++ .opening :: after) pool) :
    login.Guessing account opened bound (before ++ .mismatched :: after)
      ⟨{ pool.vault with store :=
          (pool.vault.store.expire pool.vault.now (counterKey account) login.lockoutWindow).2 },
        before.map (Guess.program login account) ++
          Guess.mismatched.program login account :: after.map (Guess.program login account)⟩ := by
  have hopening : (before ++ .opening :: after).countP Guess.isCounted ≠ 0 := by
    rw [Pool.countP_place]
    exact Nat.succ_ne_zero _
  have hcounter := h.counter.expire hopening
    (h.timed (List.mem_append_right _ List.mem_cons_self)) h.started
  have hbounded := h.bounded
  rw [Pool.countP_place] at hcounter hbounded
  exact h.move hcounter (fun _ => rfl) hbounded nofun nofun

section
variable (htries : login.maxTries ≠ 0)
  (hword : login.maxTries + bound ≤ Text.Numeral.maxHalfWord + 1)
include htries hword

/-- A look at the counter refuses the login, or lets one more through. The second case needs the
bound on how many overlap, this login among them. -/
theorem look (h : login.Guessing account opened bound (before ++ .looking :: after) pool)
    (hwithin : login.lockoutWindow.isZero = false →
      pool.vault.now < opened + login.lockoutWindow.millis) :
    ∃ guess' store, (Guess.looking.program login account).step .zero .answers pool.vault
        = some (guess'.program login account, { pool.vault with store }) ∧
      ((before ++ guess' :: after).countP Guess.isCounting ≤ bound →
        login.Guessing account opened bound (before ++ guess' :: after)
          ⟨{ pool.vault with store }, before.map (Guess.program login account) ++
            guess'.program login account :: after.map (Guess.program login account)⟩) := by
  have hstep := Guess.step_looking login account htries pool.vault
  rw [h.counter.countOf_eq (h.counted_le hword)] at hstep
  have hseen : login.CountsSince account opened
      ((before ++ .looking :: after).countP Guess.isCounted)
      { pool.vault with store := pool.vault.store.evict pool.vault.now (counterKey account) } :=
    h.counter.later (Nat.le_refl _) hwithin (CredentialStore.live?_evict _ (Nat.le_refl _) _ _)
  have hbounded := h.bounded
  rw [Pool.countP_place] at hseen hbounded
  refine ⟨_, _, hstep, ?_⟩
  split
  · rename_i hmany
    intro _
    exact h.move hseen nofun hbounded (fun _ => hmany) nofun
  · rename_i hfew
    intro hoverlap
    refine h.move hseen nofun ?_ nofun nofun
    -- of those let through, this login and those that overlap with it are not counted yet
    rw [← Pool.countP_place, Guess.countP_isLetThrough]
    rw [Pool.countP_place Guess.isCounted] at hfew ⊢
    exact Nat.add_lt_add_of_lt_of_le (Nat.lt_of_not_le hfew) hoverlap

/-- Counting a mismatch opens the window or ends the login: the first in a window is to set its
time, and any other is done. -/
theorem count (h : login.Guessing account opened bound (before ++ .counting :: after) pool)
    (hwithin : login.lockoutWindow.isZero = false →
      pool.vault.now < opened + login.lockoutWindow.millis) :
    ∃ guess' store, (Guess.counting.program login account).step .zero .answers pool.vault
        = some (guess'.program login account, { pool.vault with store }) ∧
      login.Guessing account opened bound (before ++ guess' :: after)
        ⟨{ pool.vault with store }, before.map (Guess.program login account) ++
          guess'.program login account :: after.map (Guess.program login account)⟩ := by
  obtain ⟨store, hincr, hcounter⟩ := h.counter.incr hwithin (h.counted_le hword)
  refine ⟨_, store, Guess.step_counting login account htries pool.vault hincr, ?_⟩
  have hbounded := h.bounded
  rw [Pool.countP_place] at hbounded hcounter
  split
  · rename_i hfirst
    exact h.move hcounter nofun hbounded nofun fun _ => hfirst.2
  · exact h.move hcounter nofun hbounded nofun nofun

/-- A turn keeps the counter in step with the logins, within the window and as long as no more of
them overlap than the bound. Its cases are the points at which the login that goes on may be. -/
theorem turn (h : login.Guessing account opened bound guesses pool) (next : Turn)
    (hnext : ∀ event, next = .store event → counterKey account ∉ event.written)
    (hoverlap : (pool.turn next).programs.countP (isMidway account) ≤ bound)
    (hwithin : login.lockoutWindow.isZero = false →
      (pool.turn next).vault.now < opened + login.lockoutWindow.millis) :
    ∃ guesses', login.Guessing account opened bound guesses' (pool.turn next) := by
  cases next with
  | store event =>
    have hle := StoreEvent.now_le_effect pool.vault event
    exact ⟨guesses, {
      programs := h.programs
      counter := h.counter.later hle hwithin
        (StoreEvent.live?_effect pool.vault event (hnext event rfl))
      started := Nat.le_trans h.started hle
      bounded := h.bounded
      refused := h.refused
      timed := h.timed }⟩
  | program place =>
    rcases pool.turn_program place with
      hsame | ⟨before, program, after, program', vault, hprograms, hstep, hnow, hturn⟩
    · rw [hsame]
      exact ⟨guesses, h⟩
    rw [hturn] at hoverlap hwithin ⊢
    -- a step takes no time, so it is taken within the window too
    have hbefore : login.lockoutWindow.isZero = false →
        pool.vault.now < opened + login.lockoutWindow.millis := by
      rw [← hnow]
      exact hwithin
    -- the program that goes on is that of a login at some point, between the others
    obtain ⟨before, rest, rfl, rfl, hrest⟩ :=
      List.map_eq_append_iff.mp (h.programs.symm.trans hprograms)
    obtain ⟨guess, after, rfl, rfl, rfl⟩ := List.map_eq_cons_iff.mp hrest
    cases guess with
    | looking =>
      obtain ⟨guess', store, hlook, hnext⟩ := h.look htries hword hbefore
      cases hstep.symm.trans hlook
      rw [← List.map_cons, ← List.map_append, Guess.countP_isMidway _ _ htries] at hoverlap
      exact ⟨_, hnext hoverlap⟩
    | counting =>
      obtain ⟨guess', store, hcount, hnext⟩ := h.count htries hword hbefore
      cases hstep.symm.trans hcount
      exact ⟨_, hnext⟩
    | opening =>
      cases hstep.symm.trans (Guess.step_opening login account pool.vault)
      exact ⟨_, h.open_window⟩
    | mismatched => cases hstep
    | refused => cases hstep

end

end Guessing

/-- All logins begin with a look at the counter, since none of them is refused for what it was
given. -/
theorem programs_atOnce {user : User} (hstate : user.state = some .active)
    (hhash : user.passwordHash ≠ "") (start : Vault) {attempts : List (String × String)}
    (hattempts : ∀ attempt ∈ attempts, login.Misses user attempt) :
    (login.atOnce start attempts).programs
      = (List.replicate attempts.length .looking).map (Guess.program login user.metadata.name) := by
  rw [atOnce, List.map_replicate, List.eq_replicate_iff]
  refine ⟨List.length_map _, fun program hprogram => ?_⟩
  obtain ⟨attempt, hattempt, rfl⟩ := List.mem_map.mp hprogram
  rw [login.authenticate_eq_looking hstate hhash (hattempts attempt hattempt), Guess.program]

/-- As long as no mismatch is counted, one look after the other lets a login through, since each
finds no counter. -/
theorem programs_run_looks (htries : login.maxTries ≠ 0) (before after : Nat)
    {pool : Pool (Outcome Identity)}
    (hprograms : pool.programs = (List.replicate before Guess.counting ++
      List.replicate after Guess.looking).map (Guess.program login account))
    (habsent : pool.vault.store.live? pool.vault.now (counterKey account) = none) :
    (pool.run ((List.range' before after).map .program)).programs
      = (List.replicate (before + after) .counting).map (Guess.program login account) := by
  -- by induction on the looks to come, with one more of those that have looked in each step
  induction after generalizing before pool with
  | zero =>
    rw [List.replicate_zero, List.append_nil] at hprograms
    exact hprograms
  | succ after ih =>
    -- the next look also finds no counter, as those before it have written nothing
    have hfew : ¬ login.maxTries ≤ countOf none := Nat.not_le.mpr (Nat.pos_of_ne_zero htries)
    have hstep := Guess.step_looking login account htries pool.vault
    rw [habsent, Option.map_none, if_neg hfew] at hstep
    have hplace : pool.programs[before]? = some (Guess.program login account .looking) := by
      rw [hprograms, List.getElem?_map, List.getElem?_append_right (by simp)]
      simp [List.replicate_succ]
    have hset : (List.replicate before Guess.counting ++
          List.replicate (after + 1) Guess.looking).set before .counting
        = List.replicate (before + 1) Guess.counting ++ List.replicate after Guess.looking := by
      rw [List.set_append_right _ _ (by simp), List.length_replicate, Nat.sub_self,
        List.replicate_succ, List.set_cons_zero, List.replicate_succ', List.append_assoc]
      rfl
    rw [List.range'_succ, List.map_cons, Pool.run, List.foldl_cons, Pool.turn_of_step hplace hstep,
      Nat.add_comm after 1, ← Nat.add_assoc]
    refine ih (before + 1) ?_ ?_
    · rw [hprograms, ← List.map_set, hset]
    · exact (CredentialStore.live?_evict _ (Nat.le_refl _) _ _).trans habsent

/-- Logins with wrong passwords for one account, made at the same time and within one lockout
window, get past the look at its counter in a number that depends on how many of them are between
the comparison and the count at once: with at most `bound` such logins at any moment, fewer than
`maxTries + bound` are let through. All that are let through are told that the password is wrong,
and all others that they were too many, which happens only when the tolerated mismatches have been
counted. -/
theorem letThrough_lt_of_overlap_le (login : PasswordLogin) (user : User)
    (hstate : user.state = some .active) (hhash : user.passwordHash ≠ "")
    (htries : login.maxTries ≠ 0) (attempts : List (String × String))
    (hattempts : ∀ attempt ∈ attempts, login.Misses user attempt) (start : Vault)
    (habsent : start.store.live? start.now (counterKey user.metadata.name) = none)
    (turns : List Turn)
    (hturns : ∀ event, .store event ∈ turns → counterKey user.metadata.name ∉ event.written)
    (bound : Nat) (hword : login.maxTries + bound ≤ Text.Numeral.maxHalfWord + 1)
    (hmoments : ∀ moment ∈ (login.atOnce start attempts).moments turns,
      moment.programs.countP (isMidway user.metadata.name) ≤ bound ∧
      (login.lockoutWindow.isZero = false →
        moment.vault.now < start.now + login.lockoutWindow.millis)) :
    let final := (login.atOnce start attempts).run turns
    let counter := final.vault.store.live? final.vault.now (counterKey user.metadata.name)
    final.programs.countP (wasLetThrough user.metadata.name) < login.maxTries + bound ∧
    ∀ program ∈ final.programs, ∀ answer ∈ program.value?,
      (wasLetThrough user.metadata.name program = true ∧ answer = .error .incorrectCredential) ∨
      (wasLetThrough user.metadata.name program = false ∧ answer = .error .rateLimitExceeded ∧
        login.maxTries ≤ countOf (counter.map Entry.value)) := by
  intro final counter
  -- the points of the single logins change with every turn, so the invariant hides them
  let guessing := fun pool => ∃ guesses,
    login.Guessing user.metadata.name start.now bound guesses pool
  have hstart : guessing (login.atOnce start attempts) := by
    exact ⟨_, {
      programs := programs_atOnce hstate hhash start hattempts
      counter := by
        rw [List.countP_replicate, if_neg (by decide)]
        exact ⟨none, habsent, fun _ => rfl, nofun⟩
      started := Nat.le_refl _
      bounded := by
        simp [List.countP_replicate, Guess.isLetThrough, Guess.isCounted, Guess.isCounting]
        omega
      refused := by simp
      timed := by simp }⟩
  have hfinal : guessing final := by
    refine Pool.run_induction hmoments hstart ?_
    rintro pool next hnext ⟨guesses, h⟩ hmoment
    exact h.turn htries hword next (fun event heq => hturns event (heq ▸ hnext)) hmoment.1 hmoment.2
  obtain ⟨guesses, h⟩ := hfinal
  rw [h.programs, Guess.countP_wasLetThrough _ _ htries]
  refine ⟨h.bounded, fun program hprogram answer hanswer => ?_⟩
  obtain ⟨guess, hguess, rfl⟩ := List.mem_map.mp hprogram
  obtain ⟨-, hthrough, hvalue⟩ := guess.observed login user.metadata.name htries
  rw [hvalue] at hanswer
  rw [hthrough]
  -- only a login at one of its two ends has an answer
  cases guess with
  | looking => cases hanswer
  | counting => cases hanswer
  | opening => cases hanswer
  | mismatched =>
    cases hanswer
    exact Or.inl ⟨rfl, rfl⟩
  | refused =>
    cases hanswer
    refine Or.inr ⟨rfl, rfl, ?_⟩
    rw [h.counter.countOf_eq (h.counted_le hword)]
    exact h.refused hguess

/-- However few tries are tolerated, logins that all look at the counter before the first of them
counts a mismatch are all let through. -/
theorem letThrough_of_looks_first (login : PasswordLogin) (user : User)
    (hstate : user.state = some .active) (hhash : user.passwordHash ≠ "")
    (htries : login.maxTries ≠ 0) (attempts : List (String × String))
    (hattempts : ∀ attempt ∈ attempts, login.Misses user attempt) (start : Vault)
    (habsent : start.store.live? start.now (counterKey user.metadata.name) = none) :
    ((login.atOnce start attempts).run
        ((List.range attempts.length).map .program)).programs.countP
      (wasLetThrough user.metadata.name) = attempts.length := by
  have hlooks := programs_run_looks htries 0 attempts.length
    (programs_atOnce hstate hhash start hattempts) habsent
  rw [List.range_eq_range', hlooks, Guess.countP_wasLetThrough _ _ htries, List.countP_replicate]
  simp [Guess.isLetThrough, Guess.isCounting]

/-- Two guesses at a time for an account that tolerates one. Both ask for the count before either
has raised it, so both get to the comparison and neither is told of the limit. -/
theorem letThrough_alice :
    let user := User.active "alice" "secret"
    let login : PasswordLogin :=
      { users := .ofList [user], maxTries := 1, lockoutWindow := .ofSeconds 60
        matchesHash := fun password hash => password == hash }
    let pool := login.atOnce ⟨.empty, 0⟩ [("alice", "guess"), ("alice", "sesame")]
    let turns : List Turn := [.program 0, .program 1, .program 0, .program 0, .program 1]
    (pool.run turns).programs.map Program.value?
      = [some (.error .incorrectCredential), some (.error .incorrectCredential)] := by
  decide +kernel

/-- Two guesses at a time, and a third one that comes after: the two are let through and the third
is not, which is as many as an overlap of two admits. -/
theorem letThrough_lt_of_overlap_le_alice :
    let user := User.active "alice" "secret"
    let login : PasswordLogin :=
      { users := .ofList [user], maxTries := 1, lockoutWindow := .ofSeconds 60
        matchesHash := fun password hash => password == hash }
    let attempts := [("alice", "guess"), ("alice", "sesame"), ("alice", "password")]
    let start : Vault := ⟨.empty, 0⟩
    let turns : List Turn :=
      [.program 0, .program 1, .program 0, .program 0, .store (.pass 500), .program 1, .program 2]
    (∀ attempt ∈ attempts, login.Misses user attempt) ∧
    (∀ moment ∈ (login.atOnce start attempts).moments turns,
      moment.programs.countP (isMidway "alice") ≤ 2 ∧
        (login.lockoutWindow.isZero = false →
          moment.vault.now < start.now + login.lockoutWindow.millis)) ∧
    ((login.atOnce start attempts).run turns).programs.countP (wasLetThrough "alice")
      < login.maxTries + 2 := by
  intro user login attempts start turns
  have hfind : login.find? "alice" = some user :=
    (find?_ofList_eq_some_iff rfl (by decide)).mpr
      ⟨⟨[], [], rfl, List.forall_mem_nil _⟩, rfl, rfl⟩
  have hattempts : ∀ attempt ∈ attempts, login.Misses user attempt := by
    simp only [attempts, List.forall_mem_cons]
    exact ⟨⟨by decide, by decide, hfind, by decide⟩, ⟨by decide, by decide, hfind, by decide⟩,
      ⟨by decide, by decide, hfind, by decide⟩, List.forall_mem_nil _⟩
  have hturns : ∀ event, .store event ∈ turns → counterKey user.metadata.name ∉ event.written := by
    intro event hmem
    simp only [turns, List.mem_cons, Turn.store.injEq, reduceCtorEq, false_or, or_false,
      List.not_mem_nil] at hmem
    rw [hmem]
    exact List.not_mem_nil
  have hmoments : ∀ moment ∈ (login.atOnce start attempts).moments turns,
      moment.programs.countP (isMidway "alice") ≤ 2 ∧
        (login.lockoutWindow.isZero = false →
          moment.vault.now < start.now + login.lockoutWindow.millis) := by
    decide +kernel
  exact ⟨hattempts, hmoments, (letThrough_lt_of_overlap_le login user rfl (by decide) (by decide)
    attempts hattempts start rfl turns hturns 2 (by decide) hmoments).1⟩

end PasswordLogin

end AccessGateway
