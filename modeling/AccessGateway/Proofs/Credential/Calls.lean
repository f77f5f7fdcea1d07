import AccessGateway.Proofs.Credential.Run

/-!
# `AccessGateway.Proofs.Credential.Calls`: work on a store that may fail

A call may be refused, or cut off when it takes too long, and then it has no effect. Which calls
a program makes, and so which keys it may write, does not depend on that: `Program.Spares` looks at
the calls of a program under all answers, those included that the store at hand would not give.

* `Vault.perform_cases`: a call is answered, or it fails and only time passes.
* `Vault.IsOutage`, `Work.runOn_ask_of_not_answers`, `Work.isOutage_bind`: work that comes to an end
  with such a call.
* `Treatment.fault?`, `Work.runOn_ask_of_fault?`: the fault that it then comes back with.
* `Program.Spares.live?_run`: a program leaves alone the keys that it never writes, however its
  calls are treated.

`Vault.Shows` says what a store has from an instant on. It is about all later instants, so it is
kept by a call that fails and lets time pass.
-/

set_option autoImplicit false

namespace AccessGateway

open Time (Duration)

variable {α β : Type} {timeout : Duration}

namespace Vault

/-- A call is answered, or it fails with a fault of the store and has no effect, though time may
pass. Results about failing stores split here, and nowhere on the kinds of failure. -/
theorem perform_cases (timeout : Duration) (treatment : Treatment) (vault : Vault) (c : StoreCall) :
    (treatment = .answers ∧ vault.perform timeout treatment c
      = ((c.answer vault.store vault.now).1,
          { vault with store := (c.answer vault.store vault.now).2 })) ∨
    (treatment ≠ .answers ∧ ∃ reason now, vault.now ≤ now ∧
      vault.perform timeout treatment c = (.error (.backend reason), { vault with now })) := by
  cases treatment with
  | answers => exact Or.inl ⟨rfl, rfl⟩
  | refuses reason => exact Or.inr ⟨nofun, reason, vault.now, Nat.le_refl _, rfl⟩
  | stalls => exact Or.inr ⟨nofun, _, _, Nat.le_add_right _ _, rfl⟩

/-- A call does not turn the clock back: it takes no time when it is answered, and some when it
stalls. -/
theorem now_le_perform (timeout : Duration) (treatment : Treatment) (vault : Vault)
    (c : StoreCall) : vault.now ≤ (vault.perform timeout treatment c).2.now := by
  rcases vault.perform_cases timeout treatment c with ⟨-, heq⟩ | ⟨-, _, _, hle, heq⟩
  · exact Nat.le_of_eq (congrArg (fun result => result.2.now) heq).symm
  · rw [heq]
    exact hle

/-- A call leaves alone the keys that it does not write, also when it fails. -/
theorem live?_perform {treatment : Treatment} {vault : Vault} {c : StoreCall} {key : String}
    (hkey : key ∉ c.written) {later : Instant}
    (hle : (vault.perform timeout treatment c).2.now ≤ later) :
    (vault.perform timeout treatment c).2.store.live? later key = vault.store.live? later key := by
  rcases vault.perform_cases timeout treatment c with ⟨-, heq⟩ | ⟨-, _, _, _, heq⟩
  · rw [heq] at hle ⊢
    exact c.live?_answer vault.store hle hkey
  · rw [heq]

/-- What the store has from now on: at every later instant each look-up gives what is said here. -/
def Shows (vault : Vault) (records : Instant → String → Option Entry) : Prop :=
  ∀ later, vault.now ≤ later → ∀ key, vault.store.live? later key = records later key

/-- Work came to an end with a call that failed, and only time passed. What the store holds is what
it held before. -/
def IsOutage (vault : Vault) (result : Outcome α × Vault) : Prop :=
  ∃ reason now, vault.now ≤ now ∧ result = (.error (.backend reason), { vault with now })

/-- What the store has from a moment on it also has from a later one, so work that was cut short by
the store leaves it as it was. -/
theorem IsOutage.shows {vault : Vault} {result : Outcome α × Vault}
    {records : Instant → String → Option Entry} (h : vault.IsOutage result)
    (hshows : vault.Shows records) :
    ∃ reason after, result = (.error (.backend reason), after) ∧ after.Shows records := by
  obtain ⟨reason, now, hnow, rfl⟩ := h
  exact ⟨reason, _, rfl, fun later hlater => hshows later (Nat.le_trans hnow hlater)⟩

end Vault

/-- The fault that a call comes back with when it is not answered. Both are faults of the store,
with the reason as their text. -/
def Treatment.fault? (timeout : Duration) : Treatment → Option Fault
  | answers => none
  | refuses reason => some (.backend reason)
  | stalls => some (Vault.timedOut timeout)

/-- Only a call that is answered comes back without a fault of the store. -/
theorem Treatment.fault?_eq_none_iff {treatment : Treatment} :
    treatment.fault? timeout = none ↔ treatment = .answers := by
  cases treatment <;> simp [fault?]

namespace Program

/-- Whatever its calls are answered, the program makes none that writes the key. The condition is on
the tree of calls, with a branch for every answer. -/
def Spares (key : String) : Program α → Prop
  | done _ => True
  | clock next => ∀ now, (next now).Spares key
  | call c next => key ∉ c.written ∧ ∀ reply, (next reply).Spares key

variable {key : String} {treatment : StoreCall → Treatment}

/-- A program spares a key when both of its parts do, the second one for every value of the
first. -/
theorem Spares.bind {program : Program α} {next : α → Program β} (h : program.Spares key)
    (hnext : ∀ value, (next value).Spares key) : (program.bind next).Spares key := by
  induction program with
  | done value => exact hnext value
  | clock tick ih => exact fun now => ih now (h now)
  | call c reply ih => exact ⟨h.1, fun answer => ih answer (h.2 answer)⟩

/-- Nor does a whole program, by induction on its calls. -/
theorem now_le_run (program : Program α) (vault : Vault) :
    vault.now ≤ (program.run timeout treatment vault).2.now := by
  induction program generalizing vault with
  | done value => exact Nat.le_refl _
  | clock tick ih => exact ih _ vault
  | call c reply ih => exact Nat.le_trans (vault.now_le_perform timeout _ c) (ih _ _)

/-- A program leaves alone the keys that it never writes, whatever happens to its calls. They are
seen afterwards as they would have been without it. -/
theorem Spares.live?_run {program : Program α} (h : program.Spares key) (vault : Vault)
    {later : Instant} (hle : (program.run timeout treatment vault).2.now ≤ later) :
    (program.run timeout treatment vault).2.store.live? later key
      = vault.store.live? later key := by
  -- the induction is on the program, and what is left of it spares the key whatever was answered
  induction program generalizing vault with
  | done value => rfl
  | clock tick ih => exact ih _ (h _) vault hle
  | call c reply ih =>
    -- time only passes, so the call itself was over by then
    exact (ih _ (h.2 _) _ hle).trans
      (Vault.live?_perform h.1 (Nat.le_trans (now_le_run _ _) hle))

end Program

namespace Work

variable {key : String}

/-- The work makes no call that writes the key. -/
def Spares (key : String) (work : Work α) : Prop := Program.Spares key (ExceptT.run work)

/-- Work does so as a program. Where its first part fails there is no second. -/
theorem Spares.bind {work : Work α} {next : α → Work β} (h : work.Spares key)
    (hnext : ∀ value, (next value).Spares key) : (work >>= next).Spares key := by
  refine Program.Spares.bind h fun outcome => ?_
  cases outcome with
  | ok value => exact hnext value
  | error fault => trivial

/-- A call that is answered: the work has the answer, and the vault the store behind it. -/
theorem runOn_ask_of_answers (timeout : Duration) {treatment : StoreCall → Treatment}
    (vault : Vault) {c : StoreCall} {outcome : Outcome c.Reply} {store : CredentialStore}
    (htreatment : treatment c = .answers)
    (hanswer : c.answer vault.store vault.now = (outcome, store)) :
    runOn timeout treatment (ask c) vault = (outcome, { vault with store }) := by
  show vault.perform timeout (treatment c) c = _
  rw [htreatment]
  show ((c.answer vault.store vault.now).1,
    { vault with store := (c.answer vault.store vault.now).2 }) = _
  rw [hanswer]

/-- A call that is not answered ends in an outage, whichever way it fails. -/
theorem runOn_ask_of_not_answers (timeout : Duration) {treatment : StoreCall → Treatment}
    (vault : Vault) {c : StoreCall} (htreatment : treatment c ≠ .answers) :
    vault.IsOutage (runOn timeout treatment (ask c) vault) :=
  (vault.perform_cases timeout (treatment c) c).elim (fun h => absurd h.1 htreatment) And.right

/-- Nothing comes after a call that failed, so an outage of the first part is one of the whole. -/
theorem isOutage_bind {treatment : StoreCall → Treatment} {vault : Vault} {work : Work α}
    (next : α → Work β) (h : vault.IsOutage (runOn timeout treatment work vault)) :
    vault.IsOutage (runOn timeout treatment (work >>= next) vault) := by
  obtain ⟨reason, now, hnow, hwork⟩ := h
  exact ⟨reason, now, hnow, runOn_bind_of_error _ _ _ next hwork⟩

/-- A call fails with the fault of its treatment, at a time that the treatment says. -/
theorem runOn_ask_of_fault? {timeout : Duration} {treatment : StoreCall → Treatment}
    (vault : Vault) {c : StoreCall} {fault : Fault}
    (h : (treatment c).fault? timeout = some fault) :
    ∃ after, runOn timeout treatment (ask c) vault = (.error fault, after) := by
  show ∃ after, vault.perform timeout (treatment c) c = (.error fault, after)
  generalize treatment c = how at h ⊢
  cases how with
  | answers => cases h
  | refuses reason => cases h; exact ⟨_, rfl⟩
  | stalls => cases h; exact ⟨_, rfl⟩

end Work

end AccessGateway
