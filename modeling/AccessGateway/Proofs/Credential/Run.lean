import AccessGateway.Proofs.Credential.Store

/-!
# `AccessGateway.Proofs.Credential.Run`: work runs step by step

`Program.run` does a whole program at once. The equations here take it apart where the program
is put together, so that a result about some work is read off the results of its parts.

* `Program.run_bind`: a program goes on where its first part stopped.
* `Work.runOn_bind`: so does work, unless its first part failed. `Work.runOn_bind_of_ok` and
  `Work.runOn_bind_of_error` are the two cases, and `Work.answered` is the run on a store that
  answers every call, with the same two.
* `StoreCall.written`, `StoreCall.live?_answer`: a call leaves alone the keys that it does not
  write. Of the other keys it may evict what has expired.
* `StoreEvent.live?_effect`: what happens to a store between two pieces of work leaves alone the
  keys it does not write.

A `StoreEvent` stands for whatever else goes on around some work: time, calls of other requests, and
the removal of expired entries in the background.
-/

set_option autoImplicit false

namespace AccessGateway

open Time (Duration)

/-! ### Programs and work -/

namespace Program

variable {α β : Type}

/-- A program that goes on with nothing is the program, one of the laws of a monad. -/
theorem bind_done (program : Program α) : program.bind done = program := by
  induction program with
  | done value => rfl
  | clock tick ih => exact congrArg clock (funext ih)
  | call c reply ih => exact congrArg (call c) (funext ih)

/-- A program goes on where its first part stopped, with the value of that part and on the store
that it left. -/
theorem run_bind (timeout : Duration) (treatment : StoreCall → Treatment) (program : Program α)
    (next : α → Program β) (vault : Vault) :
    (program.bind next).run timeout treatment vault
      = (next (program.run timeout treatment vault).1).run timeout treatment
          (program.run timeout treatment vault).2 := by
  induction program generalizing vault with
  | done value => rfl
  | clock tick ih => exact ih vault.now vault
  | call c reply ih => exact ih _ _

end Program

namespace Work

variable {α β : Type}

/-- Does all of some work on a store. The outcome is a value or the fault that ended the work, and
the store is left as it was then. -/
def runOn (timeout : Duration) (treatment : StoreCall → Treatment) (work : Work α)
    (vault : Vault) : Outcome α × Vault :=
  Program.run timeout treatment (ExceptT.run work) vault

section
variable (timeout : Duration) (treatment : StoreCall → Treatment) (vault : Vault)

/-- Work goes on where its first part stopped. It is a program whose value may be a fault, so its
sequencing is that of programs. -/
theorem runOn_bind (work : Work α) (next : α → Work β) :
    runOn timeout treatment (work >>= next) vault
      = Program.run timeout treatment
          (ExceptT.bindCont next (runOn timeout treatment work vault).1)
          (runOn timeout treatment work vault).2 :=
  Program.run_bind timeout treatment (ExceptT.run work) (ExceptT.bindCont next) vault

/-- Work whose first part succeeds goes on with the value, in the vault that the first part left. -/
theorem runOn_bind_of_ok {work : Work α} {value : α} {vault' : Vault} (next : α → Work β)
    (hwork : runOn timeout treatment work vault = (.ok value, vault')) :
    runOn timeout treatment (work >>= next) vault
      = runOn timeout treatment (next value) vault' := by
  rw [runOn_bind, hwork]
  rfl

/-- Work whose first part fails stops there, and the vault stays as that part left it. -/
theorem runOn_bind_of_error {work : Work α} {fault : Fault} {vault' : Vault}
    (next : α → Work β) (hwork : runOn timeout treatment work vault = (.error fault, vault')) :
    runOn timeout treatment (work >>= next) vault = (.error fault, vault') := by
  rw [runOn_bind, hwork]
  rfl

end

/-- Does all of some work on a store that answers every call. Without calls that are cut off the
store timeout does not matter. -/
def answered (work : Work α) (vault : Vault) : Outcome α × Vault :=
  runOn .zero (fun _ => .answers) work vault

/-- Reading the clock, which changes nothing and takes no time. -/
theorem answered_now (vault : Vault) : answered now vault = (.ok vault.now, vault) := rfl

/-- What needs no store leaves it alone, whether it succeeds or fails. -/
theorem answered_ofOutcome (outcome : Outcome α) (vault : Vault) :
    answered (ofOutcome outcome) vault = (outcome, vault) := rfl

/-- Work on a store that answers goes on with the value of its first part. -/
theorem answered_bind_of_ok {work : Work α} {value : α} {vault vault' : Vault}
    (next : α → Work β) (hwork : answered work vault = (.ok value, vault')) :
    answered (work >>= next) vault = answered (next value) vault' :=
  runOn_bind_of_ok _ _ _ next hwork

/-- Work on a store that answers stops where its first part failed. -/
theorem answered_bind_of_error {work : Work α} {fault : Fault} {vault vault' : Vault}
    (next : α → Work β) (hwork : answered work vault = (.error fault, vault')) :
    answered (work >>= next) vault = (.error fault, vault') :=
  runOn_bind_of_error _ _ _ next hwork

end Work

/-! ### What happens between two pieces of work -/

/-- What happens to a store: time passes, a call is made, or all expired entries are removed. The
history of a store is a list of these. -/
inductive StoreEvent where
  | pass (elapsed : Nat)
  | call (call : StoreCall)
  | reap
  deriving DecidableEq

/-- The keys whose records a call may change. -/
def StoreCall.written : StoreCall → List String
  | .keys _ => []
  | .get _ => []
  | .set key _ _ => [key]
  | .del names => names
  | .exists _ => []
  | .expire key _ => [key]
  | .incr key => [key]

/-- A call leaves alone the keys it does not write, as seen from its own instant on. -/
theorem StoreCall.live?_answer (s : CredentialStore) {now later : Instant} (hle : now ≤ later)
    (c : StoreCall) {key : String} (hkey : key ∉ c.written) :
    (c.answer s now).2.live? later key = s.live? later key := by
  cases c with
  | keys pattern => rfl
  | get name => exact CredentialStore.live?_get s hle name key
  | set name value lifetime =>
    have hne : key ≠ name := fun h => hkey (h ▸ List.mem_singleton_self key)
    exact (CredentialStore.live?_set s now later name value lifetime key).trans (if_neg hne)
  | del names => exact (CredentialStore.live?_del s now later names key).trans (if_neg hkey)
  | «exists» names => exact CredentialStore.live?_exists s hle names key
  | expire name lifetime =>
    have hne : key ≠ name := fun h => hkey (h ▸ List.mem_singleton_self key)
    exact (CredentialStore.live?_expire s hle name lifetime key).trans (if_neg hne)
  | incr name =>
    have hne : key ≠ name := fun h => hkey (h ▸ List.mem_singleton_self key)
    show (s.incr now name).2.live? later key = _
    cases hread : Text.Numeral.readInt
        ((s.live? now name).getD CredentialStore.zeroEntry).value.toList with
    | ok n =>
      exact ((CredentialStore.incr_of_readInt s now name hread).2 later key).trans (if_neg hne)
    | error fault => rw [CredentialStore.incr_of_readInt_error s now name hread]

namespace StoreEvent

/-- The store and the clock afterwards. A call and a removal take no time of their own. -/
def effect (vault : Vault) : StoreEvent → Vault
  | pass elapsed => { vault with now := vault.now + elapsed }
  | call c => { vault with store := (c.answer vault.store vault.now).2 }
  | reap => { vault with store := (vault.store.reap vault.now).2 }

/-- The keys whose records a call may change. The two look-ups evict expired entries at most, which
is no change to be seen. -/
def written : StoreEvent → List String
  | pass _ | reap => []
  | call c => c.written

/-- The clock does not run backwards, whatever happens to the store. -/
theorem now_le_effect (vault : Vault) (event : StoreEvent) :
    vault.now ≤ (event.effect vault).now := by
  cases event with
  | pass elapsed => exact Nat.le_add_right _ _
  | call c => exact Nat.le_refl _
  | reap => exact Nat.le_refl _

/-- An event leaves alone the keys it does not write: what is seen of them afterwards is what would
have been seen then without it. -/
theorem live?_effect (vault : Vault) (event : StoreEvent) {key : String}
    (hkey : key ∉ event.written) :
    (event.effect vault).store.live? (event.effect vault).now key
      = vault.store.live? (event.effect vault).now key := by
  cases event with
  | pass elapsed => rfl
  | call c => exact c.live?_answer vault.store (Nat.le_refl _) hkey
  | reap => exact CredentialStore.live?_reap vault.store (Nat.le_refl _) key

end StoreEvent

end AccessGateway
