import AccessGateway.Credential.Store

/-!
# `AccessGateway.Credential.Program`: work done by store calls

Logging in, issuing tokens and revoking them each take several calls to the credential store,
and other requests may come between them. A `Program` is such work with every call explicit:
one call is atomic, may fail, and may never answer, in which case it is cut off after the
store timeout. `Program.run` does all of it on one store; `Program.step` does one step, so that the
steps of several programs can be put in any order.

A `Work` is a program whose value may be a fault. The calls of `Work` end it when they fail; a
program that has to go on after a failure asks with `Program.ask` and looks at the answer.
-/

set_option autoImplicit false

namespace AccessGateway

open Time (Duration)

/-- A call to the credential store. What each does is the operation of `CredentialStore` of that
name. -/
inductive StoreCall where
  | keys (pattern : String)
  | get (key : String)
  | set (key value : String) (lifetime : Option Duration)
  | del (keys : List String)
  | exists (keys : List String)
  | expire (key : String) (lifetime : Duration)
  | incr (key : String)
  deriving DecidableEq

namespace StoreCall

/-- What a call answers when it succeeds. -/
def Reply : StoreCall → Type
  | .keys _ => List String
  | .get _ => Option String
  | .set .. => Unit
  | .del _ => Nat
  | .exists _ => Bool
  | .expire .. => Bool
  | .incr _ => Int

/-- The kind of a call, by name. -/
def name : StoreCall → String
  | .keys _ => "keys"
  | .get _ => "get"
  | .set .. => "set"
  | .del _ => "del"
  | .exists _ => "exists"
  | .expire .. => "expire"
  | .incr _ => "incr"

/-- The answer of a store to a call at an instant, and the store afterwards. A call whose answer is
a fault leaves the store as it was. -/
def answer (s : CredentialStore) (now : Instant) :
    (call : StoreCall) → Outcome call.Reply × CredentialStore
  | .keys pattern => (s.keys now pattern, s)
  | .get key => let (value, s) := s.get now key; (.ok value, s)
  | .set key value lifetime => (.ok (), s.set now key value lifetime)
  | .del names => let (count, s) := s.del now names; (.ok count, s)
  | .exists names => let (found, s) := CredentialStore.exists s now names; (.ok found, s)
  | .expire key lifetime => let (found, s) := s.expire now key lifetime; (.ok found, s)
  | .incr key => s.incr now key

end StoreCall

/-- Work that reads the clock, calls the credential store and ends with a value. What comes after a
call depends on its answer, which may be a fault. -/
inductive Program (α : Type) where
  | done (value : α)
  | clock (next : Instant → Program α)
  | call (call : StoreCall) (next : Outcome call.Reply → Program α)

namespace Program

variable {α β : Type}

/-- Goes on with the value of a program. The clock readings and calls of the first part stay in
front. -/
def bind : Program α → (α → Program β) → Program β
  | done value, f => f value
  | clock next, f => clock fun now => (next now).bind f
  | call c next, f => call c fun reply => (next reply).bind f

instance : Monad Program where
  pure := done
  bind := bind

/-- One call; its failure is the value. -/
def ask (c : StoreCall) : Program (Outcome c.Reply) := call c done

/-- The instant at which this point is reached. -/
def now : Program Instant := clock done

end Program

/-- Work that may fail. -/
abbrev Work (α : Type) := ExceptT Fault Program α

namespace Work

/-- One call, whose failure ends the work. -/
def ask (c : StoreCall) : Work c.Reply := ExceptT.mk (Program.ask c)

/-- The instant at which this point is reached. -/
def now : Work Instant := ExceptT.lift Program.now

/-- The keys that match a pattern. -/
def keys (pattern : String) : Work (List String) := ask (.keys pattern)

/-- The value under a key. -/
def get (key : String) : Work (Option String) := ask (.get key)

/-- Sets value and lifetime of a key. -/
def set (key value : String) (lifetime : Option Duration) : Work Unit :=
  ask (.set key value lifetime)

/-- Removes keys and counts them. -/
def del (keys : List String) : Work Nat := ask (.del keys)

/-- Whether all keys are there. -/
def «exists» (keys : List String) : Work Bool := ask (.exists keys)

/-- Sets the lifetime of a key, and says whether it was there. -/
def expire (key : String) (lifetime : Duration) : Work Bool := ask (.expire key lifetime)

/-- Counts the number under a key up by one. -/
def incr (key : String) : Work Int := ask (.incr key)

/-- What needs no store. -/
def ofOutcome {α : Type} (outcome : Outcome α) : Work α := ExceptT.mk (.done outcome)

end Work

/-- How the store treats a call: it answers, refuses with a reason, or never answers. The in-process
store answers always; a shared one may do any of these. -/
inductive Treatment where
  | answers
  | refuses (reason : String)
  | stalls
  deriving DecidableEq

/-- A store with its clock, in milliseconds since 1970. Tokens are dated by the same clock as
deadlines. -/
structure Vault where
  store : CredentialStore
  now : Instant

namespace Vault

/-- A call that got no answer within the store timeout. -/
def timedOut (timeout : Duration) : Fault :=
  .backend ("credential store timed out after " ++ timeout.display)

/-- Makes one call. A call that never answers takes the store timeout and has no effect, and neither
has one that is refused. -/
def perform (timeout : Duration) (treatment : Treatment) (vault : Vault) (call : StoreCall) :
    Outcome call.Reply × Vault :=
  match treatment with
  | .answers =>
    let (reply, store) := call.answer vault.store vault.now
    (reply, { vault with store })
  | .refuses reason => (.error (.backend reason), vault)
  | .stalls => (.error (timedOut timeout), { vault with now := vault.now + timeout.millis })

end Vault

namespace Program

variable {α : Type}

/-- Does all the work of a program, with nothing in between. The treatment of a call depends on the
call alone, so that the same call is treated alike whenever it is made. -/
def run (timeout : Duration) (treatment : StoreCall → Treatment) :
    Program α → Vault → α × Vault
  | done value, vault => (value, vault)
  | clock next, vault => (next vault.now).run timeout treatment vault
  | call c next, vault =>
    let (reply, vault) := vault.perform timeout (treatment c) c
    (next reply).run timeout treatment vault

/-- Does the next step of a program, if it is not done: one reading of the clock or one call. Steps
of other programs may come before the next. -/
def step (timeout : Duration) (treatment : Treatment) :
    Program α → Vault → Option (Program α × Vault)
  | done _, _ => none
  | clock next, vault => some (next vault.now, vault)
  | call c next, vault =>
    let (reply, vault) := vault.perform timeout treatment c
    some (next reply, vault)

end Program

end AccessGateway
