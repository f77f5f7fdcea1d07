import AccessGateway.Proofs.Credential.Run

/-!
# `AccessGateway.Proofs.Credential.World`: programs in any surroundings

`Program.run` gives a program a store to itself. What holds however the calls of a program are
answered is said of a `World` instead, which is anything that shows a clock and answers calls. Its
states are of any kind: they may hold a store, what other requests will do to it between two calls,
and a list of all that was ever asked. A result for every world is therefore one about the program
alone, and says which calls it makes and when, since a world may write them down.

* `Program.bind_assoc`: programs are put together by the laws of sequencing. With it `Program` is a
  lawful monad, and its programs may be regrouped by the library's lemmas.
* `Program.runIn_bind`: in every world a program goes on where its first part stopped.
* `Program.run_eq_runIn`: a store that treats each call in a way of its own is a world, so what
  holds in every world holds of `Program.run`.
-/

set_option autoImplicit false

namespace AccessGateway

open Time (Duration)

/-! ### Sequencing -/

/-- It does not matter which two of three programs are put together first. -/
theorem Program.bind_assoc {α β γ : Type} (program : Program α) (next : α → Program β)
    (last : β → Program γ) :
    (program.bind next).bind last = program.bind fun value => (next value).bind last := by
  induction program with
  | done value => rfl
  | clock tick ih => exact congrArg clock (funext ih)
  | call c reply ih => exact congrArg (call c) (funext ih)

instance : LawfulMonad Program :=
  LawfulMonad.mk' Program Program.bind_done (fun _ _ => rfl) Program.bind_assoc

/-! ### Worlds -/

/-- What a program may meet: in each state the clock shows an instant and each call is answered, and
either may leave another state. Nothing ties the answers to what was asked before. -/
structure World (σ : Type) where
  clock : σ → Instant × σ
  reply : (call : StoreCall) → σ → Outcome call.Reply × σ

/-- A store and its clock, where the treatment of a call depends on the call alone. It is the world
in which `Program.run` runs. -/
def World.ofTreatment (timeout : Duration) (treatment : StoreCall → Treatment) : World Vault where
  clock vault := (vault.now, vault)
  reply c vault := vault.perform timeout (treatment c) c

namespace Program

variable {α β σ : Type}

/-- Does all the work of a program in a world, and gives its value with the state that the world is
left in. -/
def runIn (world : World σ) : Program α → σ → α × σ
  | done value, state => (value, state)
  | clock next, state =>
    let (now, state) := world.clock state
    (next now).runIn world state
  | call c next, state =>
    let (reply, state) := world.reply c state
    (next reply).runIn world state

/-- In every world a program goes on where its first part stopped. -/
theorem runIn_bind (world : World σ) (program : Program α) (next : α → Program β) (state : σ) :
    (program >>= next).runIn world state
      = (next (program.runIn world state).1).runIn world (program.runIn world state).2 := by
  induction program generalizing state with
  | done value => rfl
  | clock tick ih => exact ih _ _
  | call c reply ih => exact ih _ _

/-- A program on a store is a program in a world. -/
theorem run_eq_runIn (timeout : Duration) (treatment : StoreCall → Treatment)
    (program : Program α) (vault : Vault) :
    program.run timeout treatment vault = program.runIn (.ofTreatment timeout treatment) vault := by
  induction program generalizing vault with
  | done value => rfl
  | clock tick ih => exact ih _ _
  | call c reply ih => exact ih _ _

end Program

end AccessGateway
