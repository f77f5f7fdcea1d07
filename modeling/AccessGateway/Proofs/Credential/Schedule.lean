import AccessGateway.Proofs.Credential.Run

/-!
# `AccessGateway.Proofs.Credential.Schedule`: programs that share a store

Requests that are served at the same time are programs of their own over one store. A call to the
store is atomic and nothing else about a program is, so between two calls of one program any number
of calls of the others may come. A `Pool` is such programs with their store, and a `Turn` says which
of them goes on. A list of turns is a schedule; results for every schedule hold however the requests
are interleaved.

* `Work.step_bind`: work goes on where its first part does.
* `Pool.turn_program`: a turn of a program does one step of it, or nothing. It takes the list of
  programs apart around the one that goes on, so that counts over the pool change by that one.
* `Pool.exists_run_eq_finish`: turns of one program alone do what `Program.run` does, so requests
  that do not overlap are among the schedules.
* `Pool.run_induction`: what every turn keeps, holds after a run. The step may use what is known of
  every moment of the run, such as a bound on how many programs are at a certain point at once.

The store of a pool answers every call: overlapping requests are what is looked at here, and faults
of the store are looked at on their own (`Proofs.Credential.Calls`).
-/

set_option autoImplicit false

namespace AccessGateway

open Time (Duration)

/-! ### Steps of work -/

namespace Work

variable {α β : Type} {timeout : Duration} {vault vault' : Vault}

/-- Work goes on where its first part does. -/
theorem step_bind {treatment : Treatment} {work work' : Work α} (next : α → Work β)
    (hstep : (ExceptT.run work).step timeout treatment vault
      = some (ExceptT.run work', vault')) :
    (ExceptT.run (work >>= next)).step timeout treatment vault
      = some (ExceptT.run (work' >>= next), vault') := by
  show (Program.bind (ExceptT.run work) (ExceptT.bindCont next)).step _ _ _
    = some (Program.bind (ExceptT.run work') (ExceptT.bindCont next), vault')
  -- binding goes down to where the first part ends, so the step is the one of its head
  cases hwork : ExceptT.run work with
  | done value =>
    rw [hwork] at hstep
    cases hstep
  | clock tick =>
    rw [hwork] at hstep
    cases hstep
    rfl
  | call c reply =>
    rw [hwork] at hstep
    cases hstep
    rfl

/-- A call that the store answers is over after one step. -/
theorem step_ask {c : StoreCall} {reply : c.Reply} {store : CredentialStore}
    (hanswer : c.answer vault.store vault.now = (.ok reply, store)) :
    (ExceptT.run (ask c)).step timeout .answers vault
      = some (ExceptT.run (pure reply), { vault with store }) := by
  show some (Program.done (c.answer vault.store vault.now).1,
    { vault with store := (c.answer vault.store vault.now).2 }) = _
  rw [hanswer]
  rfl

end Work

namespace Program

variable {α : Type}

/-- The value of a program that is done, and nothing while it has steps left. -/
def value? : Program α → Option α
  | done value => some value
  | _ => none

/-- A step on a store that answers takes no time. -/
theorem now_of_step {timeout : Duration} {vault vault' : Vault}
    {program program' : Program α}
    (hstep : program.step timeout .answers vault = some (program', vault')) :
    vault'.now = vault.now := by
  cases program with
  | done value => cases hstep
  | clock next =>
    cases hstep
    rfl
  | call c next =>
    cases hstep
    rfl

/-- A step of a program does not change what the program comes to. -/
theorem run_of_step {timeout : Duration} {vault vault' : Vault} {program program' : Program α}
    (hstep : program.step timeout .answers vault = some (program', vault')) :
    program.run timeout (fun _ => .answers) vault
      = program'.run timeout (fun _ => .answers) vault' := by
  cases program with
  | done value => cases hstep
  | clock next =>
    cases hstep
    rfl
  | call c next =>
    cases hstep
    rfl

end Program

/-! ### Pools -/

/-- Programs over one store. Each has its place in the list for as long as the pool runs, also when
it is done. -/
structure Pool (α : Type) where
  vault : Vault
  programs : List (Program α)

/-- What comes next: something that happens to the store, or a step of the program at a place. -/
inductive Turn where
  | store (event : StoreEvent)
  | program (place : Nat)

namespace Pool

variable {α : Type}

/-- The pool after a turn. The store answers every call, and a program that is done stays so. -/
def turn (pool : Pool α) : Turn → Pool α
  | .store event => { pool with vault := event.effect pool.vault }
  | .program place =>
    match pool.programs[place]?.bind fun program => program.step .zero .answers pool.vault with
    | some (program, vault) => ⟨vault, pool.programs.set place program⟩
    | none => pool

/-- The pool after a run. -/
def run (pool : Pool α) (turns : List Turn) : Pool α := turns.foldl turn pool

/-- The pool at all moments of a run, from its start to its end: one before the first turn and one
after each turn. -/
def moments (pool : Pool α) : List Turn → List (Pool α)
  | [] => [pool]
  | next :: rest => pool :: (pool.turn next).moments rest

/-- A turn of a program that is not done is one step of it, on the store that all share. -/
theorem turn_of_step {pool : Pool α} {place : Nat} {program program' : Program α} {vault : Vault}
    (hplace : pool.programs[place]? = some program)
    (hstep : program.step .zero .answers pool.vault = some (program', vault)) :
    pool.turn (.program place) = ⟨vault, pool.programs.set place program'⟩ := by
  rw [turn, hplace, Option.bind_some, hstep]

/-- A turn of a program does one step of it, or nothing if it is done or there is none at that
place. The others are where they were, and no time passes. -/
theorem turn_program (pool : Pool α) (place : Nat) :
    pool.turn (.program place) = pool ∨
      ∃ before program after program' vault,
        pool.programs = before ++ program :: after ∧
        program.step .zero .answers pool.vault = some (program', vault) ∧
        vault.now = pool.vault.now ∧
        pool.turn (.program place) = ⟨vault, before ++ program' :: after⟩ := by
  rw [turn]
  split
  · rename_i program' vault hstep
    obtain ⟨program, hprogram, hstep⟩ := Option.bind_eq_some_iff.mp hstep
    obtain ⟨hplace, hget⟩ := List.getElem?_eq_some_iff.mp hprogram
    refine Or.inr ⟨pool.programs.take place, program, pool.programs.drop (place + 1), program',
      vault, ?_, hstep, Program.now_of_step hstep, ?_⟩
    · rw [← hget, List.getElem_cons_drop, List.take_append_drop]
    · rw [List.set_eq_take_append_cons_drop, if_pos hplace]
  · exact Or.inl rfl

/-- The pool after all the work of the program at a place, with nothing in between. The other
programs have not moved. -/
def finish (pool : Pool α) (place : Nat) (program : Program α) : Pool α :=
  let (value, vault) := program.run .zero (fun _ => .answers) pool.vault
  ⟨vault, pool.programs.set place (.done value)⟩

/-- A turn of a program leaves its own place to what is left of it, and what the pool would come to
if this program went on alone is the same before and after. -/
theorem finish_turn {pool : Pool α} {place : Nat} {program program' : Program α} {vault : Vault}
    (hplace : pool.programs[place]? = some program)
    (hstep : program.step .zero .answers pool.vault = some (program', vault)) :
    (pool.turn (.program place)).programs[place]? = some program' ∧
      (pool.turn (.program place)).finish place program' = pool.finish place program := by
  rw [turn_of_step hplace hstep, finish, finish, Program.run_of_step hstep]
  exact ⟨List.getElem?_set_self (List.getElem?_eq_some_iff.mp hplace).1,
    congrArg (Pool.mk _) (List.set_set ..)⟩

/-- Turns of one program, with no other in between, do what the program does by itself. How many
turns it takes depends on the answers that it gets. -/
theorem exists_run_eq_finish {pool : Pool α} {place : Nat} {program : Program α}
    (hplace : pool.programs[place]? = some program) :
    ∃ turns, pool.run (List.replicate turns (.program place)) = pool.finish place program := by
  induction program generalizing pool with
  | done value =>
    refine ⟨0, ?_⟩
    show pool = ⟨pool.vault, pool.programs.set place (.done value)⟩
    rw [← (List.getElem?_eq_some_iff.mp hplace).2, List.set_getElem_self]
  | clock next ih =>
    obtain ⟨hnext, hfinish⟩ := finish_turn hplace rfl
    obtain ⟨turns, hturns⟩ := ih _ hnext
    exact ⟨turns + 1, hturns.trans hfinish⟩
  | call c next ih =>
    obtain ⟨hnext, hfinish⟩ := finish_turn hplace rfl
    obtain ⟨turns, hturns⟩ := ih _ hnext
    exact ⟨turns + 1, hturns.trans hfinish⟩

/-- What is at a place counts for itself. With it the counts over a pool before and after a turn
differ in one summand. -/
theorem countP_place {β : Type} (p : β → Bool) (before after : List β) (here : β) :
    (before ++ here :: after).countP p = (before ++ after).countP p + if p here then 1 else 0 := by
  rw [List.countP_append, List.countP_append, List.countP_cons, Nat.add_assoc]

/-- What holds at the start of a run and is kept by its turns, as far as every moment of the run
allows, holds at its end. The moments give the steps a condition that the schedule has to meet, and
that no single turn could establish. -/
theorem run_induction {P Q : Pool α → Prop} {pool : Pool α} {turns : List Turn}
    (hmoments : ∀ moment ∈ pool.moments turns, Q moment) (hstart : P pool)
    (hturn : ∀ pool, ∀ next ∈ turns, P pool → Q (pool.turn next) → P (pool.turn next)) :
    P (pool.run turns) := by
  induction turns generalizing pool with
  | nil => exact hstart
  | cons next rest ih =>
    -- what is left of the run starts with the moment after this turn
    have hfirst : pool.turn next ∈ (pool.turn next).moments rest := by
      cases rest <;> exact List.mem_cons_self
    refine ih (fun moment hmoment => hmoments moment (List.mem_cons_of_mem _ hmoment)) ?_
      fun pool' next' hnext => hturn pool' next' (List.mem_cons_of_mem _ hnext)
    exact hturn pool next List.mem_cons_self hstart
      (hmoments _ (List.mem_cons_of_mem _ hfirst))

end Pool

end AccessGateway
