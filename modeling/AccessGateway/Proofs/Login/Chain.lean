import AccessGateway.Login.Request
import AccessGateway.Proofs.Credential.World

/-!
# `AccessGateway.Proofs.Login.Chain`: what a chain of authenticators comes to

A chain asks its authenticators in order and carries the first failure along, in case nobody claims
the request. Here it is compared with a look at the findings of all of them (`Finding.conclusion`),
in which nothing is carried along. The comparison is made in any world (`Proofs.Credential.World`),
so it covers stores that fail, other requests in between, and a count of the calls that are made.

* `RequestAuthenticator.chainFrom_bind_goOn`: a chain goes on from what its first part came to, with
  the failures of both kept in order.
* `RequestAuthenticator.chain_nest`: a chain within a chain does what its authenticators would do in
  its place.
* `RequestAuthenticator.runIn_chainFrom`: a failure that is carried along counts as a finding in
  front of the others. It is the statement that the induction over a chain needs, as the chain
  behind an authenticator that has failed starts with a failure.
* `RequestAuthenticator.chain_conclusion`: what a chain comes to in any surroundings, and whom it
  asks for that.
-/

set_option autoImplicit false

namespace AccessGateway

/-! ### Findings -/

/-- What an authenticator finds: who made the request, nothing that concerns it, or a failure. A
chain finds one of these as well. -/
abbrev Finding := Outcome (Option Identity)

namespace Finding

/-- The authenticator claims the request. -/
def isMatch : Finding → Bool
  | .ok (some _) => true
  | _ => false

/-- The authenticator failed. -/
def isFault : Finding → Bool
  | .error _ => true
  | _ => false

/-- What findings come to: the first match, or else the first fault, or else nothing. A fault in
front of a match does not count. -/
def conclusion (findings : List Finding) : Finding :=
  ((findings.find? isMatch).or (findings.find? isFault)).getD (.ok none)

/-- A failure that is carried along, as a finding, so that a chain in the middle of its work can be
compared with a row of findings. -/
def carried (first : Option Fault) : List Finding := first.toList.map .error

section
variable (first : Option Fault) (rest : List Finding)

/-- A match is the conclusion, whatever fault was carried to it: faults count only where nobody
claims the request. -/
theorem conclusion_carried_match (identity : Identity) :
    conclusion (carried first ++ .ok (some identity) :: rest) = .ok (some identity) := by
  cases first <;> rfl

/-- An authenticator that does not claim the request changes nothing about what is carried. -/
theorem conclusion_carried_none :
    conclusion (carried first ++ .ok none :: rest) = conclusion (carried first ++ rest) := by
  cases first <;> rfl

/-- A fault is carried on unless one is carried already, since the first one counts. -/
theorem conclusion_carried_fault (fault : Fault) :
    conclusion (carried first ++ .error fault :: rest)
      = conclusion (carried (first <|> some fault) ++ rest) := by
  cases first <;> rfl

end

end Finding

namespace RequestAuthenticator

open Finding (isMatch conclusion carried)

variable (headers : Headers) (first : Option Fault)

/-! ### Parts of a chain -/

/-- How a chain goes on after a finding, with the failure that it carries along. -/
def goOn (rest : List RequestAuthenticator) : Finding → Program Finding
  | .ok (some identity) => return .ok (some identity)
  | .ok none => chainFrom headers first rest
  | .error fault => chainFrom headers (first <|> some fault) rest

/-- At the end of a chain the fault that was carried is the answer, or nothing is, when no
authenticator claimed the request. -/
theorem chainFrom_nil : chainFrom headers first [] = return conclusion (carried first) := by
  cases first <;> rfl

/-- A chain asks its first authenticator and goes on with what that one found, which ends it, is
carried, or is passed over. -/
theorem chainFrom_cons (authenticator : RequestAuthenticator) (rest : List RequestAuthenticator) :
    chainFrom headers first (authenticator :: rest)
      = (authenticator headers).run >>= goOn headers first rest := by
  rw [chainFrom]
  refine congrArg _ (funext fun finding => ?_)
  match finding with
  | .ok (some identity) => rfl
  | .ok none => rfl
  | .error fault => rfl

/-- A chain of one authenticator is that authenticator. -/
theorem chain_singleton (authenticator : RequestAuthenticator) :
    chain [authenticator] = authenticator := by
  funext headers
  have hlast : goOn headers none [] = (pure : Finding → Program Finding) := by
    funext finding
    match finding with
    | .ok (some identity) => rfl
    | .ok none => rfl
    | .error fault => rfl
  show chainFrom headers none [authenticator] = (authenticator headers).run
  rw [chainFrom_cons, hlast, bind_pure]

/-- A chain goes on from what its first part came to. A failure from before that part counts for
more than one inside it, and that for more than one from behind it. -/
theorem chainFrom_bind_goOn (inside : Option Fault) (part rest : List RequestAuthenticator) :
    chainFrom headers inside part >>= goOn headers first rest
      = chainFrom headers (first <|> inside) (part ++ rest) := by
  induction part generalizing inside with
  | nil =>
    rw [chainFrom_nil, pure_bind, List.nil_append]
    cases inside with
    | none => cases first <;> rfl
    | some fault => rfl
  | cons authenticator others ih =>
    rw [List.cons_append, chainFrom_cons, chainFrom_cons, bind_assoc]
    refine congrArg _ (funext fun finding => ?_)
    match finding with
    | .ok (some identity) => rfl
    | .ok none => exact ih inside
    | .error fault =>
      -- of three failures the first one counts, whichever two are compared first
      have hfirst : (first <|> (inside <|> some fault)) = ((first <|> inside) <|> some fault) := by
        cases first <;> rfl
      exact (ih (inside <|> some fault)).trans (congrArg (chainFrom headers · _) hfirst)

/-- A chain within a chain goes on as its authenticators do in its place. The failures inside count
from there, behind those that were carried in. -/
theorem chainFrom_nest (inner after : List RequestAuthenticator) :
    chainFrom headers first (chain inner :: after) = chainFrom headers first (inner ++ after) :=
  calc chainFrom headers first (chain inner :: after)
    _ = chainFrom headers none inner >>= goOn headers first after := chainFrom_cons ..
    _ = chainFrom headers (first <|> none) (inner ++ after) := chainFrom_bind_goOn ..
    _ = chainFrom headers first (inner ++ after) := by cases first <;> rfl

/-- The authenticators of a chain within a chain may stand in its place. They make the same calls in
the same order. -/
theorem chain_nest (before inner after : List RequestAuthenticator) :
    chain (before ++ chain inner :: after) = chain (before ++ inner ++ after) := by
  funext headers
  have hplace : goOn headers none (chain inner :: after) = goOn headers none (inner ++ after) := by
    funext finding
    match finding with
    | .ok (some identity) => rfl
    | .ok none => exact chainFrom_nest headers none inner after
    | .error fault => exact chainFrom_nest headers (some fault) inner after
  show chainFrom headers none (before ++ chain inner :: after)
    = chainFrom headers none (before ++ inner ++ after)
  calc chainFrom headers none (before ++ chain inner :: after)
    _ = chainFrom headers none before >>= goOn headers none (chain inner :: after) :=
        (chainFrom_bind_goOn headers none none before _).symm
    _ = chainFrom headers none before >>= goOn headers none (inner ++ after) := by rw [hplace]
    _ = chainFrom headers none (before ++ (inner ++ after)) := chainFrom_bind_goOn ..
    _ = chainFrom headers none (before ++ inner ++ after) := by rw [List.append_assoc]

/-! ### A chain in the world -/

/-- Asks every authenticator, whatever the others found. It is what a chain would be that does not
stop. -/
def askEach (authenticators : List RequestAuthenticator) : Program (List Finding) :=
  authenticators.mapM fun authenticator => (authenticator headers).run

variable {σ : Type} (world : World σ)

/-- Asking each authenticator in turn hands the state of the world from one to the next, as a chain
does up to its match. -/
theorem runIn_askEach_cons (authenticator : RequestAuthenticator)
    (rest : List RequestAuthenticator) (state : σ) :
    (askEach headers (authenticator :: rest)).runIn world state
      = let (finding, next) := (authenticator headers).run.runIn world state
        let (findings, last) := (askEach headers rest).runIn world next
        (finding :: findings, last) := by
  rw [askEach, List.mapM_cons, Program.runIn_bind, Program.runIn_bind]
  rfl

/-- A failure that is carried along counts as a finding in front of the others. The world is left as
by the authenticators up to the first match, and none behind it is asked. -/
theorem runIn_chainFrom (authenticators : List RequestAuthenticator) (state : σ) :
    let findings := ((askEach headers authenticators).runIn world state).1
    let asked := authenticators.take (findings.findIdx isMatch + 1)
    (chainFrom headers first authenticators).runIn world state
      = (conclusion (carried first ++ findings),
        ((askEach headers asked).runIn world state).2) := by
  -- the failure that is carried along and the state of the world change from step to step
  induction authenticators generalizing first state with
  | nil =>
    rw [chainFrom_nil]
    show (conclusion (carried first), state) = (conclusion (carried first ++ []), state)
    rw [List.append_nil]
  | cons authenticator rest ih =>
    intro findings asked
    rcases hrun : (authenticator headers).run.runIn world state with ⟨finding, next⟩
    have hfindings : findings = finding :: ((askEach headers rest).runIn world next).1 := by
      show ((askEach headers (authenticator :: rest)).runIn world state).1 = _
      rw [runIn_askEach_cons, hrun]
    have hasked : ∀ others, ((askEach headers (authenticator :: others)).runIn world state).2
        = ((askEach headers others).runIn world next).2 := by
      intro others
      rw [runIn_askEach_cons, hrun]
    show _ = (conclusion (carried first ++ findings),
      ((askEach headers ((authenticator :: rest).take (findings.findIdx isMatch + 1))).runIn
        world state).2)
    rw [chainFrom_cons, Program.runIn_bind, hrun, hfindings, List.take_succ_cons, hasked]
    match finding with
    | .ok (some identity) =>
      rw [Finding.conclusion_carried_match]
      rfl
    | .ok none =>
      rw [Finding.conclusion_carried_none, List.findIdx_cons]
      exact ih first next
    | .error fault =>
      rw [Finding.conclusion_carried_fault, List.findIdx_cons]
      exact ih (first <|> some fault) next

/-- In any surroundings, a store among them (`Program.run_eq_runIn`), a chain comes to the first
match among the findings of its authenticators, or else to the first fault, or else to nothing. No
authenticator behind the first match is asked: the world is left as by the ones up to that match,
and so is a world that remembers every call. A chain within a chain is the same as its
authenticators in its place. -/
theorem chain_conclusion (authenticators : List RequestAuthenticator) (state : σ) :
    let findings := ((askEach headers authenticators).runIn world state).1
    let asked := authenticators.take (findings.findIdx isMatch + 1)
    (chain authenticators headers).run.runIn world state
      = (conclusion findings, ((askEach headers asked).runIn world state).2) ∧
    ∀ before inner after : List RequestAuthenticator,
      chain (before ++ chain inner :: after) = chain (before ++ inner ++ after) :=
  ⟨runIn_chainFrom headers none world authenticators state, chain_nest⟩

/-- A match counts for more than the failures before it, also those of a chain before it. -/
example (headers : Headers) :
    (chain [fun _ => throw (.backend "down"),
      chain [fun _ => return none, fun _ => throw .incorrectCredential],
      fun _ => return some (.named "alice"), fun _ => return some (.named "bob")] headers).run
        = return .ok (some (.named "alice")) := rfl

end RequestAuthenticator

end AccessGateway
