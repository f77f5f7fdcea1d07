import AccessGateway.Http.Response

/-!
# `AccessGateway.Proofs.Fault`: what success says

Work that may fail succeeds only when each of its steps does, and no failure is answered with the
status of a success. What is known of a step is therefore used by taking the whole apart at its
result, and the failures need not be looked at.

* `Outcome.bind_eq_ok_iff`, `Outcome.map_eq_ok_iff`: the steps of work that succeeded.
* `Outcome.foldlM_induction`, `Outcome.exists_foldlM_eq_ok`: what each step keeps holds at the end,
  and the end is reached when no step fails. The readers of queries are such folds over the
  parameters.
* `Response.eq_ok_of_status`: an answer with status 200 carries a result.
-/

set_option autoImplicit false

namespace AccessGateway

namespace Outcome

variable {α β : Type} {outcome : Outcome α} {value : β}

/-- Two steps succeed when the first does, and the second does on its result, whatever a failure
carries. -/
theorem bind_eq_ok_iff {ε : Type} {outcome : Except ε α} {next : α → Except ε β} :
    (outcome >>= next) = .ok value ↔ ∃ result, outcome = .ok result ∧ next result = .ok value := by
  cases outcome with
  | error fault => exact ⟨nofun, fun ⟨_, h, _⟩ => nomatch h⟩
  | ok result => exact ⟨fun h => ⟨result, rfl, h⟩, fun ⟨_, h, hnext⟩ => Except.ok.inj h ▸ hnext⟩

/-- A result that was converted comes from one that was not, and a conversion adds no failure. -/
theorem map_eq_ok_iff {f : α → β} :
    outcome.map f = .ok value ↔ ∃ result, outcome = .ok result ∧ f result = value := by
  cases outcome with
  | error fault => exact ⟨nofun, fun ⟨_, h, _⟩ => nomatch h⟩
  | ok result =>
    exact ⟨fun h => ⟨result, rfl, Except.ok.inj h⟩,
      fun ⟨_, h, hvalue⟩ => congrArg Except.ok (Except.ok.inj h ▸ hvalue)⟩

/-- A conversion that the next one does not notice may be left out. -/
theorem map_map_of_forall {f : α → α} {g : α → β} (h : ∀ result, g (f result) = g result) :
    (outcome.map f).map g = outcome.map g := by
  cases outcome with
  | error fault => rfl
  | ok result => exact congrArg Except.ok (h result)

section
variable {ε σ : Type} {step : σ → α → Except ε σ} {items : List α} {start final : σ}

/-- What holds at the start and is kept by each step that succeeds holds at the end, once the end is
reached. The invariant may speak of the items that were taken so far. -/
theorem foldlM_induction {holds : List α → σ → Prop} (hstart : holds [] start)
    (hstep : ∀ taken item state next, holds taken state → step state item = .ok next →
      holds (taken ++ [item]) next)
    (hfold : items.foldlM step start = .ok final) : holds items final := by
  suffices hrest : ∀ (rest taken : List α) (state : σ), holds taken state →
      rest.foldlM step state = .ok final → holds (taken ++ rest) final from
    hrest items [] start hstart hfold
  intro rest
  induction rest with
  | nil =>
    intro taken state hstate hfold
    cases hfold
    rwa [List.append_nil]
  | cons item rest ih =>
    intro taken state hstate hfold
    obtain ⟨next, hnext, hfold⟩ := bind_eq_ok_iff.mp hfold
    have hlast := ih (taken ++ [item]) next (hstep taken item state next hstate hnext) hfold
    rwa [List.append_assoc] at hlast

/-- When each item is taken in every state, all items are. -/
theorem exists_foldlM_eq_ok (hstep : ∀ item ∈ items, ∀ state, ∃ next, step state item = .ok next)
    (start : σ) : ∃ final, items.foldlM step start = .ok final := by
  induction items generalizing start with
  | nil => exact ⟨start, rfl⟩
  | cons item rest ih =>
    obtain ⟨next, hnext⟩ := hstep item List.mem_cons_self start
    have hrest := fun other hother => hstep other (List.mem_cons_of_mem item hother)
    obtain ⟨final, hfinal⟩ := ih hrest next
    exact ⟨final, bind_eq_ok_iff.mpr ⟨next, hnext, hfinal⟩⟩

end

end Outcome

/-- No failure has the status of a success, so a status of 200 cannot hide one. -/
theorem Fault.status_ne_ok (fault : Fault) : fault.status ≠ 200 := by
  cases fault <;> simp [status]

/-- An answer with status 200 carries a result: what failed would have another status. -/
theorem Response.eq_ok_of_status {outcome : Outcome Json}
    (hstatus : (Response.ofOutcome outcome).status = 200) : ∃ value, outcome = .ok value := by
  cases outcome with
  | ok value => exact ⟨value, rfl⟩
  | error fault => exact absurd hstatus fault.status_ne_ok

end AccessGateway
