import AccessGateway.Proofs.Cluster.Selector
import AccessGateway.Proofs.Lists

/-!
# `AccessGateway.Proofs.Cluster.Requirement`: selectors built step by step

A selector is built by steps, each of which requires a label to have a value or to be present. It
keeps one requirement for each key, so what it asks in the end is what the last step of each key
asked, and earlier steps count as far as that one covers them. A step that requires only presence,
taken after one that requires a value of the same label, takes that value back.

What a selector enforces can be read off its requirements (`Selector.forall_meets_iff`): it accepts
the labels that have just what it requires, with any text as the value where it requires none. So
each law of conjunction holds for exactly those rows of steps for which the requirements show it,
and the conditions below are necessary as well as sufficient.

* `Selector.getElem?_requirements_ofSteps`: the last step of a key decides what is required of it.
* `Selector.accepts_ofSteps_iff`: labels are accepted when they meet the last step of each key.
* `Selector.forall_holds_iff`: what a row of steps enforces.
* `Selector.conjunction_laws`: when all steps add up, when a further step only narrows, and when
  the order of the steps makes no difference.

`Step.Covers` is what connects the laws: between two steps about one label, the one that requires a
value covers the one that requires presence, and each covers itself.
-/

set_option autoImplicit false

namespace AccessGateway.Selector

/-- A step in which a selector is built. Rows of steps are the programs that build selectors. -/
inductive Step where
  /-- Requires a value of a label. -/
  | withLabel (key value : String)
  /-- Requires a label to be present. -/
  | withKey (key : String)
  deriving DecidableEq

namespace Step

/-- The label that a step is about. -/
def key : Step → String
  | withLabel key _ => key
  | withKey key => key

/-- The value that a step requires, if it requires one. -/
def required : Step → Option String
  | withLabel _ value => some value
  | withKey _ => none

/-- Labels have what the step alone requires. -/
def Holds (labels : TextMap) : Step → Prop
  | withLabel key value => labels[key]? = some value
  | withKey key => key ∈ labels

instance (labels : TextMap) : (step : Step) → Decidable (step.Holds labels)
  | withLabel _ _ => inferInstanceAs (Decidable (_ = _))
  | withKey _ => inferInstanceAs (Decidable (_ ∈ _))

/-- A step holds of labels when they meet the one requirement that it states. -/
theorem holds_iff_meets {labels : TextMap} {step : Step} :
    step.Holds labels ↔ Meets labels step.key step.required := by
  cases step <;> exact Iff.rfl

/-- The step requires all that the other one does: it is the same, or the other one requires no more
than the presence of its label. -/
def Covers (step other : Step) : Prop := other = step ∨ other = withKey step.key

/-- Between steps about one label, the one that requires a value covers itself and the one that
requires the label only. -/
theorem covers_iff {step other : Step} (hkey : step.key = other.key) :
    step.Covers other ↔ step.required = other.required ∨ other.required = none := by
  obtain ⟨key, value⟩ | ⟨key⟩ := step
  · obtain ⟨key', value'⟩ | ⟨key'⟩ := other
    · obtain rfl : key = key' := hkey
      simp [Covers, required, eq_comm]
    · obtain rfl : key = key' := hkey
      simp [Covers, required, Step.key]
  · obtain ⟨key', value'⟩ | ⟨key'⟩ := other
    · simp [Covers, required]
    · obtain rfl : key = key' := hkey
      simp [Covers, required]

/-- Labels that satisfy a step satisfy all that it covers. -/
theorem Covers.holds {step other : Step} {labels : TextMap} (hcovers : step.Covers other)
    (hholds : step.Holds labels) : other.Holds labels := by
  rcases hcovers with rfl | rfl
  · exact hholds
  · cases step with
    | withKey key => exact hholds
    | withLabel key value =>
      show key ∈ labels
      rw [Std.ExtTreeMap.mem_iff_isSome_getElem?, hholds]
      rfl

/-- Two steps that cover each other are one, so that covering orders the steps about a label. -/
theorem Covers.antisymm {step other : Step} (h : step.Covers other) (h' : other.Covers step) :
    step = other := by
  rcases h with rfl | rfl
  · rfl
  · exact h'.elim id id

end Step

/-- The selector with one step more. -/
def take (s : Selector) : Step → Selector
  | .withLabel key value => s.withLabel key value
  | .withKey key => s.withKey key

/-- The selector that requires nothing, after some steps. The first step of the row is taken
first. -/
def ofSteps (steps : List Step) : Selector := steps.foldl take everything

variable {s : Selector} {steps : List Step} {labels : TextMap}

/-! ### What is required after some steps -/

/-- A step sets the requirement of its key, and drops the one that stood there. -/
theorem requirements_take (step : Step) :
    (s.take step).requirements = s.requirements.insert step.key step.required := by
  cases step <;> rfl

/-- Steps taken in a row put their requirements into the map one after the other, each over the one
that stood under its label. -/
theorem requirements_foldl_take :
    (steps.foldl take s).requirements
      = steps.foldl (fun map step => map.insert step.key step.required) s.requirements := by
  induction steps generalizing s with
  | nil => rfl
  | cons step rest ih => rw [List.foldl_cons, List.foldl_cons, ih, requirements_take]

/-- The last step of a key decides what is required of it. Steps of other keys may come behind
it. -/
theorem getElem?_requirements_ofSteps {key : String} {required : Option String} :
    (ofSteps steps).requirements[key]? = some required
      ↔ ∃ step, IsLastBy Step.key steps step ∧ step.key = key ∧ step.required = required := by
  rw [ofSteps, requirements_foldl_take, getElem?_foldl_insert, everything,
    Std.ExtTreeMap.getElem?_empty, Option.or_none, Option.map_eq_some_iff]
  simp only [← isLastBy_iff_find?, and_assoc]

/-- Labels are accepted when they meet the last step of each key. What earlier steps of the key
asked has no say. -/
theorem accepts_ofSteps_iff :
    (ofSteps steps).accepts labels = true
      ↔ ∀ step, IsLastBy Step.key steps step → step.Holds labels := by
  rw [accepts_iff]
  constructor
  · intro h step hlast
    exact Step.holds_iff_meets.mpr
      (h _ _ (getElem?_requirements_ofSteps.mpr ⟨step, hlast, rfl, rfl⟩))
  · intro h key required hrequired
    obtain ⟨step, hlast, rfl, rfl⟩ := getElem?_requirements_ofSteps.mp hrequired
    exact Step.holds_iff_meets.mp (h step hlast)

/-! ### What a selector enforces -/

/-- The labels that have just what a selector requires, with a filler where it requires no value.
They are the labels that tell best what a selector does not ask for. -/
def leastLabels (s : Selector) (filler : String) : TextMap :=
  s.requirements.map fun _ required => required.getD filler

/-- The least labels of a selector are labels that it accepts, so every selector accepts some. -/
theorem accepts_leastLabels (filler : String) : s.accepts (s.leastLabels filler) = true := by
  rw [accepts_iff]
  intro key required hrequired
  cases required with
  | some value => simp [Meets, leastLabels, hrequired]
  | none =>
    show key ∈ s.leastLabels filler
    simp [leastLabels, Std.ExtTreeMap.mem_iff_isSome_getElem?, hrequired]

/-- A selector enforces what it requires, and the presence of every label that it names. Anything
else is missed by some labels that it accepts. -/
theorem forall_meets_iff {key : String} {required : Option String} :
    (∀ labels, s.accepts labels = true → Meets labels key required)
      ↔ ∃ own, s.requirements[key]? = some own ∧ (own = required ∨ required = none) := by
  constructor
  · intro h
    -- Two fillers tell a value that is required from one that is filled in.
    have hblank := h _ (accepts_leastLabels "")
    have hdash := h _ (accepts_leastLabels "-")
    cases required with
    | none =>
      have hmem : key ∈ s.requirements := by simpa [Meets, leastLabels] using hblank
      exact ⟨s.requirements[key], Std.ExtTreeMap.getElem?_eq_some_getElem hmem, Or.inr rfl⟩
    | some value =>
      simp only [Meets, leastLabels, Std.ExtTreeMap.getElem?_map, Option.map_eq_some_iff]
        at hblank hdash
      obtain ⟨own, hown, hvalue⟩ := hblank
      obtain ⟨_, hown', hvalue'⟩ := hdash
      obtain rfl := Option.some.inj (hown.symm.trans hown')
      refine ⟨own, hown, Or.inl ?_⟩
      cases own with
      | some own => exact congrArg some hvalue
      | none => exact absurd (hvalue.trans hvalue'.symm) (by decide)
  · rintro ⟨own, hown, hcovers⟩ labels haccepts
    have hmeets := (accepts_iff s labels).mp haccepts key own hown
    rcases hcovers with rfl | rfl
    · exact hmeets
    · cases own with
      | none => exact hmeets
      | some value =>
        show key ∈ labels
        rw [Std.ExtTreeMap.mem_iff_isSome_getElem?, hmeets]
        rfl

/-- After some steps, what a step requires is enforced when the last step of its key covers it. -/
theorem forall_holds_iff {step : Step} :
    (∀ labels, (ofSteps steps).accepts labels = true → step.Holds labels)
      ↔ ∃ last, IsLastBy Step.key steps last ∧ last.key = step.key ∧ last.Covers step := by
  simp only [Step.holds_iff_meets, forall_meets_iff, getElem?_requirements_ofSteps]
  constructor
  · rintro ⟨_, ⟨last, hlast, hkey, rfl⟩, hcovers⟩
    exact ⟨last, hlast, hkey, (Step.covers_iff hkey).mpr hcovers⟩
  · rintro ⟨last, hlast, hkey, hcovers⟩
    exact ⟨last.required, ⟨last, hlast, hkey, rfl⟩, (Step.covers_iff hkey).mp hcovers⟩

/-! ### The laws of conjunction -/

/-- Steps add up, so that labels are accepted exactly when they meet all of them, when the last step
of each key covers the ones before it, and only then. -/
theorem forall_accepts_iff_holds :
    (∀ labels, (ofSteps steps).accepts labels = true ↔ ∀ step ∈ steps, step.Holds labels)
      ↔ ∀ step ∈ steps, ∀ last, IsLastBy Step.key steps last → last.key = step.key →
          last.Covers step := by
  constructor
  · intro h step hstep last hlast hkey
    -- what adds up is enforced, and only the last step of a key enforces anything about it
    obtain ⟨other, hother, hkey', hcovers⟩ :=
      forall_holds_iff.mp fun labels haccepts => (h labels).mp haccepts step hstep
    rwa [IsLastBy.unique hlast hother (hkey.trans hkey'.symm)]
  · intro h labels
    rw [accepts_ofSteps_iff]
    constructor
    · intro hlasts step hstep
      obtain ⟨last, hlast, hkey⟩ := exists_isLastBy_of_mem Step.key hstep
      exact (h step hstep last hlast hkey).holds (hlasts last hlast)
    · exact fun hall step hlast => hall step hlast.mem

/-- A further step only narrows when it covers the last step of its key. If it does not, it takes
back what that one required. -/
theorem forall_accepts_of_append_iff {step : Step} :
    (∀ labels, (ofSteps (steps ++ [step])).accepts labels = true →
        (ofSteps steps).accepts labels = true)
      ↔ ∀ last, IsLastBy Step.key steps last → last.key = step.key → step.Covers last := by
  have hlastStep : IsLastBy Step.key (steps ++ [step]) step := ⟨steps, [], rfl, nofun⟩
  constructor
  · intro h last hlast hkey
    obtain ⟨other, hother, hkey', hcovers⟩ := forall_holds_iff.mp fun labels haccepts =>
      accepts_ofSteps_iff.mp (h labels haccepts) last hlast
    rwa [IsLastBy.unique hlastStep hother (hkey.symm.trans hkey'.symm)]
  · intro h labels haccepts
    refine accepts_ofSteps_iff.mpr fun last hlast => ?_
    by_cases hkey : last.key = step.key
    · exact (h last hlast hkey).holds (accepts_ofSteps_iff.mp haccepts step hlastStep)
    · -- a step about another key stays the last of its own
      refine accepts_ofSteps_iff.mp haccepts last (isLastBy_append.mpr (Or.inr ⟨hlast, ?_⟩))
      simpa using Ne.symm hkey

/-- The order of steps makes no difference when no two of them require different things of one
label. Two that do can be put in either order, and the last one counts. -/
theorem forall_perm_accepts_iff :
    (∀ others, others.Perm steps → ∀ labels,
        (ofSteps others).accepts labels = (ofSteps steps).accepts labels)
      ↔ ∀ step ∈ steps, ∀ other ∈ steps, step.key = other.key → step = other := by
  constructor
  · intro h
    -- Each of the two steps can be put last, and then covers the other one.
    have hcovers : ∀ step ∈ steps, ∀ other ∈ steps, step.key = other.key → step.Covers other := by
      intro step hstep other hother hkey
      have hlast : IsLastBy Step.key (steps.erase step ++ [step]) step :=
        ⟨steps.erase step, [], rfl, nofun⟩
      have hperm : ∀ {step}, step ∈ steps → (steps.erase step ++ [step]).Perm steps := fun hmem =>
        (List.perm_append_singleton _ _).trans (List.perm_cons_erase hmem).symm
      obtain ⟨last, hlast', hkey', hcovers⟩ := forall_holds_iff.mp fun labels haccepts => by
        rw [h _ (hperm hstep), ← h _ (hperm hother), accepts_ofSteps_iff] at haccepts
        exact haccepts other ⟨steps.erase other, [], rfl, nofun⟩
      rwa [IsLastBy.unique hlast hlast' (hkey.trans hkey'.symm)]
    intro step hstep other hother hkey
    have hback := hcovers other hother step hstep hkey.symm
    exact (hcovers step hstep other hother hkey).antisymm hback
  · intro h others hperm labels
    have hlast : ∀ step, IsLastBy Step.key others step ↔ IsLastBy Step.key steps step := by
      intro step
      rw [isLastBy_iff_mem h, isLastBy_iff_mem, hperm.mem_iff]
      simpa only [hperm.mem_iff] using h
    rw [Bool.eq_iff_iff, accepts_ofSteps_iff, accepts_ofSteps_iff]
    simp only [hlast]

/-- A selector that was built step by step accepts the labels that meet the last step of each key.
So the steps add up when each is covered by the last one of its key, a further step only narrows
when it covers that one, and the order makes no difference when no two steps require different
things of one label. None of the three holds for other rows of steps. -/
theorem conjunction_laws (steps : List Step) :
    (∀ labels, (ofSteps steps).accepts labels = true
      ↔ ∀ step, IsLastBy Step.key steps step → step.Holds labels) ∧
    ((∀ labels, (ofSteps steps).accepts labels = true ↔ ∀ step ∈ steps, step.Holds labels)
      ↔ ∀ step ∈ steps, ∀ last, IsLastBy Step.key steps last → last.key = step.key →
          last.Covers step) ∧
    (∀ step, (∀ labels, (ofSteps (steps ++ [step])).accepts labels = true →
        (ofSteps steps).accepts labels = true)
      ↔ ∀ last, IsLastBy Step.key steps last → last.key = step.key → step.Covers last) ∧
    ((∀ others, others.Perm steps → ∀ labels,
        (ofSteps others).accepts labels = (ofSteps steps).accepts labels)
      ↔ ∀ step ∈ steps, ∀ other ∈ steps, step.key = other.key → step = other) :=
  ⟨fun _ => accepts_ofSteps_iff, forall_accepts_iff_holds, fun _ => forall_accepts_of_append_iff,
    forall_perm_accepts_iff⟩

/-- A step that requires a label to be present takes back the value that an earlier one required:
labels with another value are accepted, though they do not meet the earlier step, were not accepted
before the later one, and are not accepted with the two steps the other way round. -/
theorem accepts_otherValue_app :
    let labels : TextMap := (∅ : TextMap).insert "app" "db"
    let web : Step := .withLabel "app" "web"
    let present : Step := .withKey "app"
    (ofSteps [web, present]).accepts labels = true ∧
    (¬ ∀ step ∈ [web, present], step.Holds labels) ∧
    (ofSteps [web]).accepts labels = false ∧
    (ofSteps [present, web]).accepts labels = false := by
  refine ⟨by decide, fun hall => ?_, by decide, by decide⟩
  have hvalue := hall (.withLabel "app" "web") List.mem_cons_self
  exact absurd hvalue (by decide)

end AccessGateway.Selector
