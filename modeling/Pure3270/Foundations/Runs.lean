/-!
# Runs of a deterministic machine

A machine takes one input after another.  `Always` asks a property of every
state of a run, the first one included, and `Along` asks a condition of every
step, at the state before it.  Where the condition of a step says exactly when
the step keeps the property, a run has the property throughout exactly when
all its steps meet the condition.
-/

namespace Foundations

variable {σ ι : Type} {step : ι → σ → σ}

/-- The state after all inputs. -/
def run (step : ι → σ → σ) : List ι → σ → σ
  | [], state => state
  | input :: inputs, state => run step inputs (step input state)

/-- Every state of the run has the property. -/
def Always (step : ι → σ → σ) (Property : σ → Prop) : List ι → σ → Prop
  | [], state => Property state
  | input :: inputs, state =>
      Property state ∧ Always step Property inputs (step input state)

/-- Every step of the run meets the condition. -/
def Along (step : ι → σ → σ) (Condition : ι → σ → Prop) : List ι → σ → Prop
  | [], _ => True
  | input :: inputs, state =>
      Condition input state ∧ Along step Condition inputs (step input state)

/-- How many steps of the run are counted. -/
def tally (step : ι → σ → σ) (counted : ι → σ → Bool) : List ι → σ → Nat
  | [], _ => 0
  | input :: inputs, state =>
      (counted input state).toNat + tally step counted inputs (step input state)

instance Along.decidable {Condition : ι → σ → Prop}
    [∀ input state, Decidable (Condition input state)] :
    ∀ (inputs : List ι) (state : σ), Decidable (Along step Condition inputs state)
  | [], _ => .isTrue trivial
  | input :: inputs, state =>
      @instDecidableAnd (Condition input state) _ inferInstance
        (Along.decidable inputs (step input state))

theorem run_append (first second : List ι) (state : σ) :
    run step (first ++ second) state = run step second (run step first state) := by
  induction first generalizing state with
  | nil => rfl
  | cons input first ih => exact ih (step input state)

theorem along_append {Condition : ι → σ → Prop} {first second : List ι} {state : σ} :
    Along step Condition (first ++ second) state ↔
      Along step Condition first state ∧
        Along step Condition second (run step first state) := by
  induction first generalizing state with
  | nil => exact (and_iff_right trivial).symm
  | cons input first ih => exact (and_congr_right fun _ => ih).trans and_assoc.symm

theorem Along.mono {Condition Weaker : ι → σ → Prop}
    (weaker : ∀ {input state}, Condition input state → Weaker input state)
    {inputs : List ι} {state : σ} (along : Along step Condition inputs state) :
    Along step Weaker inputs state := by
  induction inputs generalizing state with
  | nil => exact trivial
  | cons input inputs ih => exact ⟨weaker along.1, ih along.2⟩

theorem Always.last {Property : σ → Prop} {inputs : List ι} {state : σ}
    (always : Always step Property inputs state) :
    Property (run step inputs state) := by
  induction inputs generalizing state with
  | nil => exact always
  | cons input inputs ih => exact ih always.2

theorem Always.mono {Property Weaker : σ → Prop}
    (weaker : ∀ {state}, Property state → Weaker state)
    {inputs : List ι} {state : σ} (always : Always step Property inputs state) :
    Always step Weaker inputs state := by
  induction inputs generalizing state with
  | nil => exact weaker always
  | cons input inputs ih => exact ⟨weaker always.1, ih always.2⟩

theorem run_invariant {Invariant : σ → Prop}
    (keeps : ∀ input {state}, Invariant state → Invariant (step input state))
    (inputs : List ι) {state : σ} (holds : Invariant state) :
    Invariant (run step inputs state) := by
  induction inputs generalizing state with
  | nil => exact holds
  | cons input inputs ih => exact ih (keeps input holds)

theorem always_of_invariant {Invariant : σ → Prop}
    (keeps : ∀ input {state}, Invariant state → Invariant (step input state))
    (inputs : List ι) {state : σ} (holds : Invariant state) :
    Always step Invariant inputs state := by
  induction inputs generalizing state with
  | nil => exact holds
  | cons input inputs ih => exact ⟨holds, ih (keeps input holds)⟩

theorem measure_run {Property : σ → Prop} {measure : σ → Nat} {counted : ι → σ → Bool}
    (grows : ∀ {input state}, Property state → Property (step input state) →
      measure (step input state) = measure state + (counted input state).toNat)
    {inputs : List ι} {state : σ} (always : Always step Property inputs state) :
    measure (run step inputs state) = measure state + tally step counted inputs state := by
  induction inputs generalizing state with
  | nil => rfl
  | cons input inputs ih =>
      have next : Property (step input state) := by
        cases inputs with
        | nil => exact always.2
        | cons following inputs => exact always.2.1
      have grown := grows always.1 next
      have later := ih always.2
      simp only [run, tally]
      omega

theorem always_of_along {Property : σ → Prop} {Condition : ι → σ → Prop}
    (keeps : ∀ {input state}, Property state → Condition input state →
      Property (step input state))
    {inputs : List ι} {state : σ} (holds : Property state)
    (along : Along step Condition inputs state) :
    Always step Property inputs state := by
  induction inputs generalizing state with
  | nil => exact holds
  | cons input inputs ih => exact ⟨holds, ih (keeps holds along.1) along.2⟩

/-- Exact conditions of steps are exact for runs.  The steps of the domain that meet the
condition are all that has to keep the invariant. -/
theorem always_iff_along_on {Invariant Property : σ → Prop}
    {Domain Condition : ι → σ → Prop}
    (keeps : ∀ input {state}, Invariant state → Domain input state →
      Condition input state → Invariant (step input state))
    (exact : ∀ input {state}, Invariant state → Property state → Domain input state →
      (Property (step input state) ↔ Condition input state))
    {inputs : List ι} {state : σ} (invariant : Invariant state)
    (holds : Property state) (domain : Along step Domain inputs state) :
    Always step Property inputs state ↔ Along step Condition inputs state := by
  induction inputs generalizing state with
  | nil => exact ⟨fun _ => trivial, fun _ => holds⟩
  | cons input inputs ih =>
      have here := exact input invariant holds domain.1
      constructor
      · rintro ⟨_, later⟩
        have kept : Property (step input state) := by
          cases inputs with
          | nil => exact later
          | cons next inputs => exact later.1
        have met := here.mp kept
        exact ⟨met, (ih (keeps input invariant domain.1 met) kept domain.2).mp later⟩
      · rintro ⟨met, later⟩
        have kept := keeps input invariant domain.1 met
        exact ⟨holds, (ih kept (here.mpr met) domain.2).mpr later⟩

theorem along_true (inputs : List ι) (state : σ) :
    Along step (fun _ _ => True) inputs state := by
  induction inputs generalizing state with
  | nil => exact trivial
  | cons input inputs ih => exact ⟨trivial, ih (step input state)⟩

/-- The same on all runs. -/
theorem always_iff_along_while {Invariant Property : σ → Prop}
    {Condition : ι → σ → Prop}
    (keeps : ∀ input {state}, Invariant state → Condition input state →
      Invariant (step input state))
    (exact : ∀ input {state}, Invariant state → Property state →
      (Property (step input state) ↔ Condition input state))
    {inputs : List ι} {state : σ} (invariant : Invariant state)
    (holds : Property state) :
    Always step Property inputs state ↔ Along step Condition inputs state :=
  always_iff_along_on (fun input _ kept _ => keeps input kept)
    (fun input _ kept here _ => exact input kept here) invariant holds
    (along_true inputs state)

theorem always_iff_along {Invariant Property : σ → Prop}
    {Condition : ι → σ → Prop}
    (keeps : ∀ input {state}, Invariant state → Invariant (step input state))
    (exact : ∀ input {state}, Invariant state → Property state →
      (Property (step input state) ↔ Condition input state))
    {inputs : List ι} {state : σ} (invariant : Invariant state)
    (holds : Property state) :
    Always step Property inputs state ↔ Along step Condition inputs state :=
  always_iff_along_while (fun input _ kept _ => keeps input kept) exact invariant holds

theorem always_and_along_iff {Invariant Property : σ → Prop}
    {Sound Condition : ι → σ → Prop}
    (keeps : ∀ input {state}, Invariant state → Invariant (step input state))
    (exact : ∀ input {state}, Invariant state → Property state →
      (Property (step input state) ∧ Sound input state ↔ Condition input state))
    {inputs : List ι} {state : σ} (invariant : Invariant state)
    (holds : Property state) :
    (Always step Property inputs state ∧ Along step Sound inputs state) ↔
      Along step Condition inputs state := by
  induction inputs generalizing state with
  | nil => exact ⟨fun _ => trivial, fun _ => ⟨holds, trivial⟩⟩
  | cons input inputs ih =>
      have here := exact input invariant holds
      have kept := keeps input invariant
      constructor
      · rintro ⟨⟨_, later⟩, sound, others⟩
        have next : Property (step input state) := by
          cases inputs with
          | nil => exact later
          | cons following inputs => exact later.1
        exact ⟨here.mp ⟨next, sound⟩, (ih kept next).mp ⟨later, others⟩⟩
      · rintro ⟨met, later⟩
        obtain ⟨next, sound⟩ := here.mpr met
        obtain ⟨always, along⟩ := (ih kept next).mpr later
        exact ⟨⟨holds, always⟩, sound, along⟩

/-- Two conditions say the same along a run if they do in the states that the first
one leads to. -/
theorem along_congr {Invariant : σ → Prop} {Condition Other : ι → σ → Prop}
    (keeps : ∀ input {state}, Invariant state → Condition input state →
      Invariant (step input state))
    (exact : ∀ input {state}, Invariant state →
      (Condition input state ↔ Other input state))
    {inputs : List ι} {state : σ} (invariant : Invariant state) :
    Along step Condition inputs state ↔ Along step Other inputs state := by
  induction inputs generalizing state with
  | nil => exact Iff.rfl
  | cons input inputs ih =>
      have here := exact input invariant
      constructor
      · rintro ⟨met, later⟩
        exact ⟨here.mp met, (ih (keeps input invariant met)).mp later⟩
      · rintro ⟨met, later⟩
        have kept := keeps input invariant (here.mpr met)
        exact ⟨here.mpr met, (ih kept).mpr later⟩

/-- Where a step that breaks the condition spoils the run for good, a run is good at
its end or it broke the condition. -/
theorem along_or_spoiled {Good Bad : σ → Prop} {Condition : ι → σ → Prop}
    (keeps : ∀ input {state}, Good state → Condition input state → Good (step input state))
    (spoils : ∀ input {state}, Good state → ¬ Condition input state →
      Bad (step input state))
    (stays : ∀ input {state}, Bad state → Bad (step input state))
    (inputs : List ι) {state : σ} (good : Good state) :
    Along step Condition inputs state ∧ Good (run step inputs state) ∨
      ¬ Along step Condition inputs state ∧ Bad (run step inputs state) := by
  induction inputs generalizing state with
  | nil => exact .inl ⟨trivial, good⟩
  | cons input inputs ih =>
      by_cases met : Condition input state
      · rcases ih (keeps input good met) with ⟨along, last⟩ | ⟨broken, last⟩
        · exact .inl ⟨⟨met, along⟩, last⟩
        · exact .inr ⟨fun along => broken along.2, last⟩
      · exact .inr ⟨fun along => met along.1,
          run_invariant stays inputs (spoils input good met)⟩

end Foundations
