import Pure3270.Foundations.StateRelation

/-!
# Loops with a decreasing measure

`iterate` runs a loop body that either asks for another round or leaves with a
value.  The fuel is an artefact of structural recursion: when a measure drops
in every round that continues, any sufficient fuel gives the same result, the
loop never runs dry, and it satisfies the unfolding equation of the unbounded
loop.
-/

namespace Foundations

variable {ε σ α : Type}

/-- Repeat `body` until it produces a value.  `none` is returned only when the
fuel is spent. -/
def iterate (body : EStateM ε σ (Option α)) : Nat → EStateM ε σ (Option α)
  | 0 => pure none
  | fuel + 1 => do
      match ← body with
      | some value => pure (some value)
      | none => iterate body fuel

/-- Every round that continues keeps the invariant and lowers the measure. -/
structure Progress (body : EStateM ε σ (Option α))
    (Invariant : σ → Prop) (measure : σ → Nat) : Prop where
  keeps : ∀ {before after}, Invariant before →
    body before = .ok none after → Invariant after
  lowers : ∀ {before after}, Invariant before →
    body before = .ok none after → measure after < measure before

theorem iterate_succ (body : EStateM ε σ (Option α)) (fuel : Nat) (state : σ) :
    iterate body (fuel + 1) state =
      match body state with
      | .ok (some value) after => .ok (some value) after
      | .ok none after => iterate body fuel after
      | .error failure after => .error failure after := by
  show EStateM.bind body _ state = _
  unfold EStateM.bind
  cases body state with
  | ok result after => cases result <;> rfl
  | error failure after => rfl

section Progress

variable {body : EStateM ε σ (Option α)} {Invariant : σ → Prop}
  {measure : σ → Nat}

/-- Fuel beyond the measure does not change the outcome. -/
theorem iterate_fuel_irrelevant (progress : Progress body Invariant measure)
    {state : σ} (holds : Invariant state) {small large : Nat}
    (enough : measure state < small) (more : small ≤ large) :
    iterate body large state = iterate body small state := by
  induction small generalizing state large with
  | zero => omega
  | succ small ih =>
      obtain ⟨larger, rfl⟩ : ∃ larger, large = larger + 1 :=
        ⟨large - 1, by omega⟩
      rw [iterate_succ, iterate_succ]
      cases round : body state with
      | error failure after => rfl
      | ok result after =>
          cases result with
          | some value => rfl
          | none =>
              have lower := progress.lowers holds round
              exact ih (progress.keeps holds round) (by omega) (by omega)

/-- With enough fuel the loop leaves with a value or an exception. -/
theorem iterate_ne_none (progress : Progress body Invariant measure)
    {state : σ} (holds : Invariant state) {fuel : Nat}
    (enough : measure state < fuel) (after : σ) :
    iterate body fuel state ≠ .ok none after := by
  induction fuel generalizing state with
  | zero => omega
  | succ fuel ih =>
      rw [iterate_succ]
      cases round : body state with
      | error failure middle => simp
      | ok result middle =>
          cases result with
          | some value => simp
          | none =>
              have lower := progress.lowers holds round
              exact ih (progress.keeps holds round) (by omega)

/-- The unfolding equation of the unbounded loop: a round that continues is
followed by the same loop at the same fuel. -/
theorem iterate_unfold (progress : Progress body Invariant measure)
    {state after : σ} (holds : Invariant state) {fuel : Nat}
    (enough : measure state < fuel) (round : body state = .ok none after) :
    iterate body fuel state = iterate body fuel after := by
  obtain ⟨less, rfl⟩ : ∃ less, fuel = less + 1 := ⟨fuel - 1, by omega⟩
  have lower := progress.lowers holds round
  have kept := progress.keeps holds round
  rw [iterate_succ, round]
  exact (iterate_fuel_irrelevant progress kept (by omega) (by omega)).symm

end Progress

/-- How a loop was left: rounds that asked for another one, then the round
that decided the outcome. -/
theorem iterate_exit {R : σ → σ → Prop} [IsPreorder σ R]
    {body : EStateM ε σ (Option α)}
    (step : ∀ {before after}, body before = .ok none after → R before after)
    {fuel : Nat} {state : σ} {result : EStateM.Result ε σ (Option α)}
    (left : iterate body fuel state = result)
    (decided : ∀ after, result ≠ .ok none after) :
    ∃ last, R state last ∧ body last = result := by
  induction fuel generalizing state with
  | zero => exact absurd left.symm (decided state)
  | succ fuel ih =>
      rw [iterate_succ] at left
      cases round : body state with
      | error failure after =>
          rw [round] at left
          exact ⟨state, refl_of R state, round.trans left⟩
      | ok outcome after =>
          rw [round] at left
          cases outcome with
          | some value => exact ⟨state, refl_of R state, round.trans left⟩
          | none =>
              obtain ⟨last, reached, final⟩ := ih left
              exact ⟨last, trans_of R (step round) reached, final⟩

theorem Within.iterate {R : σ → σ → Prop} [IsPreorder σ R]
    {body : EStateM ε σ (Option α)} (step : Within R body) (fuel : Nat) :
    Within R (iterate body fuel) := by
  induction fuel with
  | zero => exact fun _ => WithinAt.pure none
  | succ fuel ih =>
      refine Within.bind step fun result => ?_
      cases result with
      | some value => exact fun _ => WithinAt.pure (some value)
      | none => exact ih

end Foundations
