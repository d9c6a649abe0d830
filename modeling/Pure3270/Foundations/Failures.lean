import Pure3270.Foundations.MeasuredLoop

/-!
# What a computation can raise

`RaisesOnlyAt Allowed m state` says that `m` started from `state` either
returns or raises an allowed failure.  `EnvelopeAt R Allowed m state` says besides
that it ends in a state that `R` relates to this one.
-/

namespace Foundations

variable {ε σ α β : Type} {Allowed Other : ε → Prop} {state : σ}

def RaisesOnlyAt (Allowed : ε → Prop) (m : EStateM ε σ α) (state : σ) : Prop :=
  ∀ failure after, m state = .error failure after → Allowed failure

def RaisesOnly (Allowed : ε → Prop) (m : EStateM ε σ α) : Prop :=
  ∀ state, RaisesOnlyAt Allowed m state

namespace RaisesOnlyAt

theorem pure (value : α) :
    RaisesOnlyAt Allowed (pure value : EStateM ε σ α) state := by
  rintro failure after ⟨⟩

theorem modify (f : σ → σ) :
    RaisesOnlyAt Allowed (modify f : EStateM ε σ Unit) state := by
  rintro failure after ⟨⟩

theorem throw {failure : ε} (allowed : Allowed failure) :
    RaisesOnlyAt Allowed (throw failure : EStateM ε σ α) state := by
  rintro _ after ⟨⟩
  exact allowed

theorem getBind {f : σ → EStateM ε σ β}
    (next : RaisesOnlyAt Allowed (f state) state) :
    RaisesOnlyAt Allowed ((get : EStateM ε σ σ) >>= f) state :=
  next

theorem ite {condition : Prop} [Decidable condition] {m n : EStateM ε σ α}
    (whenTrue : condition → RaisesOnlyAt Allowed m state)
    (whenFalse : ¬ condition → RaisesOnlyAt Allowed n state) :
    RaisesOnlyAt Allowed (if condition then m else n) state := by
  split
  · exact whenTrue ‹_›
  · exact whenFalse ‹_›

theorem mono {m : EStateM ε σ α} (raises : RaisesOnlyAt Allowed m state)
    (weaker : ∀ failure, Allowed failure → Other failure) :
    RaisesOnlyAt Other m state :=
  fun failure after raised => weaker failure (raises failure after raised)

theorem bind {m : EStateM ε σ α} {f : α → EStateM ε σ β}
    (first : RaisesOnlyAt Allowed m state)
    (next : ∀ value after, m state = .ok value after →
      RaisesOnlyAt Allowed (f value) after) :
    RaisesOnlyAt Allowed (m >>= f) state := by
  intro failure after raised
  cases outcome : m state with
  | ok value middle =>
      rw [run_bind_ok outcome] at raised
      exact next value middle outcome failure after raised
  | error early middle =>
      rw [run_bind_error outcome] at raised
      cases raised
      exact first failure after outcome

/-- A handler sees only failures that the body can raise. -/
theorem tryCatch {m : EStateM ε σ α} {handler : ε → EStateM ε σ α}
    (body : RaisesOnlyAt Other m state)
    (recovery : ∀ failure after, Other failure → m state = .error failure after →
      RaisesOnlyAt Allowed (handler failure) after) :
    RaisesOnlyAt Allowed (tryCatch m handler) state := by
  intro failure after raised
  cases outcome : m state with
  | ok value middle =>
      rw [run_tryCatch_ok outcome] at raised
      cases raised
  | error early middle =>
      rw [run_tryCatch_error outcome] at raised
      exact recovery early middle (body early middle outcome) outcome failure after
        raised

end RaisesOnlyAt

theorem RaisesOnly.bind {m : EStateM ε σ α} {f : α → EStateM ε σ β}
    (first : RaisesOnly Allowed m) (next : ∀ value, RaisesOnly Allowed (f value)) :
    RaisesOnly Allowed (m >>= f) :=
  fun state => (first state).bind fun value after _ => next value after

theorem RaisesOnly.times {m : EStateM ε σ Unit} (body : RaisesOnly Allowed m)
    (count : Nat) : RaisesOnly Allowed (times count m) := by
  induction count with
  | zero => exact fun _ => RaisesOnlyAt.pure ()
  | succ count ih => exact body.bind fun _ => ih

theorem RaisesOnlyAt.iterate {Invariant : σ → Prop}
    {body : EStateM ε σ (Option α)}
    (raises : ∀ {state}, Invariant state → RaisesOnlyAt Allowed body state)
    (keeps : ∀ {before after}, Invariant before → body before = .ok none after →
      Invariant after)
    (fuel : Nat) (holds : Invariant state) :
    RaisesOnlyAt Allowed (iterate body fuel) state := by
  induction fuel generalizing state with
  | zero => exact RaisesOnlyAt.pure none
  | succ fuel ih =>
      intro failure after raised
      rw [iterate_succ] at raised
      cases round : body state with
      | error early middle =>
          rw [round] at raised
          cases raised
          exact raises holds failure after round
      | ok result middle =>
          rw [round] at raised
          cases result with
          | some value => cases raised
          | none => exact ih (keeps holds round) failure after raised

section Envelopes

variable {R : σ → σ → Prop}

structure EnvelopeAt (R : σ → σ → Prop) (Allowed : ε → Prop) (m : EStateM ε σ α) (state : σ) :
    Prop where
  within : WithinAt R m state
  raises : RaisesOnlyAt Allowed m state

def Envelope (R : σ → σ → Prop) (Allowed : ε → Prop) (m : EStateM ε σ α) : Prop :=
  ∀ state, EnvelopeAt R Allowed m state

namespace EnvelopeAt

theorem modify {f : σ → σ} (step : R state (f state)) :
    EnvelopeAt R Allowed (modify f : EStateM ε σ Unit) state :=
  ⟨.modify step, .modify f⟩

theorem getBind {f : σ → EStateM ε σ β} (next : EnvelopeAt R Allowed (f state) state) :
    EnvelopeAt R Allowed ((get : EStateM ε σ σ) >>= f) state :=
  ⟨.getBind next.within, .getBind next.raises⟩

theorem ite {condition : Prop} [Decidable condition] {m n : EStateM ε σ α}
    (whenTrue : condition → EnvelopeAt R Allowed m state)
    (whenFalse : ¬ condition → EnvelopeAt R Allowed n state) :
    EnvelopeAt R Allowed (if condition then m else n) state := by
  split
  · exact whenTrue ‹_›
  · exact whenFalse ‹_›

section Preorder

variable [IsPreorder σ R]

theorem pure (value : α) : EnvelopeAt R Allowed (pure value : EStateM ε σ α) state :=
  ⟨.pure value, .pure value⟩

theorem throw {failure : ε} (allowed : Allowed failure) :
    EnvelopeAt R Allowed (throw failure : EStateM ε σ α) state :=
  ⟨.throw failure, .throw allowed⟩

theorem bind {m : EStateM ε σ α} {f : α → EStateM ε σ β}
    (first : EnvelopeAt R Allowed m state)
    (next : ∀ value after, EnvelopeAt R Allowed (f value) after) :
    EnvelopeAt R Allowed (m >>= f) state where
  within := first.within.bind fun value after _ => (next value after).within
  raises := first.raises.bind fun value after _ => (next value after).raises

theorem tryCatch {m : EStateM ε σ α} {handler : ε → EStateM ε σ α}
    (body : EnvelopeAt R Other m state)
    (recovery : ∀ failure after, Other failure → EnvelopeAt R Allowed (handler failure) after) :
    EnvelopeAt R Allowed (tryCatch m handler) state where
  within := body.within.tryCatch fun failure after raised =>
    (recovery failure after (body.raises failure after raised)).within
  raises := body.raises.tryCatch fun failure after allowed _ =>
    (recovery failure after allowed).raises

end Preorder

end EnvelopeAt

end Envelopes

end Foundations
