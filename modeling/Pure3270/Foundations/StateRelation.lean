import Mathlib.Order.Defs.Unbundled

/-!
# State relations of computations

A computation with a state and exceptions moves the state on every exit,
normal or exceptional.  `WithinAt R m state` says that running `m` from `state`
moves it along the preorder `R`, and `Within R m` that this holds from every
state.  Invariants, frame conditions and progress measures are all preorders,
and the rules below compose them over sequencing, branching, exception
handling and repetition.
-/

namespace Foundations

variable {ε σ α β : Type} {R S : σ → σ → Prop} {state : σ}

/-- The state a computation leaves behind, whatever way it exits. -/
def finalState : EStateM.Result ε σ α → σ
  | .ok _ state => state
  | .error _ state => state

@[simp] theorem finalState_ok (value : α) (state : σ) :
    finalState (.ok value state : EStateM.Result ε σ α) = state := rfl

@[simp] theorem finalState_error (failure : ε) (state : σ) :
    finalState (.error failure state : EStateM.Result ε σ α) = state := rfl

theorem run_get_bind {f : σ → EStateM ε σ β} :
    ((get : EStateM ε σ σ) >>= f) state = f state state := rfl

theorem run_bind_ok {m : EStateM ε σ α} {f : α → EStateM ε σ β} {value : α}
    {after : σ} (first : m state = .ok value after) :
    (m >>= f) state = f value after := by
  show EStateM.bind m f state = _
  simp [EStateM.bind, first]

theorem run_bind_error {m : EStateM ε σ α} {f : α → EStateM ε σ β}
    {failure : ε} {after : σ} (first : m state = .error failure after) :
    (m >>= f) state = .error failure after := by
  show EStateM.bind m f state = _
  simp [EStateM.bind, first]

/-- A sequence that returns has returned from both of its computations. -/
theorem exists_of_bind_ok {m : EStateM ε σ α} {f : α → EStateM ε σ β} {value : β}
    {after : σ} (both : (m >>= f) state = .ok value after) :
    ∃ first middle, m state = .ok first middle ∧ f first middle = .ok value after := by
  cases outcome : m state with
  | ok first middle =>
      rw [run_bind_ok outcome] at both
      exact ⟨first, middle, rfl, both⟩
  | error failure middle =>
      rw [run_bind_error outcome] at both
      cases both

theorem run_tryCatch_ok {m : EStateM ε σ α} {handler : ε → EStateM ε σ α}
    {value : α} {after : σ} (body : m state = .ok value after) :
    tryCatch m handler state = .ok value after := by
  show EStateM.tryCatch m handler state = _
  unfold EStateM.tryCatch
  rw [body]

theorem run_tryCatch_error {m : EStateM ε σ α} {handler : ε → EStateM ε σ α}
    {failure : ε} {after : σ} (body : m state = .error failure after) :
    tryCatch m handler state = handler failure after := by
  show EStateM.tryCatch m handler state = _
  unfold EStateM.tryCatch
  rw [body]
  rfl

/-- A handled computation depends on the outcome of its body only. -/
theorem run_tryCatch_congr {m n : EStateM ε σ α} {handler : ε → EStateM ε σ α}
    {other : σ} (same : m state = n other) :
    tryCatch m handler state = tryCatch n handler other := by
  cases outcome : n other with
  | ok value after =>
      rw [run_tryCatch_ok (same.trans outcome), run_tryCatch_ok outcome]
  | error failure after =>
      rw [run_tryCatch_error (same.trans outcome), run_tryCatch_error outcome]

def WithinAt (R : σ → σ → Prop) (m : EStateM ε σ α) (state : σ) : Prop :=
  R state (finalState (m state))

/-- Every exit of `m` is related to the state it started from. -/
def Within (R : σ → σ → Prop) (m : EStateM ε σ α) : Prop :=
  ∀ state, WithinAt R m state

theorem WithinAt.mono {m : EStateM ε σ α} (within : WithinAt R m state)
    (weaker : ∀ before after, R before after → S before after) :
    WithinAt S m state :=
  weaker _ _ within

theorem Within.mono {m : EStateM ε σ α} (within : Within R m)
    (weaker : ∀ before after, R before after → S before after) :
    Within S m :=
  fun state => weaker _ _ (within state)

theorem WithinAt.modify {f : σ → σ} (step : R state (f state)) :
    WithinAt R (modify f : EStateM ε σ Unit) state :=
  step

/-- Reading the state first: the continuation runs at the state that was
read. -/
theorem WithinAt.getBind {f : σ → EStateM ε σ β}
    (next : WithinAt R (f state) state) :
    WithinAt R ((get : EStateM ε σ σ) >>= f) state :=
  next

theorem WithinAt.ite {condition : Prop} [Decidable condition]
    {m n : EStateM ε σ α}
    (whenTrue : condition → WithinAt R m state)
    (whenFalse : ¬ condition → WithinAt R n state) :
    WithinAt R (if condition then m else n) state := by
  split
  · exact whenTrue ‹_›
  · exact whenFalse ‹_›

section Preorder

variable [IsPreorder σ R]

theorem WithinAt.pure (value : α) :
    WithinAt R (pure value : EStateM ε σ α) state :=
  refl_of R state

theorem WithinAt.throw (failure : ε) :
    WithinAt R (throw failure : EStateM ε σ α) state :=
  refl_of R state

/-- Sequencing: the second computation is asked about only at the states in
which the first one can leave. -/
theorem WithinAt.bind {m : EStateM ε σ α} {f : α → EStateM ε σ β}
    (first : WithinAt R m state)
    (next : ∀ value after, m state = .ok value after → WithinAt R (f value) after) :
    WithinAt R (m >>= f) state := by
  have moved : R state (finalState (m state)) := first
  show R state (finalState (EStateM.bind m f state))
  unfold EStateM.bind
  cases outcome : m state with
  | ok value middle =>
      rw [outcome] at moved
      exact trans_of R moved (next value middle outcome)
  | error failure middle =>
      rw [outcome] at moved
      exact moved

theorem Within.bind {m : EStateM ε σ α} {f : α → EStateM ε σ β}
    (first : Within R m) (next : ∀ value, Within R (f value)) :
    Within R (m >>= f) :=
  fun state => (first state).bind fun value after _ => next value after

theorem WithinAt.tryCatch {m : EStateM ε σ α} {handler : ε → EStateM ε σ α}
    (body : WithinAt R m state)
    (recovery : ∀ failure after, m state = .error failure after →
      WithinAt R (handler failure) after) :
    WithinAt R (tryCatch m handler) state := by
  have moved : R state (finalState (m state)) := body
  show R state (finalState (EStateM.tryCatch m handler state))
  unfold EStateM.tryCatch
  cases outcome : m state with
  | ok value middle =>
      rw [outcome] at moved
      exact moved
  | error failure middle =>
      rw [outcome] at moved
      exact trans_of R moved (recovery failure middle outcome)

theorem Within.tryCatch {m : EStateM ε σ α} {handler : ε → EStateM ε σ α}
    (body : Within R m) (recovery : ∀ failure, Within R (handler failure)) :
    Within R (tryCatch m handler) :=
  fun state => (body state).tryCatch fun failure after _ => recovery failure after

end Preorder

/-- Run the same computation a fixed number of times. -/
def times (count : Nat) (m : EStateM ε σ Unit) : EStateM ε σ Unit :=
  match count with
  | 0 => pure ()
  | count + 1 => do
      m
      times count m

theorem Within.times [IsPreorder σ R] {m : EStateM ε σ Unit}
    (body : Within R m) (count : Nat) : Within R (times count m) := by
  induction count with
  | zero => exact fun _ => WithinAt.pure ()
  | succ count ih => exact Within.bind body (fun _ => ih)

end Foundations
