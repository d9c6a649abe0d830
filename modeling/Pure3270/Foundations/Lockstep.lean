import Pure3270.Foundations.MeasuredLoop

/-!
# Two computations in lockstep

Two computations run in lockstep when they leave in the same way, with the
same value or the same exception, and in related states.  Sequencing,
branching, exception handling and repetition keep the step.  A loop keeps it
as long as the states before each pair of rounds pass a test of their own,
which need not be an invariant.
-/

namespace Foundations

variable {ε σ τ α β : Type} {R S : σ → τ → Prop} {left : σ} {right : τ}

/-- The same way out, in related states. -/
inductive SameExit (R : σ → τ → Prop) :
    EStateM.Result ε σ α → EStateM.Result ε τ α → Prop where
  | ok (value : α) {after : σ} {twin : τ} :
      R after twin → SameExit R (.ok value after) (.ok value twin)
  | error (failure : ε) {after : σ} {twin : τ} :
      R after twin → SameExit R (.error failure after) (.error failure twin)

theorem SameExit.finalState {first : EStateM.Result ε σ α}
    {second : EStateM.Result ε τ α} (same : SameExit R first second) :
    R (finalState first) (finalState second) := by
  cases same with
  | ok value related => exact related
  | error failure related => exact related

theorem SameExit.mono (weaker : ∀ {left right}, R left right → S left right)
    {first : EStateM.Result ε σ α} {second : EStateM.Result ε τ α}
    (same : SameExit R first second) : SameExit S first second := by
  cases same with
  | ok value related => exact .ok value (weaker related)
  | error failure related => exact .error failure (weaker related)

def LockstepAt (R : σ → τ → Prop) (m : EStateM ε σ α) (n : EStateM ε τ α)
    (left : σ) (right : τ) : Prop :=
  SameExit R (m left) (n right)

/-- Lockstep from all related states. -/
def Lockstep (R : σ → τ → Prop) (m : EStateM ε σ α) (n : EStateM ε τ α) : Prop :=
  ∀ {left right}, R left right → LockstepAt R m n left right

theorem LockstepAt.pure (related : R left right) (value : α) :
    LockstepAt R (pure value : EStateM ε σ α) (pure value) left right :=
  .ok value related

theorem LockstepAt.throw (related : R left right) (failure : ε) :
    LockstepAt R (throw failure : EStateM ε σ α) (throw failure) left right :=
  .error failure related

theorem LockstepAt.modify {f : σ → σ} {g : τ → τ} (related : R (f left) (g right)) :
    LockstepAt R (modify f : EStateM ε σ Unit) (modify g) left right :=
  .ok () related

/-- Both read their state first; what follows may depend on it. -/
theorem LockstepAt.getBind {f : σ → EStateM ε σ β} {g : τ → EStateM ε τ β}
    (next : LockstepAt R (f left) (g right) left right) :
    LockstepAt R ((get : EStateM ε σ σ) >>= f) ((get : EStateM ε τ τ) >>= g)
      left right :=
  next

theorem LockstepAt.ite {condition twin : Prop} [Decidable condition]
    [Decidable twin] {m m' : EStateM ε σ α} {n n' : EStateM ε τ α}
    (same : condition ↔ twin)
    (whenTrue : condition → LockstepAt R m n left right)
    (whenFalse : ¬ condition → LockstepAt R m' n' left right) :
    LockstepAt R (if condition then m else m') (if twin then n else n')
      left right := by
  by_cases holds : condition
  · rw [if_pos holds, if_pos (same.mp holds)]
    exact whenTrue holds
  · rw [if_neg holds, if_neg fun there => holds (same.mpr there)]
    exact whenFalse holds

theorem LockstepAt.bind {m : EStateM ε σ α} {n : EStateM ε τ α}
    {f : α → EStateM ε σ β} {g : α → EStateM ε τ β}
    (first : LockstepAt R m n left right)
    (next : ∀ value after twin, m left = .ok value after →
      n right = .ok value twin → R after twin →
        LockstepAt R (f value) (g value) after twin) :
    LockstepAt R (m >>= f) (n >>= g) left right := by
  unfold LockstepAt at first
  cases outcome : m left with
  | ok value after =>
      cases other : n right with
      | ok value' twin =>
          rw [outcome, other] at first
          cases first with
          | ok _ related =>
              unfold LockstepAt
              rw [run_bind_ok outcome, run_bind_ok other]
              exact next value after twin outcome other related
      | error failure twin =>
          rw [outcome, other] at first
          cases first
  | error failure after =>
      cases other : n right with
      | ok value twin =>
          rw [outcome, other] at first
          cases first
      | error failure' twin =>
          rw [outcome, other] at first
          cases first with
          | error _ related =>
              unfold LockstepAt
              rw [run_bind_error outcome, run_bind_error other]
              exact .error failure related

theorem Lockstep.bind {m : EStateM ε σ α} {n : EStateM ε τ α}
    {f : α → EStateM ε σ β} {g : α → EStateM ε τ β}
    (first : Lockstep R m n) (next : ∀ value, Lockstep R (f value) (g value)) :
    Lockstep R (m >>= f) (n >>= g) :=
  fun related => (first related).bind fun value _ _ _ _ kept => next value kept

theorem LockstepAt.tryCatch {m : EStateM ε σ α} {n : EStateM ε τ α}
    {handler : ε → EStateM ε σ α} {handler' : ε → EStateM ε τ α}
    (body : LockstepAt R m n left right)
    (recovery : ∀ failure after twin, R after twin →
      LockstepAt R (handler failure) (handler' failure) after twin) :
    LockstepAt R (tryCatch m handler) (tryCatch n handler') left right := by
  unfold LockstepAt at body
  cases outcome : m left with
  | ok value after =>
      cases other : n right with
      | ok value' twin =>
          rw [outcome, other] at body
          unfold LockstepAt
          rw [run_tryCatch_ok outcome, run_tryCatch_ok other]
          exact body
      | error failure twin =>
          rw [outcome, other] at body
          cases body
  | error failure after =>
      cases other : n right with
      | ok value twin =>
          rw [outcome, other] at body
          cases body
      | error failure' twin =>
          rw [outcome, other] at body
          cases body with
          | error _ related =>
              unfold LockstepAt
              rw [run_tryCatch_error outcome, run_tryCatch_error other]
              exact recovery failure after twin related

theorem Lockstep.tryCatch {m : EStateM ε σ α} {n : EStateM ε τ α}
    {handler : ε → EStateM ε σ α} {handler' : ε → EStateM ε τ α}
    (body : Lockstep R m n)
    (recovery : ∀ failure, Lockstep R (handler failure) (handler' failure)) :
    Lockstep R (tryCatch m handler) (tryCatch n handler') :=
  fun related =>
    (body related).tryCatch fun failure _ _ kept => recovery failure kept

theorem Lockstep.times {m : EStateM ε σ Unit} {n : EStateM ε τ Unit}
    (body : Lockstep R m n) (count : Nat) :
    Lockstep R (times count m) (times count n) := by
  induction count with
  | zero => exact fun related => .pure related ()
  | succ count ih => exact Lockstep.bind body fun _ => ih

/-- The state after a number of rounds that each asked for another one. -/
def afterRounds (body : EStateM ε σ (Option α)) : Nat → σ → Option σ
  | 0, state => some state
  | count + 1, state =>
      match body state with
      | .ok none after => afterRounds body count after
      | _ => none

theorem afterRounds_succ {body : EStateM ε σ (Option α)} {state after : σ}
    (round : body state = .ok none after) (count : Nat) :
    afterRounds body (count + 1) state = afterRounds body count after := by
  simp [afterRounds, round]

theorem afterRounds_last {body : EStateM ε σ (Option α)} {count : Nat}
    {state reached : σ} (rounds : afterRounds body (count + 1) state = some reached) :
    ∃ before, afterRounds body count state = some before ∧
      body before = .ok none reached := by
  induction count generalizing state with
  | zero =>
      unfold afterRounds at rounds
      split at rounds
      · rename_i after round
        cases rounds
        exact ⟨state, rfl, round⟩
      · cases rounds
  | succ count ih =>
      unfold afterRounds at rounds
      split at rounds
      · rename_i after round
        obtain ⟨before, earlier, last⟩ := ih rounds
        exact ⟨before, (afterRounds_succ round count).trans earlier, last⟩
      · cases rounds

theorem afterRounds_next {body : EStateM ε σ (Option α)} {count : Nat}
    {state before reached : σ} (rounds : afterRounds body count state = some before)
    (round : body before = .ok none reached) :
    afterRounds body (count + 1) state = some reached := by
  induction count generalizing state with
  | zero =>
      cases rounds
      exact afterRounds_succ round 0
  | succ count ih =>
      unfold afterRounds at rounds
      split at rounds
      · rename_i after first
        exact (afterRounds_succ first (count + 1)).trans (ih rounds)
      · cases rounds

theorem afterRounds_invariant {body : EStateM ε σ (Option α)}
    {Invariant : σ → Prop}
    (keeps : ∀ {before after}, Invariant before →
      body before = .ok none after → Invariant after)
    {count : Nat} {state reached : σ} (holds : Invariant state)
    (rounds : afterRounds body count state = some reached) :
    Invariant reached := by
  induction count generalizing state with
  | zero =>
      cases rounds
      exact holds
  | succ count ih =>
      unfold afterRounds at rounds
      split at rounds
      · rename_i after round
        exact ih (keeps holds round) rounds
      · cases rounds

/-- The states of two loops pass a test before each pair of rounds. -/
def Throughout (Test : σ → τ → Prop) (body : EStateM ε σ (Option α))
    (other : EStateM ε τ (Option α)) (left : σ) (right : τ) : Prop :=
  ∀ count reached twin, afterRounds body count left = some reached →
    afterRounds other count right = some twin → Test reached twin

theorem Throughout.now {Test : σ → τ → Prop} {body : EStateM ε σ (Option α)}
    {other : EStateM ε τ (Option α)} (test : Throughout Test body other left right) :
    Test left right :=
  test 0 left right rfl rfl

theorem Throughout.next {Test : σ → τ → Prop} {body : EStateM ε σ (Option α)}
    {other : EStateM ε τ (Option α)} {after : σ} {twin : τ}
    (test : Throughout Test body other left right)
    (round : body left = .ok none after) (turn : other right = .ok none twin) :
    Throughout Test body other after twin :=
  fun count reached twin' rounds turns =>
    test (count + 1) reached twin' ((afterRounds_succ round count).trans rounds)
      ((afterRounds_succ turn count).trans turns)

theorem LockstepAt.iterate {Test : σ → τ → Prop}
    {body : EStateM ε σ (Option α)} {other : EStateM ε τ (Option α)}
    (step : ∀ {before before'}, R before before' → Test before before' →
      LockstepAt R body other before before')
    (related : R left right) (test : Throughout Test body other left right)
    (fuel : Nat) :
    LockstepAt R (iterate body fuel) (iterate other fuel) left right := by
  induction fuel generalizing left right with
  | zero => exact .pure related none
  | succ fuel ih =>
      refine (step related test.now).bind fun result after twin round turn kept => ?_
      cases result with
      | some value => exact .pure kept (some value)
      | none => exact ih kept (test.next round turn)

end Foundations
