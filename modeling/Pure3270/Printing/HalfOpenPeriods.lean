import Pure3270.Printing.CircuitBreaker

/-!
# The half-open periods of a breaker

The breaker counts the calls that it admits in a half-open period and the successes that it
records in one.  Neither counter knows which call it counts: here a run is watched together
with the period in which each function was started.
-/

namespace Pure3270

open Foundations

/-- A breaker in use, and what it does not note: how many half-open periods have begun, in
which of them each running function was started, and the functions whose successes it has
counted since the last period began. -/
structure WatchedCalls (Time : Type) where
  calls : GuardedCalls Time
  period : Nat
  startedIn : List (Option Nat)
  succeeded : List (Option Nat)

/-- What happens next, where it matters to which of the running functions. -/
inductive WatchedEvent (Time : Type) where
  | call (hasFallback : Bool) (notified : Notified)
  | success (index : Nat) (notified : Notified)
  | raised (index : Nat)
  | failure
  | cancelled (index : Nat)
  | abandoned
  | forceOpen
  | advance (time : Time)

namespace WatchedCalls

variable {Time : Type} [Sub Time] [LE Time] [DecidableLE Time]

def new (name : String) (config : CircuitBreakerConfig Time) (clock : Time) :
    WatchedCalls Time :=
  { calls := .new name config clock, period := 0, startedIn := [], succeeded := [] }

def isHalfOpen (watched : WatchedCalls Time) : Bool :=
  watched.calls.breaker.state = .halfOpen

/-- A call that enters a half-open period, or is admitted in one, belongs to it. -/
def watchCall (hasFallback : Bool) (notified : Notified) (watched : WatchedCalls Time) :
    WatchedCalls Time :=
  let event := BreakerEvent.call hasFallback notified
  let after := GuardedCalls.step event watched.calls
  let halfOpen := decide (after.breaker.state = .halfOpen)
  let enters := halfOpen && !watched.isHalfOpen
  let period := watched.period + enters.toNat
  { calls := after
    period
    startedIn :=
      if GuardedCalls.starts event watched.calls then
        watched.startedIn ++ [if halfOpen then some period else none]
      else watched.startedIn
    succeeded := if enters then [] else watched.succeeded }

/-- A running function is over, and what follows is done to the breaker. -/
def watchEnd (index : Nat) (event : BreakerEvent Time) (watched : WatchedCalls Time) :
    WatchedCalls Time :=
  { watched with
    calls := GuardedCalls.step event watched.calls
    startedIn := watched.startedIn.eraseIdx index }

def step : WatchedEvent Time → WatchedCalls Time → WatchedCalls Time
  | .call hasFallback notified, watched => watched.watchCall hasFallback notified
  | .success index notified, watched =>
      match watched.startedIn[index]? with
      | none => watched
      | some started =>
          { watched.watchEnd index (.success notified) with
            succeeded :=
              if watched.isHalfOpen then watched.succeeded ++ [started]
              else watched.succeeded }
  | .raised index, watched =>
      if index < watched.startedIn.length then watched.watchEnd index .raised else watched
  | .failure, watched => { watched with calls := GuardedCalls.step .failure watched.calls }
  | .cancelled index, watched =>
      if index < watched.startedIn.length then watched.watchEnd index .cancelled else watched
  | .abandoned, watched => { watched with calls := GuardedCalls.step .abandoned watched.calls }
  | .forceOpen, watched => { watched with calls := GuardedCalls.step .forceOpen watched.calls }
  | .advance time, watched =>
      { watched with calls := GuardedCalls.step (.advance time) watched.calls }

/-- The successes of functions that were started in the last period. -/
def ownSuccesses (watched : WatchedCalls Time) : Nat :=
  watched.succeeded.count (some watched.period)

/-- No call is in flight, and every further call will be refused. -/
structure Stuck (watched : WatchedCalls Time) : Prop where
  halfOpen : watched.calls.breaker.state = .halfOpen
  idle : watched.calls.running = 0 ∧ watched.calls.unrecorded = 0
  refuses : watched.calls.breaker.config.halfOpenMaxCalls ≤ watched.calls.breaker.halfOpenCalls

/-- A step from half-open to closed comes after enough successes of functions that were
started in this period. -/
def Earned (event : WatchedEvent Time) (watched : WatchedCalls Time) : Prop :=
  watched.calls.breaker.state = .halfOpen →
    (step event watched).calls.breaker.state = .closed →
      watched.calls.breaker.config.successThreshold ≤ (step event watched).ownSuccesses

/-- One success more closes the breaker. -/
def NextCloses (watched : WatchedCalls Time) : Prop :=
  watched.calls.breaker.config.successThreshold ≤ watched.calls.breaker.successCount + 1

/-- The step ends the only call in flight and records nothing, or a success that does not
close the breaker. -/
def EndsLast : WatchedEvent Time → WatchedCalls Time → Prop
  | .success index _, watched =>
      index < watched.startedIn.length ∧ ¬ watched.NextCloses ∧
        watched.calls.running = 1 ∧ watched.calls.unrecorded = 0
  | .cancelled index, watched =>
      index < watched.startedIn.length ∧ watched.calls.running = 1 ∧
        watched.calls.unrecorded = 0
  | .abandoned, watched => watched.calls.running = 0 ∧ watched.calls.unrecorded = 1
  | _, _ => False

/-- The step records the success that closes the breaker, of this function. -/
def Closes (event : WatchedEvent Time) (started : Option Nat) (watched : WatchedCalls Time) :
    Prop :=
  watched.NextCloses ∧ ∃ index notified, event = .success index notified ∧
    watched.startedIn[index]? = some started

/-- In a half-open period, the last call in flight leaves room for another call, and the
breaker is closed by functions of this period alone. -/
structure InPeriod (event : WatchedEvent Time) (watched : WatchedCalls Time) : Prop where
  room : watched.calls.breaker.state = .halfOpen → EndsLast event watched →
    (watched.calls.breaker.halfOpenCalls : Int) <
      watched.calls.breaker.config.halfOpenMaxCalls
  own : watched.calls.breaker.state = .halfOpen → ∀ started, Closes event started watched →
    ∀ counted ∈ watched.succeeded ++ [started], counted = some watched.period

/-- What every run keeps. -/
structure Counted (config : CircuitBreakerConfig Time) (watched : WatchedCalls Time) :
    Prop where
  configured : watched.calls.breaker.config = config
  running : watched.calls.running = watched.startedIn.length
  inside : watched.calls.breaker.state = .halfOpen →
    watched.calls.breaker.successCount = watched.succeeded.length ∧
      (watched.calls.breaker.successCount : Int) < config.successThreshold
  outside : watched.calls.breaker.state ≠ .halfOpen → watched.calls.breaker.successCount = 0

end WatchedCalls

namespace WatchedCalls

variable {Time : Type} {config : CircuitBreakerConfig Time} {watched : WatchedCalls Time}

theorem new_counted (name : String) (config : CircuitBreakerConfig Time) (clock : Time) :
    Counted config (new name config clock) where
  configured := rfl
  running := rfl
  inside halfOpen := by cases halfOpen
  outside _ := rfl

/-- Steps that leave the breaker alone. -/
theorem Counted.of_same {after : WatchedCalls Time} (counted : Counted config watched)
    (breaker : after.calls.breaker = watched.calls.breaker)
    (succeeded : after.succeeded = watched.succeeded)
    (running : after.calls.running = after.startedIn.length) : Counted config after := by
  constructor
  · rw [breaker]
    exact counted.configured
  · exact running
  · rw [breaker, succeeded]
    exact counted.inside
  · rw [breaker]
    exact counted.outside

theorem not_closes {event : WatchedEvent Time} {started : Option Nat}
    (other : ∀ index notified, event ≠ .success index notified) :
    ¬ Closes event started watched := by
  rintro ⟨_, index, notified, same, _⟩
  exact other index notified same

theorem own_iff {started : Option Nat} (counted : Counted config watched)
    (before : watched.calls.breaker.state = .halfOpen) (enough : watched.NextCloses) :
    watched.calls.breaker.config.successThreshold ≤
        ((watched.succeeded ++ [started]).count (some watched.period) : Int) ↔
      ∀ one ∈ watched.succeeded ++ [started], one = some watched.period := by
  obtain ⟨more, few⟩ := counted.inside before
  have length : (watched.succeeded ++ [started]).length =
      watched.calls.breaker.successCount + 1 := by
    rw [more, List.length_append, List.length_singleton]
  have most := List.count_le_length (a := some watched.period)
    (l := watched.succeeded ++ [started])
  have exact' := @List.count_eq_length _ _ _ (some watched.period)
    (watched.succeeded ++ [started])
  unfold NextCloses at enough
  rw [counted.configured] at enough ⊢
  constructor
  · intro reached one member
    exact (exact'.mp (by omega) one member).symm
  · intro own
    have full := exact'.mpr fun one member => (own one member).symm
    omega

section Steps

variable [Sub Time] [LE Time] [DecidableLE Time]

theorem step_success {index : Nat} {started : Option Nat} (notified : Notified)
    (counted : Counted config watched) (found : watched.startedIn[index]? = some started) :
    let after := step (.success index notified) watched
    after.calls = watched.calls.finishSuccess notified ∧ after.period = watched.period ∧
      after.startedIn = watched.startedIn.eraseIdx index ∧
      after.succeeded = if watched.calls.breaker.state = .halfOpen then
        watched.succeeded ++ [started] else watched.succeeded := by
  obtain ⟨inside, _⟩ := List.getElem?_eq_some_iff.mp found
  have busy : watched.calls.running ≠ 0 := by
    rw [counted.running]
    omega
  have stepped : step (.success index notified) watched =
      { watched.watchEnd index (.success notified) with
        succeeded :=
          if watched.isHalfOpen then watched.succeeded ++ [started]
          else watched.succeeded } := by
    simp only [step, found]
  rw [stepped]
  refine ⟨if_neg busy, rfl, rfl, ?_⟩
  unfold isHalfOpen
  simp only [decide_eq_true_eq]

theorem step_call (hasFallback : Bool) (notified : Notified) (watched : WatchedCalls Time) :
    let event := BreakerEvent.call hasFallback notified
    let after := step (.call hasFallback notified) watched
    after.calls = GuardedCalls.step event watched.calls ∧
      after.startedIn.length =
        watched.startedIn.length + (GuardedCalls.starts event watched.calls).toNat ∧
      (after.calls.breaker.state = .halfOpen → after.succeeded =
        if watched.calls.breaker.state = .halfOpen then watched.succeeded else []) := by
  refine ⟨rfl, ?_, ?_⟩
  · simp only [step, watchCall]
    cases GuardedCalls.starts (.call hasFallback notified) watched.calls with
    | false => rfl
    | true => simp
  · intro halfOpen
    simp only [step, watchCall, isHalfOpen] at halfOpen ⊢
    rw [decide_eq_true halfOpen]
    by_cases before : watched.calls.breaker.state = .halfOpen
    · simp [before]
    · simp [before]

theorem counted_call (hasFallback : Bool) (notified : Notified)
    (threshold : 1 ≤ config.successThreshold) (counted : Counted config watched) :
    Counted config (step (.call hasFallback notified) watched) := by
  obtain ⟨same, successes, _, moved⟩ := CircuitBreaker.admit_keeps watched.calls.clock
    hasFallback notified watched.calls.breaker
  obtain ⟨calls, length, succeeded⟩ := step_call hasFallback notified watched
  have after : (step (.call hasFallback notified) watched).calls.breaker =
      (watched.calls.breaker.admitCall watched.calls.clock hasFallback notified).2 := by
    rw [calls]
    rfl
  constructor
  · rw [after, same]
    exact counted.configured
  · rw [length, ← counted.running]
    rfl
  · intro halfOpen
    rw [succeeded halfOpen]
    rw [after] at halfOpen ⊢
    rw [successes]
    by_cases before : watched.calls.breaker.state = .halfOpen
    · rw [if_pos before]
      exact counted.inside before
    · rw [if_neg before, counted.outside before]
      refine ⟨rfl, ?_⟩
      push_cast
      omega
  · intro outside
    rw [after] at outside ⊢
    rw [successes]
    apply counted.outside
    intro before
    rcases moved with stays | ⟨opened, _⟩
    · exact outside (stays.trans before)
    · cases opened.symm.trans before

theorem counted_success (index : Nat) (notified : Notified)
    (counted : Counted config watched) :
    Counted config (step (.success index notified) watched) := by
  cases found : watched.startedIn[index]? with
  | none =>
      have same : step (.success index notified) watched = watched := by
        simp only [step, found]
      rw [same]
      exact counted
  | some started =>
      obtain ⟨calls, _, startedIn, succeeded⟩ := step_success notified counted found
      obtain ⟨inside, _⟩ := List.getElem?_eq_some_iff.mp found
      have after : (step (.success index notified) watched).calls.breaker =
          watched.calls.breaker.recordSuccess.2 := by
        rw [calls]
        rfl
      obtain ⟨same, _, moved⟩ := CircuitBreaker.recordSuccess_cases watched.calls.breaker
      constructor
      · rw [after, same]
        exact counted.configured
      · rw [startedIn, List.length_eraseIdx_of_lt inside, ← counted.running, calls]
        rfl
      · intro halfOpen
        rw [succeeded]
        rw [after] at halfOpen ⊢
        rcases moved with ⟨outside, stays, _⟩ | ⟨_, _, closed, _⟩ |
          ⟨before, below, _, one, _⟩
        · exact absurd (stays.symm.trans halfOpen) outside
        · cases closed.symm.trans halfOpen
        · have more := (counted.inside before).1
          rw [if_pos before, one, List.length_append, List.length_singleton, more]
          refine ⟨rfl, ?_⟩
          rw [counted.configured, more] at below
          push_cast
          omega
      · intro outside
        rw [after] at outside ⊢
        rcases moved with ⟨before, _, none⟩ | ⟨_, _, _, none⟩ | ⟨_, _, halfOpen, _⟩
        · exact none.trans (counted.outside before)
        · exact none
        · exact absurd halfOpen outside

theorem counted_failure (counted : Counted config watched) :
    Counted config (step .failure watched) := by
  simp only [step]
  by_cases none : watched.calls.unrecorded = 0
  · have same : GuardedCalls.step .failure watched.calls = watched.calls := if_pos none
    rw [same]
    exact counted
  · have after : (GuardedCalls.step .failure watched.calls).breaker =
        watched.calls.breaker.recordFailure watched.calls.clock := by
      simp only [GuardedCalls.step, if_neg none]
    have running : (GuardedCalls.step .failure watched.calls).running =
        watched.calls.running := by
      simp only [GuardedCalls.step, if_neg none]
    obtain ⟨same, _, outside, _, successes⟩ :=
      CircuitBreaker.recordFailure_keeps watched.calls.clock watched.calls.breaker
    constructor
    · exact (congrArg (·.config) after).trans (same.trans counted.configured)
    · exact running.trans counted.running
    · intro halfOpen
      exact absurd ((congrArg (·.state) after).symm.trans halfOpen) outside
    · intro _
      refine (congrArg (·.successCount) after).trans ?_
      rcases successes with forgotten | ⟨before, kept⟩
      · exact forgotten
      · exact kept.trans (counted.outside before)

theorem step_counted (threshold : 1 ≤ config.successThreshold) (event : WatchedEvent Time)
    (counted : Counted config watched) : Counted config (step event watched) := by
  cases event with
  | call hasFallback notified => exact counted_call hasFallback notified threshold counted
  | success index notified => exact counted_success index notified counted
  | raised index =>
      simp only [step]
      split
      · next inside =>
          have busy : watched.calls.running ≠ 0 := by
            rw [counted.running]
            omega
          refine counted.of_same ?_ rfl ?_
          · simp only [watchEnd, GuardedCalls.step, if_neg busy]
          · simp only [watchEnd, GuardedCalls.step, if_neg busy,
              List.length_eraseIdx_of_lt inside]
            rw [counted.running]
      · exact counted
  | failure => exact counted_failure counted
  | cancelled index =>
      simp only [step]
      split
      · next inside =>
          refine counted.of_same rfl rfl ?_
          simp only [watchEnd, GuardedCalls.step, List.length_eraseIdx_of_lt inside,
            counted.running]
      · exact counted
  | abandoned => exact counted.of_same rfl rfl counted.running
  | forceOpen =>
      constructor
      · exact counted.configured
      · exact counted.running
      · intro halfOpen
        cases halfOpen
      · intro _
        rfl
  | advance time =>
      simp only [step, GuardedCalls.step]
      split
      · exact counted.of_same rfl rfl counted.running
      · exact counted

theorem same_iff {event : WatchedEvent Time} (free : ¬ watched.Stuck)
    (same : (step event watched).calls.breaker = watched.calls.breaker)
    (other : ∀ index notified, event ≠ .success index notified)
    (idle : (step event watched).calls.running = 0 ∧ (step event watched).calls.unrecorded = 0 ↔
      EndsLast event watched ∨
        watched.calls.running = 0 ∧ watched.calls.unrecorded = 0) :
    ¬ (step event watched).Stuck ∧ Earned event watched ↔ InPeriod event watched := by
  have earned : Earned event watched := by
    intro halfOpen closed
    rw [same] at closed
    cases halfOpen.symm.trans closed
  rw [and_iff_left earned]
  constructor
  · intro stays
    refine ⟨fun halfOpen ends => ?_, fun _ started closes => absurd closes (not_closes other)⟩
    refine Int.not_le.mp fun full => stays ⟨?_, idle.mpr (.inl ends), ?_⟩
    · rw [same]
      exact halfOpen
    · rw [same]
      exact full
  · rintro within ⟨halfOpen, none, refuses⟩
    rw [same] at halfOpen refuses
    rcases idle.mp none with ends | before
    · exact absurd (within.room halfOpen ends) (Int.not_lt.mpr refuses)
    · exact free ⟨halfOpen, before, refuses⟩

theorem quiet_iff {event : WatchedEvent Time} (goesOn : ¬ EndsLast event watched)
    (open' : ∀ started, ¬ Closes event started watched)
    (free : ¬ (step event watched).Stuck) (earned : Earned event watched) :
    ¬ (step event watched).Stuck ∧ Earned event watched ↔ InPeriod event watched :=
  iff_of_true ⟨free, earned⟩
    ⟨fun _ ends => absurd ends goesOn, fun _ started closes => absurd closes (open' started)⟩

theorem call_iff (hasFallback : Bool) (notified : Notified)
    (limit : 1 ≤ config.halfOpenMaxCalls) (counted : Counted config watched)
    (free : ¬ watched.Stuck) :
    ¬ (step (.call hasFallback notified) watched).Stuck ∧
        Earned (.call hasFallback notified) watched ↔
      InPeriod (.call hasFallback notified) watched := by
  obtain ⟨same, _, _, moved⟩ := CircuitBreaker.admit_keeps watched.calls.clock hasFallback
    notified watched.calls.breaker
  refine quiet_iff id (fun started => not_closes fun _ _ same => by cases same) ?_ ?_
  · rintro ⟨halfOpen, ⟨running, unrecorded⟩, refuses⟩
    have count := GuardedCalls.step_halfOpen halfOpen
    have idle : watched.calls.running +
        (GuardedCalls.starts (.call hasFallback notified) watched.calls).toNat = 0 := running
    have none : (GuardedCalls.starts (.call hasFallback notified) watched.calls).toNat = 0 := by
      omega
    have config' : (step (.call hasFallback notified) watched).calls.breaker.config = config :=
      same.trans counted.configured
    rw [config'] at refuses
    change _ ≤ (((GuardedCalls.step (.call hasFallback notified)
      watched.calls).breaker.halfOpenCalls : Nat) : Int) at refuses
    rw [count, none] at refuses
    by_cases before : watched.calls.breaker.state = .halfOpen
    · rw [if_pos before] at refuses
      refine free ⟨before, ⟨by omega, unrecorded⟩, ?_⟩
      rw [counted.configured]
      exact refuses
    · rw [if_neg before] at refuses
      push_cast at refuses
      omega
  · intro halfOpen closed
    rcases moved with stays | ⟨opened, _⟩
    · cases (stays.trans halfOpen).symm.trans closed
    · cases opened.symm.trans halfOpen

theorem success_closes_iff {index : Nat} {started : Option Nat} (notified : Notified)
    (counted : Counted config watched) (found : watched.startedIn[index]? = some started)
    (before : watched.calls.breaker.state = .halfOpen) (enough : watched.NextCloses)
    (closed : (step (.success index notified) watched).calls.breaker.state = .closed) :
    ¬ (step (.success index notified) watched).Stuck ∧
        Earned (.success index notified) watched ↔
      InPeriod (.success index notified) watched := by
  obtain ⟨_, period, _, succeeded⟩ := step_success notified counted found
  have left : ¬ (step (.success index notified) watched).Stuck := by
    rintro ⟨halfOpen, _⟩
    cases closed.symm.trans halfOpen
  have own : (step (.success index notified) watched).ownSuccesses =
      (watched.succeeded ++ [started]).count (some watched.period) := by
    unfold ownSuccesses
    rw [succeeded, if_pos before, period]
  rw [and_iff_right left]
  unfold Earned
  rw [own]
  constructor
  · intro earned
    refine ⟨fun _ ends => absurd enough ends.2.1, ?_⟩
    rintro _ other ⟨_, at', _, named, there⟩
    cases named
    cases found.symm.trans there
    exact (own_iff counted before enough).mp (earned before closed)
  · intro within _ _
    exact (own_iff counted before enough).mpr
      (within.own before started ⟨enough, index, notified, rfl, found⟩)

theorem success_stays_iff {index : Nat} {started : Option Nat} (notified : Notified)
    (counted : Counted config watched) (found : watched.startedIn[index]? = some started)
    (before : watched.calls.breaker.state = .halfOpen) (below : ¬ watched.NextCloses)
    (halfOpen : (step (.success index notified) watched).calls.breaker.state = .halfOpen)
    (refusing : (step (.success index notified) watched).calls.breaker.config.halfOpenMaxCalls ≤
        (step (.success index notified) watched).calls.breaker.halfOpenCalls ↔
      watched.calls.breaker.config.halfOpenMaxCalls ≤ watched.calls.breaker.halfOpenCalls)
    (silent : watched.calls.breaker.recordSuccess.1 = false) :
    ¬ (step (.success index notified) watched).Stuck ∧
        Earned (.success index notified) watched ↔
      InPeriod (.success index notified) watched := by
  obtain ⟨calls, _⟩ := step_success notified counted found
  obtain ⟨inside, _⟩ := List.getElem?_eq_some_iff.mp found
  have ends : EndsLast (.success index notified) watched ↔
      watched.calls.running = 1 ∧ watched.calls.unrecorded = 0 := by
    unfold EndsLast
    simp only [inside, below, not_false_eq_true, true_and]
  have idle : (step (.success index notified) watched).calls.running =
        watched.calls.running - 1 ∧
      (step (.success index notified) watched).calls.unrecorded =
        watched.calls.unrecorded := by
    rw [calls]
    unfold GuardedCalls.finishSuccess
    dsimp only
    rw [silent]
    exact ⟨rfl, if_neg fun notifies => Bool.false_ne_true notifies.1⟩
  have busy := counted.running
  have earned : Earned (.success index notified) watched := by
    intro _ closed
    cases halfOpen.symm.trans closed
  rw [and_iff_left earned]
  constructor
  · intro stays
    refine ⟨fun _ last => ?_, ?_⟩
    · obtain ⟨running, unrecorded⟩ := ends.mp last
      refine Int.not_le.mp fun full => stays ⟨halfOpen, ⟨?_, ?_⟩, refusing.mpr full⟩
      · rw [idle.1]
        omega
      · rw [idle.2]
        exact unrecorded
    · rintro _ other ⟨closes, _⟩
      exact absurd closes below
  · rintro within ⟨_, ⟨running, unrecorded⟩, refuses⟩
    rw [idle.1] at running
    rw [idle.2] at unrecorded
    exact absurd (within.room before (ends.mpr ⟨by omega, unrecorded⟩))
      (Int.not_lt.mpr (refusing.mp refuses))

theorem success_iff (index : Nat) (notified : Notified) (counted : Counted config watched)
    (free : ¬ watched.Stuck) :
    ¬ (step (.success index notified) watched).Stuck ∧
        Earned (.success index notified) watched ↔
      InPeriod (.success index notified) watched := by
  cases found : watched.startedIn[index]? with
  | none =>
      have same : step (.success index notified) watched = watched := by
        simp only [step, found]
      have beyond : ¬ index < watched.startedIn.length :=
        Nat.not_lt.mpr (List.getElem?_eq_none_iff.mp found)
      refine quiet_iff (fun ends => beyond ends.1) ?_ (same.symm ▸ free) ?_
      · rintro started ⟨_, _, _, named, there⟩
        cases named
        cases found.symm.trans there
      · intro halfOpen closed
        rw [same] at closed
        cases halfOpen.symm.trans closed
  | some started =>
      have after : (step (.success index notified) watched).calls.breaker =
          watched.calls.breaker.recordSuccess.2 := by
        rw [(step_success notified counted found).1]
        rfl
      obtain ⟨same, _, moved⟩ := CircuitBreaker.recordSuccess_cases watched.calls.breaker
      rcases moved with ⟨outside, stays, _⟩ | ⟨before, enough, closed, _⟩ |
        ⟨before, below, halfOpen, _, kept, silent⟩
      · refine iff_of_true ⟨?_, fun halfOpen => absurd halfOpen outside⟩
          ⟨fun halfOpen => absurd halfOpen outside, fun halfOpen => absurd halfOpen outside⟩
        rintro ⟨halfOpen, _⟩
        rw [after, stays] at halfOpen
        exact outside halfOpen
      · exact success_closes_iff notified counted found before enough (after.symm ▸ closed)
      · refine success_stays_iff notified counted found before below (after.symm ▸ halfOpen)
          ?_ silent
        rw [after, same, kept]

theorem step_iff (limit : 1 ≤ config.halfOpenMaxCalls) (event : WatchedEvent Time)
    (counted : Counted config watched) (free : ¬ watched.Stuck) :
    ¬ (step event watched).Stuck ∧ Earned event watched ↔ InPeriod event watched := by
  have busy := counted.running
  cases event with
  | call hasFallback notified => exact call_iff hasFallback notified limit counted free
  | success index notified => exact success_iff index notified counted free
  | raised index =>
      refine same_iff free ?_ (fun _ _ same => by cases same) ?_
      · simp only [step]
        split
        · next inside =>
            have running : watched.calls.running ≠ 0 := by omega
            simp only [watchEnd, GuardedCalls.step, if_neg running]
        · rfl
      · simp only [step]
        split
        · next inside =>
            have running : watched.calls.running ≠ 0 := by omega
            simp only [watchEnd, GuardedCalls.step, if_neg running, EndsLast, false_or]
            omega
        · simp only [EndsLast, false_or]
  | failure =>
      have other : ∀ index notified, (.failure : WatchedEvent Time) ≠ .success index notified :=
        fun _ _ same => by cases same
      by_cases none : watched.calls.unrecorded = 0
      · have same : GuardedCalls.step .failure watched.calls = watched.calls := if_pos none
        refine same_iff free ?_ other ?_
        · simp only [step, same]
        · simp only [step, same, EndsLast, false_or]
      · have after : (step .failure watched).calls.breaker =
            watched.calls.breaker.recordFailure watched.calls.clock := by
          simp only [step, GuardedCalls.step, if_neg none]
        obtain ⟨_, _, outside, opens, _⟩ :=
          CircuitBreaker.recordFailure_keeps watched.calls.clock watched.calls.breaker
        refine quiet_iff id (fun _ => not_closes other) ?_ ?_
        · rintro ⟨halfOpen, _⟩
          rw [after] at halfOpen
          exact outside halfOpen
        · intro halfOpen closed
          rw [after] at closed
          cases (opens halfOpen).symm.trans closed
  | cancelled index =>
      refine same_iff free ?_ (fun _ _ same => by cases same) ?_
      · simp only [step]
        split
        · rfl
        · rfl
      · simp only [step]
        split
        · next inside =>
            simp only [watchEnd, GuardedCalls.step, EndsLast, inside, true_and]
            omega
        · next beyond => simp only [EndsLast, beyond, false_and, false_or]
  | abandoned =>
      refine same_iff free rfl (fun _ _ same => by cases same) ?_
      simp only [step, GuardedCalls.step, EndsLast]
      omega
  | forceOpen =>
      refine quiet_iff id (fun started => not_closes fun _ _ same => by cases same) ?_ ?_
      · rintro ⟨halfOpen, _⟩
        cases halfOpen
      · intro _ closed
        cases closed
  | advance time =>
      refine same_iff free ?_ (fun _ _ same => by cases same) ?_
      · simp only [step, GuardedCalls.step]
        split
        · rfl
        · rfl
      · simp only [step, GuardedCalls.step, EndsLast, false_or]
        split
        · rfl
        · rfl

/-- The breaker is never stuck and is closed only by functions of the period exactly when
the last calls of the periods leave room and no late success helps to close it. -/
theorem halfOpen_throughout_iff (name : String) (config : CircuitBreakerConfig Time)
    (clock : Time) (threshold : 1 ≤ config.successThreshold)
    (limit : 1 ≤ config.halfOpenMaxCalls) (events : List (WatchedEvent Time)) :
    (Always step (fun watched => ¬ watched.Stuck) events (new name config clock) ∧
        Along step Earned events (new name config clock)) ↔
      Along step InPeriod events (new name config clock) := by
  refine @always_and_along_iff _ _ _ (Counted config) _ _ _ ?_ ?_ _ _
    (new_counted name config clock) ?_
  · intro event watched counted
    exact step_counted threshold event counted
  · intro event watched counted free
    exact step_iff limit event counted free
  · rintro ⟨halfOpen, _⟩
    cases halfOpen

end Steps

/-- A breaker that has been forced open recovers with one success. -/
theorem halfOpen_throughout_recovered :
    (Always step (fun watched => ¬ watched.Stuck)
          [.forceOpen, .advance 5, .call false .told, .success 0 .told]
          (new "printer" GuardedCalls.oneFailure 0) ∧
        Along step Earned [.forceOpen, .advance 5, .call false .told, .success 0 .told]
          (new "printer" GuardedCalls.oneFailure 0)) ↔
      Along step InPeriod [.forceOpen, .advance 5, .call false .told, .success 0 .told]
        (new "printer" GuardedCalls.oneFailure 0) :=
  halfOpen_throughout_iff "printer" GuardedCalls.oneFailure 0 (by decide) (by decide)
    [.forceOpen, .advance 5, .call false .told, .success 0 .told]

/-- The one call that may try the recovery is cancelled, and no other ever tries it. -/
theorem stuck_cancelled :
    ¬ Always step (fun watched => ¬ watched.Stuck)
      [.forceOpen, .advance 5, .call false .told, .cancelled 0]
      (new "printer" GuardedCalls.oneFailure 0) := by
  intro always
  exact always.last ⟨by decide, by decide, by decide⟩

end WatchedCalls

end Pure3270
