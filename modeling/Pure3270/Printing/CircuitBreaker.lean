import Pure3270.Foundations.Runs

/-!
# The circuit breaker of the printer operations

A guarded function is admitted in one critical section and its result recorded in
another, so results of calls admitted in one state arrive in another.  Time is any
type with a difference and an order; nothing else about the clock is used.
-/

namespace Pure3270

open Foundations

inductive CircuitBreakerState where
  | closed
  | opened
  | halfOpen
  deriving DecidableEq

structure CircuitBreakerConfig (Time : Type) where
  failureThreshold : Int
  recoveryTimeout : Time
  successThreshold : Int
  halfOpenMaxCalls : Int

/-- `CircuitBreakerOpenError`. -/
structure CircuitBreakerOpenError (Time : Type) where
  message : String
  circuitName : String
  lastFailureTime : Option Time
  deriving DecidableEq

structure CircuitBreaker (Time : Type) where
  name : String
  config : CircuitBreakerConfig Time
  state : CircuitBreakerState
  failureCount : Nat
  successCount : Nat
  lastFailureTime : Option Time
  halfOpenCalls : Nat
  totalCalls : Nat
  totalFailures : Nat
  totalSuccesses : Nat

/-- How `_notify_state_change` ends: the status reporter is told, or it raises, or the
task is cancelled while it waits. -/
inductive Notified where
  | told
  | raises
  | cancelled
  deriving DecidableEq

/-- What the critical section of `call` decides. -/
inductive Admission (Time : Type) where
  | started
  | fallback
  | refused (error : CircuitBreakerOpenError Time)
  | unnotified
  deriving DecidableEq

def Admission.isStarted {Time : Type} : Admission Time → Bool
  | .started => true
  | _ => false

namespace CircuitBreaker

variable {Time : Type}

/-- `CircuitBreaker.__init__`. -/
def new (name : String) (config : CircuitBreakerConfig Time) : CircuitBreaker Time :=
  { name, config
    state := .closed
    failureCount := 0
    successCount := 0
    lastFailureTime := none
    halfOpenCalls := 0
    totalCalls := 0
    totalFailures := 0
    totalSuccesses := 0 }

/-- `_open_circuit`, less its notification. -/
def openCircuit (breaker : CircuitBreaker Time) : CircuitBreaker Time :=
  { breaker with state := .opened, successCount := 0 }

/-- `_close_circuit`, less its notification. -/
def closeCircuit (breaker : CircuitBreaker Time) : CircuitBreaker Time :=
  { breaker with
    state := .closed
    failureCount := 0
    successCount := 0
    halfOpenCalls := 0 }

/-- Without a fallback the caller is told why the circuit is open. -/
def turnAway (hasFallback : Bool) (message : String) (breaker : CircuitBreaker Time) :
    Admission Time :=
  if hasFallback then .fallback
  else .refused
    { message
      circuitName := breaker.name
      lastFailureTime := breaker.lastFailureTime }

/-- The half-open part of `call`'s critical section. -/
def admitHalfOpen (hasFallback : Bool) (breaker : CircuitBreaker Time) :
    Admission Time × CircuitBreaker Time :=
  if breaker.config.halfOpenMaxCalls ≤ breaker.halfOpenCalls then
    (breaker.turnAway hasFallback
      ("Circuit breaker '" ++ breaker.name ++ "' half-open call limit exceeded"), breaker)
  else (.started, { breaker with halfOpenCalls := breaker.halfOpenCalls + 1 })

def countCall (breaker : CircuitBreaker Time) : CircuitBreaker Time :=
  { breaker with totalCalls := breaker.totalCalls + 1 }

/-- The transition of `call` out of the open state, less its notification. -/
def enterHalfOpen (breaker : CircuitBreaker Time) : CircuitBreaker Time :=
  { breaker with state := .halfOpen, halfOpenCalls := 0 }

section Clock

variable [Sub Time] [LE Time] [DecidableLE Time]

/-- `_should_attempt_recovery`. -/
def shouldAttemptRecovery (now : Time) (breaker : CircuitBreaker Time) : Bool :=
  match breaker.lastFailureTime with
  | none => false
  | some last => decide (breaker.config.recoveryTimeout ≤ now - last)

/-- The critical section of `call`. -/
def admitCall (now : Time) (hasFallback : Bool) (notified : Notified)
    (breaker : CircuitBreaker Time) : Admission Time × CircuitBreaker Time :=
  let counted := breaker.countCall
  match counted.state with
  | .closed => (.started, counted)
  | .halfOpen => counted.admitHalfOpen hasFallback
  | .opened =>
      if counted.shouldAttemptRecovery now then
        let entered := counted.enterHalfOpen
        if notified = .told then entered.admitHalfOpen hasFallback
        else (.unnotified, entered)
      else
        (counted.turnAway hasFallback
          ("Circuit breaker '" ++ counted.name ++ "' is open"), counted)

end Clock

/-- `_record_success`, and whether it notifies. -/
def recordSuccess (breaker : CircuitBreaker Time) : Bool × CircuitBreaker Time :=
  let counted := { breaker with totalSuccesses := breaker.totalSuccesses + 1 }
  if counted.state = .halfOpen then
    let succeeded := { counted with successCount := counted.successCount + 1 }
    if succeeded.config.successThreshold ≤ succeeded.successCount then
      (true, succeeded.closeCircuit)
    else (false, succeeded)
  else (false, { counted with failureCount := 0 })

/-- `_record_failure`.  Nothing is done after its notification. -/
def recordFailure (now : Time) (breaker : CircuitBreaker Time) : CircuitBreaker Time :=
  let counted :=
    { breaker with
      totalFailures := breaker.totalFailures + 1
      failureCount := breaker.failureCount + 1
      lastFailureTime := some now }
  if counted.state = .halfOpen then counted.openCircuit
  else if counted.state = .closed ∧
      counted.config.failureThreshold ≤ counted.failureCount then
    counted.openCircuit
  else counted

def forceOpen (now : Time) (breaker : CircuitBreaker Time) : CircuitBreaker Time :=
  { breaker with state := .opened, successCount := 0, lastFailureTime := some now }

end CircuitBreaker

/-- A breaker in use: the loop's clock, the guarded functions that have not ended and
the calls that have an exception to record. -/
structure GuardedCalls (Time : Type) where
  breaker : CircuitBreaker Time
  clock : Time
  running : Nat
  unrecorded : Nat

/-- What any of the overlapping tasks does next. -/
inductive BreakerEvent (Time : Type) where
  | call (hasFallback : Bool) (notified : Notified)
  | success (notified : Notified)
  | raised
  | failure
  | cancelled
  | abandoned
  | forceOpen
  | advance (time : Time)

namespace GuardedCalls

variable {Time : Type} [Sub Time] [LE Time] [DecidableLE Time]

def new (name : String) (config : CircuitBreakerConfig Time) (clock : Time) :
    GuardedCalls Time :=
  { breaker := .new name config, clock, running := 0, unrecorded := 0 }

/-- A call starts its function when it is admitted. -/
def starts : BreakerEvent Time → GuardedCalls Time → Bool
  | .call hasFallback notified, calls =>
      (calls.breaker.admitCall calls.clock hasFallback notified).1.isStarted
  | _, _ => false

/-- A recorded success whose notification raises has still to record a failure. -/
def finishSuccess (notified : Notified) (calls : GuardedCalls Time) :
    GuardedCalls Time :=
  let (notifies, breaker) := calls.breaker.recordSuccess
  { calls with
    breaker
    running := calls.running - 1
    unrecorded :=
      if notifies ∧ notified = .raises then calls.unrecorded + 1
      else calls.unrecorded }

def step : BreakerEvent Time → GuardedCalls Time → GuardedCalls Time
  | .call hasFallback notified, calls =>
      { calls with
        breaker := (calls.breaker.admitCall calls.clock hasFallback notified).2
        running := calls.running + (starts (.call hasFallback notified) calls).toNat }
  | .success notified, calls =>
      if calls.running = 0 then calls else calls.finishSuccess notified
  | .raised, calls =>
      if calls.running = 0 then calls
      else
        { calls with
          running := calls.running - 1
          unrecorded := calls.unrecorded + 1 }
  | .failure, calls =>
      if calls.unrecorded = 0 then calls
      else
        { calls with
          breaker := calls.breaker.recordFailure calls.clock
          unrecorded := calls.unrecorded - 1 }
  | .cancelled, calls => { calls with running := calls.running - 1 }
  | .abandoned, calls => { calls with unrecorded := calls.unrecorded - 1 }
  | .forceOpen, calls => { calls with breaker := calls.breaker.forceOpen calls.clock }
  | .advance time, calls => if calls.clock ≤ time then { calls with clock := time } else calls

end GuardedCalls

/-- What every state of a breaker with this configuration keeps. -/
structure CircuitBreaker.Sound {Time : Type} (config : CircuitBreakerConfig Time)
    (breaker : CircuitBreaker Time) : Prop where
  configured : breaker.config = config
  belowThreshold : breaker.state = .closed →
    (breaker.failureCount : Int) < config.failureThreshold
  withinLimit : breaker.state = .halfOpen →
    (breaker.halfOpenCalls : Int) ≤ config.halfOpenMaxCalls

namespace CircuitBreaker

variable {Time : Type} {config : CircuitBreakerConfig Time} {breaker : CircuitBreaker Time}

theorem new_sound (name : String) (threshold : 1 ≤ config.failureThreshold) :
    Sound config (new name config) := by
  constructor
  · rfl
  · intro _
    change (0 : Int) < config.failureThreshold
    omega
  · intro halfOpen
    cases halfOpen

theorem turnAway_isStarted (hasFallback : Bool) (message : String) :
    (breaker.turnAway hasFallback message).isStarted = false := by
  cases hasFallback with
  | false => rfl
  | true => rfl

theorem admitHalfOpen_cases (breaker : CircuitBreaker Time) (hasFallback : Bool) :
    (breaker.admitHalfOpen hasFallback).1.isStarted = false ∧
        (breaker.admitHalfOpen hasFallback).2 = breaker ∨
      (breaker.halfOpenCalls : Int) < breaker.config.halfOpenMaxCalls ∧
        breaker.admitHalfOpen hasFallback =
          (.started, { breaker with halfOpenCalls := breaker.halfOpenCalls + 1 }) := by
  unfold admitHalfOpen
  by_cases full : breaker.config.halfOpenMaxCalls ≤ breaker.halfOpenCalls
  · rw [if_pos full]
    left
    exact ⟨turnAway_isStarted hasFallback _, rfl⟩
  · rw [if_neg full]
    exact .inr ⟨by omega, rfl⟩

section Clock

variable [Sub Time] [LE Time] [DecidableLE Time]

/-- All that the critical section of a call can do. -/
theorem admit_cases (now : Time) (hasFallback : Bool) (notified : Notified)
    (breaker : CircuitBreaker Time) :
    breaker.state = .closed ∧
        breaker.admitCall now hasFallback notified = (.started, breaker.countCall) ∨
      breaker.state = .halfOpen ∧
        breaker.admitCall now hasFallback notified =
          breaker.countCall.admitHalfOpen hasFallback ∨
      breaker.state = .opened ∧ breaker.shouldAttemptRecovery now = true ∧
        (breaker.admitCall now hasFallback notified =
            breaker.countCall.enterHalfOpen.admitHalfOpen hasFallback ∨
          breaker.admitCall now hasFallback notified =
            (.unnotified, breaker.countCall.enterHalfOpen)) ∨
      breaker.state = .opened ∧
        (breaker.admitCall now hasFallback notified).1.isStarted = false ∧
        (breaker.admitCall now hasFallback notified).2 = breaker.countCall := by
  have same : breaker.countCall.state = breaker.state := rfl
  have recovery :
      breaker.countCall.shouldAttemptRecovery now = breaker.shouldAttemptRecovery now := rfl
  cases state : breaker.state with
  | closed => exact .inl ⟨rfl, by simp only [admitCall, same, state]⟩
  | halfOpen => exact .inr (.inl ⟨rfl, by simp only [admitCall, same, state]⟩)
  | opened =>
      right
      right
      simp only [admitCall, same, state, recovery]
      by_cases elapsed : breaker.shouldAttemptRecovery now = true
      · left
        rw [if_pos elapsed]
        by_cases told : notified = .told
        · exact ⟨trivial, elapsed, .inl (if_pos told)⟩
        · exact ⟨trivial, elapsed, .inr (if_neg told)⟩
      · right
        rw [if_neg elapsed]
        exact ⟨trivial, turnAway_isStarted hasFallback _, rfl⟩

end Clock

theorem admitHalfOpen_sound (hasFallback : Bool) (sound : Sound config breaker)
    (halfOpen : breaker.state = .halfOpen) :
    Sound config (breaker.admitHalfOpen hasFallback).2 := by
  rcases breaker.admitHalfOpen_cases hasFallback with
    ⟨_, unchanged⟩ | ⟨room, admitted⟩
  · rw [unchanged]
    exact sound
  · rw [admitted]
    constructor
    · exact sound.configured
    · intro closed
      cases halfOpen.symm.trans closed
    · intro _
      rw [sound.configured] at room
      push_cast
      omega

theorem countCall_sound (sound : Sound config breaker) : Sound config breaker.countCall :=
  ⟨sound.configured, sound.belowThreshold, sound.withinLimit⟩

theorem enterHalfOpen_sound (limit : 1 ≤ config.halfOpenMaxCalls)
    (sound : Sound config breaker) : Sound config breaker.enterHalfOpen := by
  constructor
  · exact sound.configured
  · intro closed
    cases closed
  · intro _
    change (0 : Int) ≤ config.halfOpenMaxCalls
    omega

theorem admit_sound [Sub Time] [LE Time] [DecidableLE Time] (now : Time)
    (hasFallback : Bool) (notified : Notified) (limit : 1 ≤ config.halfOpenMaxCalls)
    (sound : Sound config breaker) :
    Sound config (breaker.admitCall now hasFallback notified).2 := by
  have counted := countCall_sound sound
  have entered := enterHalfOpen_sound limit counted
  rcases admit_cases now hasFallback notified breaker with
    ⟨_, admitted⟩ | ⟨halfOpen, admitted⟩ | ⟨_, _, admitted | admitted⟩ | ⟨_, _, refused⟩
  · rw [admitted]
    exact counted
  · rw [admitted]
    exact admitHalfOpen_sound hasFallback counted halfOpen
  · rw [admitted]
    exact admitHalfOpen_sound hasFallback entered rfl
  · rw [admitted]
    exact entered
  · rw [refused]
    exact counted

theorem sound_of_opened (configured : breaker.config = config)
    (opened : breaker.state = .opened) : Sound config breaker := by
  constructor
  · exact configured
  · intro closed
    cases opened.symm.trans closed
  · intro halfOpen
    cases opened.symm.trans halfOpen

theorem recordSuccess_sound (threshold : 1 ≤ config.failureThreshold)
    (sound : Sound config breaker) : Sound config breaker.recordSuccess.2 := by
  have below : ((0 : Nat) : Int) < config.failureThreshold := by
    push_cast
    omega
  unfold recordSuccess
  dsimp only
  by_cases halfOpen : breaker.state = .halfOpen
  · rw [if_pos halfOpen]
    split
    · constructor
      · exact sound.configured
      · intro _
        exact below
      · intro stillHalfOpen
        cases stillHalfOpen
    · exact ⟨sound.configured, sound.belowThreshold, sound.withinLimit⟩
  · rw [if_neg halfOpen]
    exact ⟨sound.configured, fun _ => below, sound.withinLimit⟩

theorem recordFailure_sound (now : Time) (sound : Sound config breaker) :
    Sound config (breaker.recordFailure now) := by
  unfold recordFailure
  dsimp only
  by_cases halfOpen : breaker.state = .halfOpen
  · rw [if_pos halfOpen]
    exact sound_of_opened sound.configured rfl
  · rw [if_neg halfOpen]
    split
    · exact sound_of_opened sound.configured rfl
    · next below =>
        constructor
        · exact sound.configured
        · intro closed
          have few := mt (And.intro closed) below
          rw [sound.configured] at few
          exact Int.not_le.mp few
        · intro stillHalfOpen
          exact absurd stillHalfOpen halfOpen

theorem forceOpen_sound (now : Time) (sound : Sound config breaker) :
    Sound config (breaker.forceOpen now) :=
  sound_of_opened sound.configured rfl

theorem admitHalfOpen_counts (hasFallback : Bool) :
    (breaker.admitHalfOpen hasFallback).2.halfOpenCalls =
      breaker.halfOpenCalls + (breaker.admitHalfOpen hasFallback).1.isStarted.toNat := by
  rcases breaker.admitHalfOpen_cases hasFallback with
    ⟨refused, unchanged⟩ | ⟨_, admitted⟩
  · rw [refused, unchanged]
    rfl
  · rw [admitted]
    rfl

/-- A call that leaves the breaker half open has counted the function it starts, in a
period that it may itself have begun. -/
theorem admit_halfOpen [Sub Time] [LE Time] [DecidableLE Time] (now : Time)
    (hasFallback : Bool) (notified : Notified)
    (halfOpen : (breaker.admitCall now hasFallback notified).2.state = .halfOpen) :
    (breaker.admitCall now hasFallback notified).2.halfOpenCalls =
      (if breaker.state = .halfOpen then breaker.halfOpenCalls else 0) +
        (breaker.admitCall now hasFallback notified).1.isStarted.toNat := by
  rcases admit_cases now hasFallback notified breaker with
    ⟨closed, admitted⟩ | ⟨before, admitted⟩ | ⟨opened, _, admitted | admitted⟩ |
      ⟨opened, _, refused⟩
  · rw [admitted] at halfOpen
    cases closed.symm.trans halfOpen
  · rw [admitted, if_pos before]
    exact admitHalfOpen_counts hasFallback
  · rw [admitted, opened]
    exact admitHalfOpen_counts hasFallback
  · rw [admitted, opened]
    rfl
  · rw [refused] at halfOpen
    cases opened.symm.trans halfOpen

theorem recordSuccess_halfOpen (stays : breaker.recordSuccess.2.state = .halfOpen) :
    breaker.state = .halfOpen ∧
      breaker.recordSuccess.2.halfOpenCalls = breaker.halfOpenCalls := by
  unfold recordSuccess at stays ⊢
  dsimp only at stays ⊢
  by_cases halfOpen : breaker.state = .halfOpen
  · refine ⟨halfOpen, ?_⟩
    rw [if_pos halfOpen] at stays ⊢
    split at stays
    · cases stays
    · next unfinished => rw [if_neg unfinished]
  · rw [if_neg halfOpen] at stays
    exact absurd stays halfOpen

theorem recordFailure_state (now : Time) : (breaker.recordFailure now).state ≠ .halfOpen := by
  unfold recordFailure
  dsimp only
  by_cases halfOpen : breaker.state = .halfOpen
  · rw [if_pos halfOpen]
    intro opened
    cases opened
  · rw [if_neg halfOpen]
    split
    · intro opened
      cases opened
    · exact halfOpen

theorem admitHalfOpen_keeps (hasFallback : Bool) :
    (breaker.admitHalfOpen hasFallback).2.config = breaker.config ∧
      (breaker.admitHalfOpen hasFallback).2.state = breaker.state ∧
      (breaker.admitHalfOpen hasFallback).2.successCount = breaker.successCount ∧
      (breaker.admitHalfOpen hasFallback).2.lastFailureTime = breaker.lastFailureTime := by
  rcases breaker.admitHalfOpen_cases hasFallback with ⟨_, unchanged⟩ | ⟨_, admitted⟩
  · rw [unchanged]
    exact ⟨rfl, rfl, rfl, rfl⟩
  · rw [admitted]
    exact ⟨rfl, rfl, rfl, rfl⟩

/-- A call leaves the successes and the time of the last failure alone, and enters a
half-open period or stays where it is. -/
theorem admit_keeps [Sub Time] [LE Time] [DecidableLE Time] (now : Time) (hasFallback : Bool)
    (notified : Notified) (breaker : CircuitBreaker Time) :
    let after := (breaker.admitCall now hasFallback notified).2
    after.config = breaker.config ∧ after.successCount = breaker.successCount ∧
      after.lastFailureTime = breaker.lastFailureTime ∧
      (after.state = breaker.state ∨ breaker.state = .opened ∧ after.state = .halfOpen) := by
  rcases admit_cases now hasFallback notified breaker with
    ⟨_, admitted⟩ | ⟨_, admitted⟩ | ⟨opened, _, admitted | admitted⟩ | ⟨_, _, refused⟩
  · rw [admitted]
    exact ⟨rfl, rfl, rfl, .inl rfl⟩
  · rw [admitted]
    obtain ⟨config, state, successes, last⟩ :=
      @admitHalfOpen_keeps _ breaker.countCall hasFallback
    exact ⟨config, successes, last, .inl state⟩
  · rw [admitted]
    obtain ⟨config, state, successes, last⟩ :=
      @admitHalfOpen_keeps _ breaker.countCall.enterHalfOpen hasFallback
    exact ⟨config, successes, last, .inr ⟨opened, state⟩⟩
  · rw [admitted]
    exact ⟨rfl, rfl, rfl, .inr ⟨opened, rfl⟩⟩
  · rw [refused]
    exact ⟨rfl, rfl, rfl, .inl rfl⟩

/-- A success in a half-open period is counted, and the one that reaches the threshold
closes the breaker. -/
theorem recordSuccess_cases (breaker : CircuitBreaker Time) :
    let after := breaker.recordSuccess.2
    after.config = breaker.config ∧ after.lastFailureTime = breaker.lastFailureTime ∧
      ((breaker.state ≠ .halfOpen ∧ after.state = breaker.state ∧
          after.successCount = breaker.successCount) ∨
        (breaker.state = .halfOpen ∧
            breaker.config.successThreshold ≤ breaker.successCount + 1 ∧
          after.state = .closed ∧ after.successCount = 0) ∨
        (breaker.state = .halfOpen ∧
            ¬ breaker.config.successThreshold ≤ breaker.successCount + 1 ∧
          after.state = .halfOpen ∧ after.successCount = breaker.successCount + 1 ∧
            after.halfOpenCalls = breaker.halfOpenCalls ∧
              breaker.recordSuccess.1 = false)) := by
  unfold recordSuccess
  dsimp only
  by_cases halfOpen : breaker.state = .halfOpen
  · rw [if_pos halfOpen]
    by_cases enough : breaker.config.successThreshold ≤ breaker.successCount + 1
    · have reached :
          breaker.config.successThreshold ≤ ((breaker.successCount + 1 : Nat) : Int) := by
        exact_mod_cast enough
      rw [if_pos reached]
      exact ⟨rfl, rfl, .inr (.inl ⟨halfOpen, enough, rfl, rfl⟩)⟩
    · have below :
          ¬ breaker.config.successThreshold ≤ ((breaker.successCount + 1 : Nat) : Int) := by
        exact_mod_cast enough
      rw [if_neg below]
      exact ⟨rfl, rfl, .inr (.inr ⟨halfOpen, enough, halfOpen, rfl, rfl, rfl⟩)⟩
  · rw [if_neg halfOpen]
    exact ⟨rfl, rfl, .inl ⟨halfOpen, rfl, rfl⟩⟩

/-- A failure leaves a half-open period, and forgets its successes. -/
theorem recordFailure_keeps (now : Time) (breaker : CircuitBreaker Time) :
    let after := breaker.recordFailure now
    after.config = breaker.config ∧ after.lastFailureTime = some now ∧
      after.state ≠ .halfOpen ∧
      (breaker.state = .halfOpen → after.state = .opened) ∧
      (after.successCount = 0 ∨
        breaker.state ≠ .halfOpen ∧ after.successCount = breaker.successCount) := by
  have left := @recordFailure_state _ breaker now
  unfold recordFailure at left ⊢
  dsimp only at left ⊢
  by_cases halfOpen : breaker.state = .halfOpen
  · rw [if_pos halfOpen] at left ⊢
    exact ⟨rfl, rfl, left, fun _ => rfl, .inl rfl⟩
  · rw [if_neg halfOpen] at left ⊢
    split at left
    · next opens =>
        rw [if_pos opens]
        exact ⟨rfl, rfl, left, fun inside => absurd inside halfOpen, .inl rfl⟩
    · next stays =>
        rw [if_neg stays]
        exact ⟨rfl, rfl, left, fun inside => absurd inside halfOpen, .inr ⟨halfOpen, rfl⟩⟩

end CircuitBreaker

namespace GuardedCalls

variable {Time : Type} [Sub Time] [LE Time] [DecidableLE Time]
  {config : CircuitBreakerConfig Time} {calls : GuardedCalls Time}

theorem step_sound (threshold : 1 ≤ config.failureThreshold)
    (limit : 1 ≤ config.halfOpenMaxCalls) (event : BreakerEvent Time)
    (sound : calls.breaker.Sound config) : (step event calls).breaker.Sound config := by
  cases event with
  | call hasFallback notified =>
      exact CircuitBreaker.admit_sound calls.clock hasFallback notified limit sound
  | success notified =>
      simp only [step]
      split
      · exact sound
      · exact CircuitBreaker.recordSuccess_sound threshold sound
  | raised =>
      simp only [step]
      split
      · exact sound
      · exact sound
  | failure =>
      simp only [step]
      split
      · exact sound
      · exact CircuitBreaker.recordFailure_sound calls.clock sound
  | cancelled => exact sound
  | abandoned => exact sound
  | forceOpen => exact CircuitBreaker.forceOpen_sound calls.clock sound
  | advance time =>
      simp only [step]
      split
      · exact sound
      · exact sound

theorem starts_opened {event : BreakerEvent Time} (started : starts event calls = true)
    (opened : calls.breaker.state = .opened) :
    calls.breaker.shouldAttemptRecovery calls.clock = true := by
  cases event with
  | call hasFallback notified =>
      rcases CircuitBreaker.admit_cases calls.clock hasFallback notified calls.breaker with
        ⟨closed, _⟩ | ⟨halfOpen, _⟩ | ⟨_, due, _⟩ | ⟨_, refused, _⟩
      · cases opened.symm.trans closed
      · cases opened.symm.trans halfOpen
      · exact due
      · cases started.symm.trans refused
  | _ => cases started

/-- A half-open breaker has just been entered or was half open before, and it has
counted the function that this step starts. -/
theorem step_halfOpen {event : BreakerEvent Time}
    (halfOpen : (step event calls).breaker.state = .halfOpen) :
    (step event calls).breaker.halfOpenCalls =
      (if calls.breaker.state = .halfOpen then calls.breaker.halfOpenCalls else 0) +
        (starts event calls).toNat := by
  have same : ∀ after : CircuitBreaker Time, calls.breaker.state = .halfOpen →
      after.halfOpenCalls = calls.breaker.halfOpenCalls →
      after.halfOpenCalls =
        (if calls.breaker.state = .halfOpen then calls.breaker.halfOpenCalls else 0) + 0 := by
    intro after stayed unchanged
    rw [if_pos stayed]
    exact unchanged
  cases event with
  | call hasFallback notified =>
      exact CircuitBreaker.admit_halfOpen calls.clock hasFallback notified halfOpen
  | success notified =>
      simp only [step] at halfOpen ⊢
      split at halfOpen
      · next idle =>
          rw [if_pos idle]
          exact same _ halfOpen rfl
      · next busy =>
          rw [if_neg busy]
          have kept := CircuitBreaker.recordSuccess_halfOpen halfOpen
          exact same _ kept.1 kept.2
  | raised =>
      simp only [step] at halfOpen ⊢
      split at halfOpen
      · next idle =>
          rw [if_pos idle]
          exact same _ halfOpen rfl
      · next busy =>
          rw [if_neg busy]
          exact same _ halfOpen rfl
  | failure =>
      simp only [step] at halfOpen ⊢
      split at halfOpen
      · next idle =>
          rw [if_pos idle]
          exact same _ halfOpen rfl
      · exact absurd halfOpen (CircuitBreaker.recordFailure_state calls.clock)
  | cancelled => exact same _ halfOpen rfl
  | abandoned => exact same _ halfOpen rfl
  | forceOpen => cases halfOpen
  | advance time =>
      simp only [step] at halfOpen ⊢
      split at halfOpen
      · next forward =>
          rw [if_pos forward]
          exact same _ halfOpen rfl
      · next backward =>
          rw [if_neg backward]
          exact same _ halfOpen rfl

theorem halfOpen_counts {entering : BreakerEvent Time} {during : List (BreakerEvent Time)}
    (outside : calls.breaker.state ≠ .halfOpen)
    (halfOpen : Always step (fun calls => calls.breaker.state = .halfOpen) during
      (step entering calls)) :
    (run step (entering :: during) calls).breaker.halfOpenCalls =
      tally step starts (entering :: during) calls := by
  have entered : (step entering calls).breaker.state = .halfOpen := by
    cases during with
    | nil => exact halfOpen
    | cons next during => exact halfOpen.1
  have first := step_halfOpen entered
  rw [if_neg outside, Nat.zero_add] at first
  have grows : ∀ {event : BreakerEvent Time} {calls : GuardedCalls Time},
      calls.breaker.state = .halfOpen → (step event calls).breaker.state = .halfOpen →
      (step event calls).breaker.halfOpenCalls =
        calls.breaker.halfOpenCalls + (starts event calls).toNat := by
    intro event calls before after
    rw [step_halfOpen after, if_pos before]
  have later := @measure_run _ _ _ _ (fun calls => calls.breaker.halfOpenCalls) starts
    grows _ _ halfOpen
  exact later.trans (congrArg (· + _) first)

/-- A breaker in use lets no function start in the open state before the recovery time
has passed, starts no more functions in one half-open period than it may, and keeps
its failures below the threshold while it is closed. -/
theorem guards_every_run (name : String) (config : CircuitBreakerConfig Time)
    (clock : Time) (threshold : 1 ≤ config.failureThreshold)
    (limit : 1 ≤ config.halfOpenMaxCalls) (events : List (BreakerEvent Time)) :
    let calls := run step events (new name config clock)
    (∀ event, starts event calls = true → calls.breaker.state = .opened →
      ∃ last, calls.breaker.lastFailureTime = some last ∧
        config.recoveryTimeout ≤ calls.clock - last) ∧
    (∀ entering during, calls.breaker.state ≠ .halfOpen →
      Always step (fun calls => calls.breaker.state = .halfOpen) during
        (step entering calls) →
      (tally step starts (entering :: during) calls : Int) ≤ config.halfOpenMaxCalls) ∧
    (calls.breaker.state = .closed →
      (calls.breaker.failureCount : Int) < config.failureThreshold) := by
  intro calls
  have keeps : ∀ events {calls : GuardedCalls Time}, calls.breaker.Sound config →
      (run step events calls).breaker.Sound config :=
    @run_invariant _ _ step (fun calls => calls.breaker.Sound config)
      fun event _ => step_sound threshold limit event
  have sound : calls.breaker.Sound config :=
    keeps events (CircuitBreaker.new_sound name threshold)
  refine ⟨?_, ?_, sound.belowThreshold⟩
  · intro event started opened
    have due := starts_opened started opened
    unfold CircuitBreaker.shouldAttemptRecovery at due
    cases last : calls.breaker.lastFailureTime with
    | none =>
        rw [last] at due
        cases due
    | some time =>
        rw [last, sound.configured] at due
        exact ⟨time, rfl, of_decide_eq_true due⟩
  · intro entering during outside halfOpen
    rw [← halfOpen_counts outside halfOpen]
    exact (keeps (entering :: during) sound).withinLimit halfOpen.last

/-- One failure opens this breaker, which admits a call five ticks later. -/
def oneFailure : CircuitBreakerConfig Int :=
  { failureThreshold := 1
    recoveryTimeout := 5
    successThreshold := 1
    halfOpenMaxCalls := 1 }

def recovered : GuardedCalls Int :=
  run step [.call false .told, .raised, .failure, .advance 5] (new "printer" oneFailure 0)

theorem recovered_started :
    starts (.call false .told) recovered = true ∧ recovered.breaker.state = .opened ∧
      ∃ last, recovered.breaker.lastFailureTime = some last ∧
        5 ≤ recovered.clock - last :=
  ⟨by decide, by decide,
    (guards_every_run "printer" oneFailure 0 (by decide) (by decide)
      [.call false .told, .raised, .failure, .advance 5]).1
      (.call false .told) (by decide) (by decide)⟩

end GuardedCalls

end Pure3270
