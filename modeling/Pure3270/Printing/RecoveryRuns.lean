import Mathlib.Algebra.Order.Group.Int
import Mathlib.Algebra.Order.Group.Unbundled.Basic
import Pure3270.Printing.CircuitBreaker

/-!
# Executions with recovery

An execution calls its function through the breaker up to a number of times, and forces the
breaker open after the last attempt has failed, whether the function ran in it or not.
-/

namespace Pure3270

open Foundations

/-- Where an execution is: before its next attempt, in its function, with an exception to
record, or past its last failed attempt. -/
inductive ExecutionPhase where
  | calling
  | running
  | failing
  | forcing
  | over
  deriving DecidableEq

/-- A call of `execute_with_recovery`, with the attempts that are left after this one. -/
structure Execution where
  attemptsLeft : Nat
  phase : ExecutionPhase

namespace Execution

/-- `range(max_attempts)`: without attempts there is nothing to do. -/
def begin (maxAttempts : Int) : Execution :=
  if maxAttempts ≤ 0 then { attemptsLeft := 0, phase := .over }
  else { attemptsLeft := maxAttempts.toNat - 1, phase := .calling }

/-- The attempt has raised an exception. -/
def attemptFailed (execution : Execution) : Execution :=
  match execution.attemptsLeft with
  | 0 => { execution with phase := .forcing }
  | left + 1 => { attemptsLeft := left, phase := .calling }

def become (phase : ExecutionPhase) (execution : Execution) : Execution :=
  { execution with phase }

/-- The guarded function is executed, or its result is not recorded yet. -/
def executes (execution : Execution) : Bool :=
  execution.phase = .running || execution.phase = .failing

end Execution

/-- A breaker that guards an operation, the clock, the executions, and since when the breaker
has been open without the function being executed. -/
structure RecoveryRun (Time : Type) where
  breaker : CircuitBreaker Time
  clock : Time
  executions : List Execution
  since : Time

/-- What the executions do.  An execution is abandoned where it is cancelled or its custom
policy raises. -/
inductive RecoveryEvent (Time : Type) where
  | begin (maxAttempts : Int)
  | attempt (index : Nat) (notified : Notified)
  | succeeds (index : Nat) (notified : Notified)
  | raises (index : Nat)
  | records (index : Nat)
  | forces (index : Nat)
  | abandoned (index : Nat)
  | advance (time : Time)

namespace RecoveryRun

variable {Time : Type}

def new (name : String) (config : CircuitBreakerConfig Time) (clock : Time) :
    RecoveryRun Time :=
  { breaker := .new name config, clock, executions := [], since := clock }

/-- The breaker is not open, or the guarded function is executed. -/
def busy (run : RecoveryRun Time) : Bool :=
  run.breaker.state ≠ .opened || run.executions.any Execution.executes

/-- An execution is about to force the breaker open. -/
def Forcing (index : Nat) (run : RecoveryRun Time) : Prop :=
  ∃ execution, run.executions[index]? = some execution ∧ execution.phase = .forcing

/-- One execution goes on, if it is in this phase. -/
def goOn (index : Nat) (phase : ExecutionPhase)
    (next : Execution → Execution × CircuitBreaker Time) (run : RecoveryRun Time) :
    RecoveryRun Time :=
  match run.executions[index]? with
  | none => run
  | some execution =>
      if execution.phase = phase then
        { run with
          breaker := (next execution).2
          executions := run.executions.set index (next execution).1 }
      else run

section Clock

variable [AddCommGroup Time] [LinearOrder Time]

/-- The critical section of `call`, and what an exception out of it comes to. -/
def attempt (notified : Notified) (run : RecoveryRun Time) (execution : Execution) :
    Execution × CircuitBreaker Time :=
  let (admission, breaker) := run.breaker.admitCall run.clock false notified
  (match admission with
    | .started => execution.become .running
    | .fallback => execution.become .over
    | .refused _ => execution.attemptFailed
    | .unnotified =>
        if notified = .cancelled then execution.become .over else execution.attemptFailed,
    breaker)

/-- The function has returned.  A notification that raises comes before the return. -/
def succeed (notified : Notified) (run : RecoveryRun Time) (execution : Execution) :
    Execution × CircuitBreaker Time :=
  let (notifies, breaker) := run.breaker.recordSuccess
  (if notifies ∧ notified = .raises then execution.become .failing
    else execution.become .over, breaker)

def move : RecoveryEvent Time → RecoveryRun Time → RecoveryRun Time
  | .begin maxAttempts, run =>
      { run with executions := run.executions ++ [.begin maxAttempts] }
  | .attempt index notified, run => run.goOn index .calling (run.attempt notified)
  | .succeeds index notified, run => run.goOn index .running (run.succeed notified)
  | .raises index, run =>
      run.goOn index .running fun execution => (execution.become .failing, run.breaker)
  | .records index, run =>
      run.goOn index .failing fun execution =>
        (execution.attemptFailed, run.breaker.recordFailure run.clock)
  | .forces index, run =>
      run.goOn index .forcing fun execution =>
        (execution.become .over, run.breaker.forceOpen run.clock)
  | .abandoned index, run =>
      { run with executions := run.executions.modify index (Execution.become .over) }
  | .advance time, run => if run.clock ≤ time then { run with clock := time } else run

/-- The time starts anew as long as the breaker is busy. -/
def step (event : RecoveryEvent Time) (run : RecoveryRun Time) : RecoveryRun Time :=
  let next := move event run
  { next with since := if run.busy || next.busy then next.clock else run.since }

/-- When the function has not been executed for the recovery time while the breaker was
open, the next call executes it, however late it comes. -/
def Prompt (run : RecoveryRun Time) : Prop :=
  run.busy = false → ∀ later, run.clock ≤ later →
    run.breaker.config.recoveryTimeout ≤ later - run.since →
      (run.breaker.admitCall later false .told).1.isStarted = true

/-- An execution that forces the breaker open finds it busy, or so just now. -/
def Timely : RecoveryEvent Time → RecoveryRun Time → Prop
  | .forces index, run => run.Forcing index → run.busy = false →
          run.breaker.config.recoveryTimeout ≤ 0 ∨ run.clock ≤ run.since
  | _, _ => True

end Clock

end RecoveryRun

namespace CircuitBreaker

variable {Time : Type} {breaker : CircuitBreaker Time}

theorem started_iff [Sub Time] [LE Time] [DecidableLE Time] {last later : Time}
    (limit : 1 ≤ breaker.config.halfOpenMaxCalls) (opened : breaker.state = .opened)
    (failed : breaker.lastFailureTime = some last) :
    (breaker.admitCall later false .told).1.isStarted = true ↔
      breaker.config.recoveryTimeout ≤ later - last := by
  have due : breaker.countCall.shouldAttemptRecovery later = true ↔
      breaker.config.recoveryTimeout ≤ later - last := by
    have same : breaker.countCall.lastFailureTime = some last := failed
    unfold shouldAttemptRecovery
    rw [same]
    exact decide_eq_true_iff
  have state : breaker.countCall.state = .opened := opened
  rw [← due]
  simp only [admitCall, state]
  by_cases attempts : breaker.countCall.shouldAttemptRecovery later = true
  · rw [if_pos attempts, if_pos trivial]
    have room : ¬ breaker.countCall.enterHalfOpen.config.halfOpenMaxCalls ≤
        (breaker.countCall.enterHalfOpen.halfOpenCalls : Int) := by
      change ¬ breaker.config.halfOpenMaxCalls ≤ ((0 : Nat) : Int)
      omega
    unfold admitHalfOpen
    rw [if_neg room]
    exact iff_of_true rfl attempts
  · rw [if_neg attempts]
    refine iff_of_false ?_ attempts
    rw [turnAway_isStarted]
    exact Bool.false_ne_true

end CircuitBreaker

namespace RecoveryRun

variable {Time : Type} {config : CircuitBreakerConfig Time} {run : RecoveryRun Time}

theorem busy_eq_false_iff : run.busy = false ↔
    run.breaker.state = .opened ∧ ∀ execution ∈ run.executions, execution.executes = false := by
  unfold busy
  rw [Bool.or_eq_false_iff, List.any_eq_false]
  simp

theorem not_executing {index : Nat} {execution : Execution} (idle : run.busy = false)
    (found : run.executions[index]? = some execution) :
    execution.phase ≠ .running ∧ execution.phase ≠ .failing := by
  have none := (busy_eq_false_iff.mp idle).2 execution (List.mem_of_getElem? found)
  unfold Execution.executes at none
  simpa using none

theorem goOn_of_ne {index : Nat} {phase : ExecutionPhase}
    {next : Execution → Execution × CircuitBreaker Time}
    (other : ∀ execution, run.executions[index]? = some execution → execution.phase ≠ phase) :
    run.goOn index phase next = run := by
  unfold goOn
  split
  · rfl
  · next execution found => exact if_neg (other execution found)

theorem goOn_of_some {index : Nat} {phase : ExecutionPhase}
    {next : Execution → Execution × CircuitBreaker Time} {execution : Execution}
    (found : run.executions[index]? = some execution) (here : execution.phase = phase) :
    run.goOn index phase next =
      { run with
        breaker := (next execution).2
        executions := run.executions.set index (next execution).1 } := by
  unfold goOn
  rw [found]
  exact if_pos here

/-- The parts of a run that a step may change. -/
structure Moved [LE Time] (run next : RecoveryRun Time) : Prop where
  configured : next.breaker.config = run.breaker.config
  failed : next.breaker.state = .opened →
    next.breaker.lastFailureTime = some next.clock ∨
      run.breaker.state = .opened ∧
        next.breaker.lastFailureTime = run.breaker.lastFailureTime
  forward : run.clock ≤ next.clock

theorem goOn_moved [Preorder Time] (index : Nat) (phase : ExecutionPhase)
    {next : Execution → Execution × CircuitBreaker Time}
    (configured : ∀ execution, (next execution).2.config = run.breaker.config)
    (failed : ∀ execution, (next execution).2.state = .opened →
      (next execution).2.lastFailureTime = some run.clock ∨
        run.breaker.state = .opened ∧
          (next execution).2.lastFailureTime = run.breaker.lastFailureTime) :
    Moved run (run.goOn index phase next) := by
  unfold goOn
  split
  · exact ⟨rfl, fun opened => .inr ⟨opened, rfl⟩, le_rfl⟩
  · next execution _ =>
      split
      · exact ⟨configured execution, failed execution, le_rfl⟩
      · exact ⟨rfl, fun opened => .inr ⟨opened, rfl⟩, le_rfl⟩

/-- What every run keeps. -/
structure Dated [LE Time] (config : CircuitBreakerConfig Time) (run : RecoveryRun Time) : Prop where
  configured : run.breaker.config = config
  failed : run.breaker.state = .opened →
    ∃ last, run.breaker.lastFailureTime = some last ∧ last ≤ run.clock
  since : run.since ≤ run.clock

theorem new_dated [Preorder Time] (name : String) (config : CircuitBreakerConfig Time) (clock : Time) :
    Dated config (new name config clock) where
  configured := rfl
  failed opened := by cases opened
  since := le_rfl

section Clock

variable [AddCommGroup Time] [LinearOrder Time]

theorem move_moved (event : RecoveryEvent Time) (run : RecoveryRun Time) :
    Moved run (move event run) := by
  cases event with
  | begin maxAttempts => exact ⟨rfl, fun opened => .inr ⟨opened, rfl⟩, le_rfl⟩
  | attempt index notified =>
      obtain ⟨config, _, last, moved⟩ :=
        CircuitBreaker.admit_keeps run.clock false notified run.breaker
      refine goOn_moved index _ (fun _ => config) fun _ opened => .inr ⟨?_, last⟩
      rcases moved with stays | ⟨before, _⟩
      · exact stays.symm.trans opened
      · exact before
  | succeeds index notified =>
      obtain ⟨config, last, moved⟩ := CircuitBreaker.recordSuccess_cases run.breaker
      refine goOn_moved index _ (fun _ => config) fun _ opened => .inr ⟨?_, last⟩
      rcases moved with ⟨_, stays, _⟩ | ⟨_, _, closed, _⟩ | ⟨_, _, halfOpen, _⟩
      · exact stays.symm.trans opened
      · cases closed.symm.trans opened
      · cases halfOpen.symm.trans opened
  | raises index =>
      exact goOn_moved index _ (fun _ => rfl) fun _ opened => .inr ⟨opened, rfl⟩
  | records index =>
      obtain ⟨config, last, _⟩ := CircuitBreaker.recordFailure_keeps run.clock run.breaker
      exact goOn_moved index _ (fun _ => config) fun _ _ => .inl last
  | forces index => exact goOn_moved index _ (fun _ => rfl) fun _ _ => .inl rfl
  | abandoned index => exact ⟨rfl, fun opened => .inr ⟨opened, rfl⟩, le_rfl⟩
  | advance time =>
      simp only [move]
      split
      · next forward => exact ⟨rfl, fun opened => .inr ⟨opened, rfl⟩, forward⟩
      · exact ⟨rfl, fun opened => .inr ⟨opened, rfl⟩, le_rfl⟩

/-- In an idle run nothing but an execution that forces the breaker open touches the time
of the last failure; a call that is rejected does not. -/
theorem move_idle {event : RecoveryEvent Time} (idle : run.busy = false)
    (forces : ∀ index, event = .forces index → ¬ run.Forcing index) :
    (move event run).breaker.lastFailureTime = run.breaker.lastFailureTime := by
  cases event with
  | begin maxAttempts => rfl
  | attempt index notified =>
      have same := (CircuitBreaker.admit_keeps run.clock false notified run.breaker).2.2.1
      simp only [move, goOn]
      split
      · rfl
      · split
        · exact same
        · rfl
  | succeeds index notified =>
      have none := fun execution found => (@not_executing _ run index execution idle found).1
      exact congrArg (·.breaker.lastFailureTime) (goOn_of_ne none)
  | raises index =>
      have none := fun execution found => (@not_executing _ run index execution idle found).1
      exact congrArg (·.breaker.lastFailureTime) (goOn_of_ne none)
  | records index =>
      have none := fun execution found => (@not_executing _ run index execution idle found).2
      exact congrArg (·.breaker.lastFailureTime) (goOn_of_ne none)
  | forces index =>
      have none : ∀ execution, run.executions[index]? = some execution →
          execution.phase ≠ .forcing :=
        fun execution found here => forces index rfl ⟨execution, found, here⟩
      exact congrArg (·.breaker.lastFailureTime) (goOn_of_ne none)
  | abandoned index => rfl
  | advance time =>
      simp only [move]
      split
      · rfl
      · rfl

theorem step_dated (event : RecoveryEvent Time) (dated : Dated config run) :
    Dated config (step event run) := by
  have moved := move_moved event run
  constructor
  · exact moved.configured.trans dated.configured
  · intro opened
    rcases moved.failed opened with now | ⟨before, same⟩
    · exact ⟨_, now, le_rfl⟩
    · obtain ⟨last, failed, earlier⟩ := dated.failed before
      exact ⟨last, same.trans failed, earlier.trans moved.forward⟩
  · unfold step
    dsimp only
    split
    · exact le_rfl
    · exact dated.since.trans moved.forward

theorem step_since {event : RecoveryEvent Time} (quiet : run.busy = false)
    (idle : (step event run).busy = false) : (step event run).since = run.since := by
  have still : (move event run).busy = false := idle
  unfold step
  dsimp only
  rw [quiet, still]
  rfl

/-- An idle run is prompt when the times of the last failure and of the last execution are
as far back as the recovery time. -/
theorem prompt_iff {last : Time} (limit : 1 ≤ config.halfOpenMaxCalls)
    (dated : Dated config run) (idle : run.busy = false)
    (failed : run.breaker.lastFailureTime = some last) :
    run.Prompt ↔ ∀ later, run.clock ≤ later → config.recoveryTimeout ≤ later - run.since →
      config.recoveryTimeout ≤ later - last := by
  have opened := (busy_eq_false_iff.mp idle).1
  have room : 1 ≤ run.breaker.config.halfOpenMaxCalls := by
    rw [dated.configured]
    exact limit
  have started := fun later => @CircuitBreaker.started_iff _ run.breaker _ _ _ last later
    room opened failed
  unfold Prompt
  simp only [idle, forall_const, started, dated.configured]

theorem step_prompt_idle (limit : 1 ≤ config.halfOpenMaxCalls) {event : RecoveryEvent Time}
    (dated : Dated config run) (prompt : run.Prompt) (quiet : run.busy = false)
    (forces : ∀ index, event = .forces index → ¬ run.Forcing index) :
    (step event run).Prompt := by
  intro idle
  obtain ⟨last, failed, _⟩ := dated.failed (busy_eq_false_iff.mp quiet).1
  have same : (step event run).breaker.lastFailureTime = some last :=
    (move_idle quiet forces).trans failed
  refine (prompt_iff limit (step_dated event dated) idle same).mpr ?_ idle
  rw [step_since quiet idle]
  intro later elapsed
  exact (prompt_iff limit dated quiet failed).mp prompt later
    ((move_moved event run).forward.trans elapsed)

end Clock

section Law

variable [AddCommGroup Time] [LinearOrder Time] [IsOrderedAddMonoid Time]

theorem prompt_of_le {last : Time} (limit : 1 ≤ config.halfOpenMaxCalls)
    (dated : Dated config run) (failed : run.breaker.lastFailureTime = some last)
    (earlier : last ≤ run.since) : run.Prompt := by
  intro idle
  refine (prompt_iff limit dated idle failed).mpr ?_ idle
  intro later _ enough
  exact enough.trans (sub_le_sub_left earlier later)

theorem prompt_now_iff (limit : 1 ≤ config.halfOpenMaxCalls) (dated : Dated config run)
    (idle : run.busy = false) (failed : run.breaker.lastFailureTime = some run.clock) :
    run.Prompt ↔ config.recoveryTimeout ≤ 0 ∨ run.clock ≤ run.since := by
  rw [prompt_iff limit dated idle failed]
  constructor
  · intro prompt
    rcases le_total (run.since + config.recoveryTimeout) run.clock with elapsed | ahead
    · left
      have now := prompt run.clock le_rfl (le_sub_iff_add_le'.mpr elapsed)
      rwa [sub_self] at now
    · right
      have then' := prompt _ ahead (add_sub_cancel_left run.since config.recoveryTimeout).ge
      have order := le_sub_iff_add_le'.mp then'
      exact le_of_add_le_add_right order
  · intro harmless later after enough
    rcases harmless with short | recent
    · exact short.trans (sub_nonneg.mpr after)
    · exact enough.trans (sub_le_sub_left recent later)

theorem step_prompt_busy (limit : 1 ≤ config.halfOpenMaxCalls) (event : RecoveryEvent Time)
    (dated : Dated config run) (busy : run.busy = true) : (step event run).Prompt := by
  intro idle
  have after := step_dated event dated
  have since : (step event run).since = (step event run).clock := by
    unfold step
    dsimp only
    rw [busy]
    rfl
  obtain ⟨last, failed, earlier⟩ := after.failed (busy_eq_false_iff.mp idle).1
  exact prompt_of_le limit after failed (since.symm ▸ earlier) idle

/-- An idle run whose breaker is forced open stays prompt only if it has just become
idle. -/
theorem step_prompt_forced_iff (limit : 1 ≤ config.halfOpenMaxCalls) {index : Nat}
    (dated : Dated config run) (quiet : run.busy = false) (forcing : run.Forcing index) :
    (step (.forces index) run).Prompt ↔
      config.recoveryTimeout ≤ 0 ∨ run.clock ≤ run.since := by
  obtain ⟨execution, found, here⟩ := forcing
  have moved : move (.forces index) run =
      { run with
        breaker := run.breaker.forceOpen run.clock
        executions := run.executions.set index (execution.become .over) } :=
    goOn_of_some found here
  have idle : (step (.forces index) run).busy = false := by
    change (move (.forces index) run).busy = false
    rw [moved]
    refine busy_eq_false_iff.mpr ⟨rfl, fun other member => ?_⟩
    rcases List.mem_or_eq_of_mem_set member with before | rfl
    · exact (busy_eq_false_iff.mp quiet).2 other before
    · rfl
  have clock : (step (.forces index) run).clock = run.clock := congrArg (·.clock) moved
  have failed : (step (.forces index) run).breaker.lastFailureTime =
      some (step (.forces index) run).clock := by
    rw [clock]
    exact congrArg (·.breaker.lastFailureTime) moved
  rw [prompt_now_iff limit (step_dated _ dated) idle failed, step_since quiet idle, clock]

theorem step_prompt_iff (limit : 1 ≤ config.halfOpenMaxCalls) (event : RecoveryEvent Time)
    (dated : Dated config run) (prompt : run.Prompt) :
    (step event run).Prompt ↔ Timely event run := by
  cases busy : run.busy with
  | true =>
      refine iff_of_true (step_prompt_busy limit event dated busy) ?_
      cases event with
      | forces index => exact fun _ idle => absurd (busy.symm.trans idle) (by decide)
      | _ => exact trivial
  | false =>
      by_cases forcing : ∃ index, event = .forces index ∧ run.Forcing index
      · obtain ⟨index, rfl, here⟩ := forcing
        rw [step_prompt_forced_iff limit dated busy here]
        simp only [Timely, dated.configured]
        exact ⟨fun harmless _ _ => harmless, fun timely => timely here busy⟩
      · have forces : ∀ index, event = .forces index → ¬ run.Forcing index :=
          fun index same here => forcing ⟨index, same, here⟩
        refine iff_of_true (step_prompt_idle limit dated prompt busy forces) ?_
        cases event with
        | forces index => exact fun here => absurd here (forces index rfl)
        | _ => exact trivial

/-- The next call is never kept waiting longer than the recovery time exactly when an
execution forces the breaker open only where it has just been busy. -/
theorem prompt_throughout_iff (name : String) (config : CircuitBreakerConfig Time)
    (clock : Time) (limit : 1 ≤ config.halfOpenMaxCalls)
    (events : List (RecoveryEvent Time)) :
    Always step Prompt events (new name config clock) ↔
      Along step Timely events (new name config clock) := by
  refine @always_iff_along _ _ _ (Dated config) _ _ ?_ ?_ _ _
    (new_dated name config clock) ?_
  · intro event run dated
    exact step_dated event dated
  · intro event run dated prompt
    exact step_prompt_iff limit event dated prompt
  · intro idle
    cases idle

end Law

/-- An execution that fails opens this breaker, and forces it open at once. -/
theorem prompt_throughout_failure :
    Always step Prompt
        [.begin 1, .attempt 0 .told, .raises 0, .records 0, .forces 0, .advance 5]
        (new "printer" GuardedCalls.oneFailure 0) ↔
      Along step Timely
        [.begin 1, .attempt 0 .told, .raises 0, .records 0, .forces 0, .advance 5]
        (new "printer" GuardedCalls.oneFailure 0) :=
  prompt_throughout_iff "printer" GuardedCalls.oneFailure 0 (by decide)
    [.begin 1, .attempt 0 .told, .raises 0, .records 0, .forces 0, .advance 5]

/-- A rejected execution forces the breaker open anew, three ticks later. -/
theorem not_prompt_rejected :
    ¬ Always step Prompt
      [.begin 1, .attempt 0 .told, .raises 0, .records 0, .forces 0, .advance 3,
        .begin 1, .attempt 1 .told, .forces 1]
      (new "printer" GuardedCalls.oneFailure 0) := by
  intro always
  have started := always.last (by decide) 5 (by decide) (by decide)
  exact absurd started (by decide)

end RecoveryRun

end Pure3270
