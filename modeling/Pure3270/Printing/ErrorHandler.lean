import Mathlib.Algebra.GroupWithZero.Nat
import Mathlib.Algebra.Order.BigOperators.Group.List
import Mathlib.Algebra.Order.Group.Nat
import Mathlib.Data.List.Nodup
import Pure3270.Foundations.Runs
import Pure3270.Foundations.Shelves
import Pure3270.Foundations.Trials
import Pure3270.Protocol.StateRecovery

/-!
# The error handler of the printer

An error is classified, counted and handed to the recovery strategies of its
category, one after the other until one of them works.  All of them run the same
recovery callback, so a recovery is one bounded loop of tries of that callback.
-/

namespace Pure3270

open Foundations

namespace PrinterErrorHandler

inductive ErrorSeverity where
  | low
  | medium
  | high
  | critical
  deriving DecidableEq

inductive ErrorCategory where
  | connection
  | protocol
  | timeout
  | data
  | session
  | resource
  | unknown
  deriving DecidableEq

def ErrorCategory.value : ErrorCategory → String
  | .connection => "connection"
  | .protocol => "protocol"
  | .timeout => "timeout"
  | .data => "data"
  | .session => "session"
  | .resource => "resource"
  | .unknown => "unknown"

inductive RecoveryStrategy where
  | retry
  | reconnect
  | reset
  | failover
  | escalate
  | ignore
  deriving DecidableEq

/-- What `classify_error` looks at: the classes of the exception, its text and the
operation in the context of a `Pure3270Error`. -/
structure RaisedError where
  isOSError : Bool
  isValueOrTypeError : Bool
  isTimeoutError : Bool
  isRuntimeError : Bool
  isMemoryError : Bool
  operation : Option String
  text : String

open HandlerStates in
def classifyError (error : RaisedError) : ErrorCategory × ErrorSeverity :=
  if error.isOSError then
    if mentions "timeout" error.text then (.timeout, .medium) else (.connection, .high)
  else if error.isValueOrTypeError || mentions "protocol" error.text then
    (.protocol, .high)
  else if error.isTimeoutError || mentions "timeout" error.text then (.timeout, .medium)
  else if mentions "session" error.text || error.isRuntimeError then (.session, .high)
  else if error.isMemoryError && mentions "resource" error.text then
    (.resource, .critical)
  else
    match error.operation with
    | some "connection" => (.connection, .high)
    | some "protocol" => (.protocol, .high)
    | some "timeout" => (.timeout, .medium)
    | _ => (.unknown, .medium)

/-- `_build_recovery_strategies`. -/
def defaultStrategies : ErrorCategory → List RecoveryStrategy
  | .connection => [.reconnect, .retry, .escalate]
  | .protocol => [.reset, .retry, .escalate]
  | .timeout => [.retry, .reconnect, .escalate]
  | .data => [.retry, .reset, .escalate]
  | .session => [.reconnect, .reset, .escalate]
  | .resource => [.retry, .failover, .escalate]
  | .unknown => [.retry, .escalate]

/-- What a strategy does: it returns whether it recovered, or it raises. -/
inductive StrategyOutcome where
  | recovered
  | gaveUp
  | raised
  deriving DecidableEq

section Recovery

-- whether the callback returns when it is called for the n-th time
variable (maxRetries : Nat) (callback : Option (Nat → Bool))

/-- From this attempt on `2**attempt` is no float, and the delay raises. -/
def delayLimit : Nat := 1024

/-- `_retry_operation`: attempts with too long a delay fail without a call. -/
def retryOperation (made : Nat) : StrategyOutcome × Nat :=
  match callback with
  | none => (.gaveUp, made)
  | some outcome =>
      let (worked, made) := tryTimes outcome (min maxRetries delayLimit) made
      (if worked then .recovered else .gaveUp, made)

/-- `_reconnect_operation`, `_reset_operation` and `_failover_operation`, which differ in
the texts that they log and raise. -/
def callOnce (made : Nat) : StrategyOutcome × Nat :=
  match callback with
  | none => (.gaveUp, made)
  | some outcome => (if outcome made then .recovered else .raised, made + 1)

/-- `_execute_recovery_strategy`. -/
def executeRecoveryStrategy (strategy : RecoveryStrategy) (made : Nat) :
    StrategyOutcome × Nat :=
  match strategy with
  | .retry => retryOperation maxRetries callback made
  | .reconnect => callOnce callback made
  | .reset => callOnce callback made
  | .failover => callOnce callback made
  | .escalate => (.gaveUp, made)
  | .ignore => (.recovered, made)

/-- `_attempt_recovery`: whether it recovered, and the calls made so far. -/
def attemptRecovery : List RecoveryStrategy → Nat → Bool × Nat
  | [], made => (false, made)
  | strategy :: strategies, made =>
      let (result, made) := executeRecoveryStrategy maxRetries callback strategy made
      if result = .recovered then (true, made) else attemptRecovery strategies made

end Recovery

/-- `list.insert(priority, strategy)`. -/
def insertAt (priority : Int) (strategy : RecoveryStrategy)
    (strategies : List RecoveryStrategy) : List RecoveryStrategy :=
  let place :=
    if priority < 0 then (strategies.length + priority).toNat
    else min priority.toNat strategies.length
  strategies.take place ++ strategy :: strategies.drop place

end PrinterErrorHandler

structure PrinterErrorHandler where
  maxRetries : Nat
  errorCounts : List (String × Nat)
  recoveryStrategies :
    PrinterErrorHandler.ErrorCategory → List PrinterErrorHandler.RecoveryStrategy

namespace PrinterErrorHandler

/-- `f"{category.value}:{operation}"`. -/
def errorKey (category : ErrorCategory) (operation : String) : String :=
  category.value ++ ":" ++ operation

/-- `range` of a negative number is empty. -/
def new (maxRetries : Int) : PrinterErrorHandler :=
  { maxRetries := maxRetries.toNat
    errorCounts := []
    recoveryStrategies := defaultStrategies }

/-- `add_recovery_strategy`. -/
def addRecoveryStrategy (category : ErrorCategory) (strategy : RecoveryStrategy)
    (priority : Int) (handler : PrinterErrorHandler) : PrinterErrorHandler :=
  if strategy ∈ handler.recoveryStrategies category then handler
  else
    { handler with
      recoveryStrategies := fun other =>
        if other = category then
          insertAt priority strategy (handler.recoveryStrategies category)
        else handler.recoveryStrategies other }

def countError (key : String) (handler : PrinterErrorHandler) : PrinterErrorHandler :=
  { handler with
    errorCounts :=
      assign key ((handler.errorCounts.lookup key).getD 0 + 1) handler.errorCounts }

/-- `handle_error`: whether it recovered, and how often it ran the callback. -/
def handleError (error : RaisedError) (operation : String)
    (callback : Option (Nat → Bool)) (handler : PrinterErrorHandler) :
    (Bool × Nat) × PrinterErrorHandler :=
  let category := (classifyError error).1
  (attemptRecovery handler.maxRetries callback (handler.recoveryStrategies category) 0,
    handler.countError (errorKey category operation))

def resetErrorStats (handler : PrinterErrorHandler) : PrinterErrorHandler :=
  { handler with errorCounts := [] }

/-- `get_error_stats()["total_errors"]`. -/
def totalErrors (handler : PrinterErrorHandler) : Nat :=
  (handler.errorCounts.map Prod.snd).sum

/-- The calls of an error handler. -/
inductive Call where
  | addRecoveryStrategy (category : ErrorCategory) (strategy : RecoveryStrategy)
      (priority : Int)
  | handleError (error : RaisedError) (operation : String)
      (callback : Option (Nat → Bool))
  | resetErrorStats

def step : Call → PrinterErrorHandler → PrinterErrorHandler
  | .addRecoveryStrategy category strategy priority, handler =>
      handler.addRecoveryStrategy category strategy priority
  | .handleError error operation callback, handler =>
      (handler.handleError error operation callback).2
  | .resetErrorStats, handler => handler.resetErrorStats

/-- How often a strategy can run the callback. -/
def callsOf (maxRetries : Nat) : RecoveryStrategy → Nat
  | .retry => min maxRetries delayLimit
  | .reconnect => 1
  | .reset => 1
  | .failover => 1
  | .escalate => 0
  | .ignore => 0

/-- The strategies that are tried before errors are ignored. -/
def tried (strategies : List RecoveryStrategy) : List RecoveryStrategy :=
  strategies.takeWhile (· ≠ .ignore)

/-- How often the strategies can run the callback. -/
def budget (maxRetries : Nat) (strategies : List RecoveryStrategy) : Nat :=
  ((tried strategies).map (callsOf maxRetries)).sum

/-- Each strategy is a loop of tries; `ignore` always works. -/
theorem attemptRecovery_cons (maxRetries : Nat) (outcome : Nat → Bool)
    (strategy : RecoveryStrategy) (strategies : List RecoveryStrategy) (made : Nat)
    (stays : strategy ≠ .ignore) :
    attemptRecovery maxRetries (some outcome) (strategy :: strategies) made =
      thenTry (tryTimes outcome (callsOf maxRetries strategy) made)
        (attemptRecovery maxRetries (some outcome) strategies) := by
  have once : tryTimes outcome 1 made =
      if outcome made then (true, made + 1) else (false, made + 1) := rfl
  cases strategy with
  | retry =>
      simp only [attemptRecovery, executeRecoveryStrategy, retryOperation, callsOf, thenTry]
      by_cases worked : (tryTimes outcome (min maxRetries delayLimit) made).1 = true
      · have result : tryTimes outcome (min maxRetries delayLimit) made =
            (true, (tryTimes outcome (min maxRetries delayLimit) made).2) :=
          Prod.ext worked rfl
        simp only [worked, if_true]
        exact result.symm
      · simp [worked]
  | ignore => exact absurd rfl stays
  | escalate => rfl
  | _ =>
      simp only [attemptRecovery, executeRecoveryStrategy, callOnce, callsOf, thenTry, once]
      by_cases works : outcome made = true <;> simp [works]

/-- The nested loops of a recovery are one loop of tries. -/
theorem attemptRecovery_eq (maxRetries : Nat) (outcome : Nat → Bool)
    (strategies : List RecoveryStrategy) (made : Nat) :
    attemptRecovery maxRetries (some outcome) strategies made =
      thenTry (tryTimes outcome (budget maxRetries strategies) made) fun made =>
        (decide (.ignore ∈ strategies), made) := by
  induction strategies generalizing made with
  | nil => rfl
  | cons strategy strategies ih =>
      by_cases ignores : strategy = .ignore
      · subst ignores
        simp [attemptRecovery, executeRecoveryStrategy, budget, tried, tryTimes, thenTry]
      · have spent : budget maxRetries (strategy :: strategies) =
            callsOf maxRetries strategy + budget maxRetries strategies := by
          simp [budget, tried, ignores]
        have same : decide (RecoveryStrategy.ignore ∈ strategy :: strategies) =
            decide (.ignore ∈ strategies) := by
          simp [Ne.symm ignores]
        rw [attemptRecovery_cons maxRetries outcome strategy strategies made ignores, spent,
          tryTimes_add, thenTry_assoc, same, funext ih]

theorem attemptRecovery_without (maxRetries : Nat) (strategies : List RecoveryStrategy)
    (made : Nat) :
    attemptRecovery maxRetries none strategies made =
      (decide (.ignore ∈ strategies), made) := by
  induction strategies with
  | nil => rfl
  | cons strategy strategies ih =>
      cases strategy <;>
        simp [attemptRecovery, executeRecoveryStrategy, retryOperation, callOnce, ih]

/-- Every strategy of a category is listed once, and the limit never changes. -/
structure Sound (maxRetries : Nat) (handler : PrinterErrorHandler) : Prop where
  limit : handler.maxRetries = maxRetries
  distinct : ∀ category, (handler.recoveryStrategies category).Nodup

theorem insertAt_perm (priority : Int) (strategy : RecoveryStrategy)
    (strategies : List RecoveryStrategy) :
    (insertAt priority strategy strategies).Perm (strategy :: strategies) := by
  unfold insertAt
  exact List.perm_middle.trans (by rw [List.take_append_drop])

theorem step_sound {maxRetries : Nat} (call : Call) {handler : PrinterErrorHandler}
    (sound : Sound maxRetries handler) : Sound maxRetries (step call handler) := by
  cases call with
  | addRecoveryStrategy category strategy priority =>
      unfold step addRecoveryStrategy
      dsimp only
      split
      · exact sound
      · next fresh =>
          refine ⟨sound.limit, fun other => ?_⟩
          dsimp only
          split
          · exact (insertAt_perm priority strategy _).nodup_iff.mpr
              (List.nodup_cons.mpr ⟨fresh, sound.distinct category⟩)
          · exact sound.distinct other
  | handleError error operation callback => exact ⟨sound.limit, sound.distinct⟩
  | resetErrorStats => exact ⟨sound.limit, sound.distinct⟩

theorem defaultStrategies_nodup (category : ErrorCategory) :
    (defaultStrategies category).Nodup := by
  cases category <;> decide

theorem new_sound (maxRetries : Int) : Sound maxRetries.toNat (new maxRetries) where
  limit := rfl
  distinct := defaultStrategies_nodup

theorem run_sound (maxRetries : Int) (calls : List Call) :
    Sound maxRetries.toNat (run step calls (new maxRetries)) :=
  run_invariant (fun call {_} kept => step_sound call kept) calls (new_sound maxRetries)

/-- Strategies listed once run the callback at most once each, apart from the retries. -/
theorem budget_le (maxRetries : Nat) {strategies : List RecoveryStrategy}
    (distinct : strategies.Nodup) :
    budget maxRetries strategies ≤ min maxRetries delayLimit + 3 := by
  have all : tried strategies ⊆
      [.retry, .reconnect, .reset, .failover, .escalate, .ignore] := by
    intro strategy _
    cases strategy <;> decide
  have once : (tried strategies).Nodup := distinct.sublist (List.takeWhile_sublist _)
  obtain ⟨chosen, same, part⟩ := List.subperm_of_subset once all
  have sums : budget maxRetries strategies = (chosen.map (callsOf maxRetries)).sum :=
    (same.map (callsOf maxRetries)).sum_eq.symm
  calc budget maxRetries strategies
      = (chosen.map (callsOf maxRetries)).sum := sums
    _ ≤ _ := (part.map (callsOf maxRetries)).sum_le_sum fun _ _ => Nat.zero_le _
    _ = min maxRetries delayLimit + 3 := rfl

/-- In every reachable handler the recovery of an error is one bounded loop of tries of
its callback.  It recovers exactly when a call within the budget of the category's
strategies returns, or when they ignore errors; no call follows one that returned, and
none is left out before the budget is spent, which is at most `max_retries + 3` calls. -/
theorem recovery_of_every_handler (maxRetries : Int) (calls : List Call)
    (error : RaisedError) (operation : String) (outcome : Nat → Bool) :
    let handler := run step calls (new maxRetries)
    let strategies := handler.recoveryStrategies (classifyError error).1
    let allowed := budget maxRetries.toNat strategies
    let result := (handler.handleError error operation (some outcome)).1
    (result.1 = true ↔
        .ignore ∈ strategies ∨ ∃ attempt, attempt < allowed ∧ outcome attempt = true) ∧
      (∀ attempt, attempt + 1 < result.2 → outcome attempt = false) ∧
      (result.2 < allowed → ∃ last, result.2 = last + 1 ∧ outcome last = true) ∧
      result.2 ≤ allowed ∧ allowed ≤ min maxRetries.toNat delayLimit + 3 ∧
      (handler.handleError error operation none).1 = (decide (.ignore ∈ strategies), 0) := by
  intro handler strategies allowed result
  have sound := run_sound maxRetries calls
  have limit : handler.maxRetries = maxRetries.toNat := sound.limit
  have bounded : allowed ≤ min maxRetries.toNat delayLimit + 3 :=
    budget_le maxRetries.toNat (sound.distinct _)
  have without := attemptRecovery_without handler.maxRetries strategies 0
  have flat := attemptRecovery_eq handler.maxRetries outcome strategies 0
  rw [limit] at flat
  have one_loop : result =
      thenTry (tryTimes outcome allowed 0) fun made =>
        (decide (.ignore ∈ strategies), made) := by
    rw [← flat, ← limit]
    rfl
  rw [one_loop]
  rcases tryTimes_cases outcome allowed 0 with ⟨last, _, till, works, vain, tries⟩ |
    ⟨vain, tries⟩
  · rw [tries]
    rw [Nat.zero_add] at till
    refine ⟨?_, ?_, fun _ => ⟨last, rfl, works⟩, till, bounded, without⟩
    · exact iff_of_true rfl (.inr ⟨last, till, works⟩)
    · intro attempt before
      exact vain attempt (Nat.zero_le _) (Nat.succ_lt_succ_iff.mp before)
  · rw [tries, Nat.zero_add]
    refine ⟨?_, ?_, fun less => absurd less (Nat.lt_irrefl _), Nat.le_refl _, bounded, without⟩
    · have none_works : ¬ ∃ attempt, attempt < allowed ∧ outcome attempt = true := by
        rintro ⟨attempt, within, works⟩
        rw [vain attempt (Nat.zero_le _) (by omega)] at works
        cases works
      simp [thenTry, none_works]
    · intro attempt before
      exact vain attempt (Nat.zero_le _) (by simp [thenTry] at before; omega)

end PrinterErrorHandler

end Pure3270
