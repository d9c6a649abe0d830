import Mathlib.Algebra.GroupWithZero.Nat
import Pure3270.Foundations.Runs

/-!
# The retries of the negotiation

`negotiate` and `_negotiate_tn3270` run their attempts through one retry loop, which
keeps the state of the connection.  That state is looked at before an operation makes
its first attempt, and only an attempt that returns clears the count of failures: a
negotiator whose last three attempts have failed never makes another one.
-/

namespace Pure3270

open Foundations

/-- `_connection_state`, and the number of recovery attempts of `_recovery_state`. -/
structure ConnectionState where
  isConnected : Bool
  consecutiveFailures : Nat
  totalFailures : Nat
  recoveryAttempts : Nat

/-- How an attempt of an operation ends.  A failure is fatal where its exception is no
retryable one. -/
inductive AttemptEnd where
  | returned
  | failed (retryable : Bool)
  | cancelled
  deriving DecidableEq

/-- Where an operation is: in an attempt, in the delay after one, or past its last. -/
inductive RetryPhase where
  | attempting
  | waiting
  | over
  | refused
  deriving DecidableEq

structure RetriedOperation where
  attempt : Nat
  phase : RetryPhase
  deriving DecidableEq

/-- The operation may make another attempt, or is in one. -/
def RetriedOperation.pending (operation : RetriedOperation) : Bool :=
  operation.phase = .attempting || operation.phase = .waiting

/-- A negotiator, the operations that were started, how many attempts were begun, how those
that returned or failed have ended, and how many were cancelled. -/
structure NegotiationRetries where
  hasWriter : Bool
  connection : ConnectionState
  operations : List RetriedOperation
  begun : Nat
  ended : List Bool
  cancelled : Nat

inductive RetryEvent where
  | begin (forcedFailure : Bool)
  | attemptEnds (index : Nat) (outcome : AttemptEnd)
  | delayEnds (index : Nat)
  | delayCancelled (index : Nat)
  | setWriter (hasWriter : Bool)

namespace ConnectionState

def new : ConnectionState :=
  { isConnected := false
    consecutiveFailures := 0
    totalFailures := 0
    recoveryAttempts := 0 }

/-- `_update_connection_state`. -/
def update (success : Bool) (connection : ConnectionState) : ConnectionState :=
  if success then { connection with isConnected := true, consecutiveFailures := 0 }
  else
    { connection with
      isConnected := false
      consecutiveFailures := connection.consecutiveFailures + 1
      totalFailures := connection.totalFailures + 1 }

end ConnectionState

namespace NegotiationRetries

def new (hasWriter : Bool) : NegotiationRetries :=
  { hasWriter, connection := .new, operations := [], begun := 0, ended := [], cancelled := 0 }

/-- `_validate_connection_state`. -/
def validateConnectionState (retries : NegotiationRetries) : Bool :=
  if !retries.connection.isConnected && !retries.hasWriter then false
  else if 3 ≤ retries.connection.consecutiveFailures then false
  else retries.hasWriter

/-- An operation goes on, if it is in this phase. -/
def goOn (index : Nat) (phase : RetryPhase)
    (next : RetriedOperation → NegotiationRetries → NegotiationRetries)
    (retries : NegotiationRetries) : NegotiationRetries :=
  match retries.operations[index]? with
  | none => retries
  | some operation => if operation.phase = phase then next operation retries else retries

def setOperation (index : Nat) (operation : RetriedOperation)
    (retries : NegotiationRetries) : NegotiationRetries :=
  { retries with operations := retries.operations.set index operation }

def record (success : Bool) (retries : NegotiationRetries) : NegotiationRetries :=
  { retries with
    connection := retries.connection.update success
    ended := retries.ended ++ [success] }

/-- What `_retry_with_backoff` does with the end of an attempt. -/
def endAttempt (maxRetries : Nat) (index : Nat) (outcome : AttemptEnd)
    (operation : RetriedOperation) (retries : NegotiationRetries) : NegotiationRetries :=
  match outcome with
  | .returned =>
      (retries.record true).setOperation index { operation with phase := .over }
  | .failed retryable =>
      (retries.record false).setOperation index
        (if retryable && decide (operation.attempt < maxRetries) then
            { operation with phase := .waiting }
          else { operation with phase := .over })
  | .cancelled =>
      { retries with cancelled := retries.cancelled + 1 }.setOperation index
        { operation with phase := .over }

/-- The next attempt of an operation. -/
def retry (index : Nat) (operation : RetriedOperation) (retries : NegotiationRetries) :
    NegotiationRetries :=
  { retries with
    connection :=
      { retries.connection with
        recoveryAttempts := retries.connection.recoveryAttempts + 1 }
    begun := retries.begun + 1 }.setOperation index
      { attempt := operation.attempt + 1, phase := .attempting }

/-- An operation begins: it makes its first attempt, or raises at once, which is where
the host has refused TN3270E and no fallback is allowed, too. -/
def begin (forcedFailure : Bool) (retries : NegotiationRetries) : NegotiationRetries :=
  if retries.validateConnectionState && !forcedFailure then
    { retries with
      operations := retries.operations ++ [{ attempt := 0, phase := .attempting }]
      begun := retries.begun + 1 }
  else
    { retries with
      operations := retries.operations ++ [{ attempt := 0, phase := .refused }] }

def step (maxRetries : Nat) : RetryEvent → NegotiationRetries → NegotiationRetries
  | .begin forcedFailure, retries => retries.begin forcedFailure
  | .attemptEnds index outcome, retries =>
      retries.goOn index .attempting (endAttempt maxRetries index outcome)
  | .delayEnds index, retries => retries.goOn index .waiting (retry index)
  | .delayCancelled index, retries =>
      retries.goOn index .waiting fun operation =>
        setOperation index { operation with phase := .over }
  | .setWriter hasWriter, retries => { retries with hasWriter }

/-- The failures since the last attempt that returned. -/
def trailingFailures (ended : List Bool) : Nat :=
  (ended.reverse.takeWhile (· = false)).length

/-- What the state of the connection counts. -/
structure Accounted (maxRetries : Nat) (retries : NegotiationRetries) : Prop where
  consecutive : retries.connection.consecutiveFailures = trailingFailures retries.ended
  total : retries.connection.totalFailures = retries.ended.count false
  connected : retries.connection.isConnected = (retries.ended.getLast? == some true)
  attempts : ∀ operation ∈ retries.operations, operation.attempt ≤ maxRetries ∧
    (operation.phase = .waiting → operation.attempt < maxRetries)
  retried : retries.connection.recoveryAttempts =
    (retries.operations.map RetriedOperation.attempt).sum

variable {maxRetries : Nat} {retries : NegotiationRetries}

theorem trailingFailures_append (ended : List Bool) (success : Bool) :
    trailingFailures (ended ++ [success]) =
      if success then 0 else trailingFailures ended + 1 := by
  unfold trailingFailures
  cases success <;> simp

/-- An operation that goes on is one that was started. -/
theorem goOn_cases (index : Nat) (phase : RetryPhase)
    (next : RetriedOperation → NegotiationRetries → NegotiationRetries)
    (retries : NegotiationRetries) :
    (∃ operation, retries.operations[index]? = some operation ∧ operation.phase = phase ∧
      retries.goOn index phase next = next operation retries) ∨
    retries.goOn index phase next = retries := by
  unfold goOn
  cases found : retries.operations[index]? with
  | none => exact .inr rfl
  | some operation =>
      by_cases here : operation.phase = phase
      · exact .inl ⟨operation, rfl, here, if_pos here⟩
      · exact .inr (if_neg here)

theorem goOn_keeps {Property : NegotiationRetries → Prop} (index : Nat) (phase : RetryPhase)
    (next : RetriedOperation → NegotiationRetries → NegotiationRetries)
    (holds : Property retries)
    (kept : ∀ operation, retries.operations[index]? = some operation →
      operation.phase = phase → Property (next operation retries)) :
    Property (retries.goOn index phase next) := by
  rcases goOn_cases index phase next retries with ⟨operation, found, here, goes⟩ | stays
  · rw [goes]
    exact kept operation found here
  · rw [stays]
    exact holds

theorem record_accounted (success : Bool) (accounted : Accounted maxRetries retries) :
    Accounted maxRetries (retries.record success) := by
  refine ⟨?_, ?_, ?_, accounted.attempts, ?_⟩
  · have consecutive := accounted.consecutive
    unfold record ConnectionState.update
    rw [trailingFailures_append]
    cases success <;> simp [consecutive]
  · have total := accounted.total
    unfold record ConnectionState.update
    cases success <;> simp [total]
  · unfold record ConnectionState.update
    cases success <;> simp
  · have retried := accounted.retried
    unfold record ConnectionState.update
    cases success <;> exact retried

theorem sum_attempts_set {operations : List RetriedOperation} {index : Nat}
    {operation : RetriedOperation} (after : RetriedOperation)
    (found : operations[index]? = some operation) :
    ((operations.set index after).map RetriedOperation.attempt).sum + operation.attempt =
      (operations.map RetriedOperation.attempt).sum + after.attempt := by
  induction operations generalizing index with
  | nil => cases found
  | cons first operations ih =>
      cases index with
      | zero =>
          cases found
          simp only [List.set_cons_zero, List.map_cons, List.sum_cons]
          omega
      | succ index =>
          have later := @ih index (by simpa using found)
          simp only [List.set_cons_succ, List.map_cons, List.sum_cons]
          omega

theorem setOperation_accounted {index : Nat} {operation after : RetriedOperation}
    (accounted : Accounted maxRetries retries)
    (found : retries.operations[index]? = some operation)
    (same : after.attempt = operation.attempt)
    (waits : after.phase = .waiting → after.attempt < maxRetries) :
    Accounted maxRetries (retries.setOperation index after) := by
  have member := List.mem_of_getElem? found
  refine ⟨accounted.consecutive, accounted.total, accounted.connected, ?_, ?_⟩
  · intro other listed
    rcases List.mem_or_eq_of_mem_set listed with old | rfl
    · exact accounted.attempts other old
    · exact ⟨same ▸ (accounted.attempts operation member).1, waits⟩
  · have sums := sum_attempts_set after found
    have retried := accounted.retried
    change retries.connection.recoveryAttempts =
      ((retries.operations.set index after).map RetriedOperation.attempt).sum
    omega

theorem endAttempt_accounted {index : Nat} {operation : RetriedOperation}
    (outcome : AttemptEnd) (accounted : Accounted maxRetries retries)
    (found : retries.operations[index]? = some operation) :
    Accounted maxRetries (endAttempt maxRetries index outcome operation retries) := by
  cases outcome with
  | returned =>
      exact setOperation_accounted (record_accounted true accounted) found rfl nofun
  | failed retryable =>
      unfold endAttempt
      apply setOperation_accounted (record_accounted false accounted) found
      · split <;> rfl
      · split
        · next again =>
            intro _
            exact of_decide_eq_true (Bool.and_eq_true_iff.mp again).2
        · nofun
  | cancelled =>
      have same : Accounted maxRetries
          { retries with cancelled := retries.cancelled + 1 } :=
        ⟨accounted.consecutive, accounted.total, accounted.connected, accounted.attempts,
          accounted.retried⟩
      exact setOperation_accounted same found rfl nofun

theorem retry_accounted {index : Nat} {operation : RetriedOperation}
    (accounted : Accounted maxRetries retries)
    (found : retries.operations[index]? = some operation)
    (waits : operation.phase = .waiting) :
    Accounted maxRetries (retry index operation retries) := by
  have room := (accounted.attempts operation (List.mem_of_getElem? found)).2 waits
  refine ⟨accounted.consecutive, accounted.total, accounted.connected, ?_, ?_⟩
  · intro other listed
    rcases List.mem_or_eq_of_mem_set listed with old | rfl
    · exact accounted.attempts other old
    · exact ⟨room, nofun⟩
  · have sums := sum_attempts_set
      (RetriedOperation.mk (operation.attempt + 1) .attempting) found
    have retried := accounted.retried
    change retries.connection.recoveryAttempts + 1 =
      ((retries.operations.set index
        (RetriedOperation.mk (operation.attempt + 1) .attempting)).map
          RetriedOperation.attempt).sum
    simp only at sums
    omega

theorem begin_accounted (forcedFailure : Bool) (accounted : Accounted maxRetries retries) :
    Accounted maxRetries (retries.begin forcedFailure) := by
  have started : ∀ phase : RetryPhase, phase ≠ .waiting →
      (∀ operation ∈ retries.operations ++ [RetriedOperation.mk 0 phase],
        operation.attempt ≤ maxRetries ∧
          (operation.phase = .waiting → operation.attempt < maxRetries)) ∧
      retries.connection.recoveryAttempts =
        ((retries.operations ++ [RetriedOperation.mk 0 phase]).map
          RetriedOperation.attempt).sum := by
    intro phase moves
    constructor
    · intro operation listed
      rcases List.mem_append.mp listed with old | new
      · exact accounted.attempts operation old
      · rw [List.mem_singleton.mp new]
        exact ⟨Nat.zero_le _, fun waits => absurd waits moves⟩
    · simpa using accounted.retried
  unfold begin
  split
  · obtain ⟨attempts, retried⟩ := started .attempting nofun
    exact ⟨accounted.consecutive, accounted.total, accounted.connected, attempts, retried⟩
  · obtain ⟨attempts, retried⟩ := started .refused nofun
    exact ⟨accounted.consecutive, accounted.total, accounted.connected, attempts, retried⟩

theorem step_accounted (event : RetryEvent) (accounted : Accounted maxRetries retries) :
    Accounted maxRetries (step maxRetries event retries) := by
  cases event with
  | begin forcedFailure => exact begin_accounted forcedFailure accounted
  | attemptEnds index outcome =>
      exact goOn_keeps index _ _ accounted fun _ found _ =>
        endAttempt_accounted outcome accounted found
  | delayEnds index =>
      exact goOn_keeps index _ _ accounted fun _ found waits =>
        retry_accounted accounted found waits
  | delayCancelled index =>
      exact goOn_keeps index _ _ accounted fun _ found _ =>
        setOperation_accounted accounted found rfl nofun
  | setWriter hasWriter =>
      exact ⟨accounted.consecutive, accounted.total, accounted.connected,
        accounted.attempts, accounted.retried⟩

/-- The attempts that were begun are those that have returned or failed, those that were
cancelled and those that are under way.  Each operation that was not refused has made its
first one, and all others are retries. -/
structure Tallied (retries : NegotiationRetries) : Prop where
  ends : retries.begun = retries.ended.length + retries.cancelled +
    retries.operations.countP (·.phase = .attempting)
  begins : retries.begun = retries.connection.recoveryAttempts +
    retries.operations.countP (·.phase ≠ .refused)

/-- The operations that pass a test when one of them is changed. -/
theorem countP_set_add {operations : List RetriedOperation} {index : Nat}
    {operation : RetriedOperation} (test : RetriedOperation → Bool)
    (after : RetriedOperation) (found : operations[index]? = some operation) :
    (operations.set index after).countP test + (test operation).toNat =
      operations.countP test + (test after).toNat := by
  induction operations generalizing index with
  | nil => cases found
  | cons first operations ih =>
      have counts : ∀ (head : RetriedOperation) (tail : List RetriedOperation),
          (head :: tail).countP test = tail.countP test + (test head).toNat := by
        intro head tail
        rw [List.countP_cons]
        cases test head <;> rfl
      cases index with
      | zero =>
          cases found
          rw [List.set_cons_zero, counts, counts]
          omega
      | succ index =>
          have later := @ih index (by simpa using found)
          rw [List.set_cons_succ, counts, counts]
          omega

theorem phases_set {operations : List RetriedOperation} {index : Nat}
    {operation after : RetriedOperation} (found : operations[index]? = some operation)
    (started : operation.phase ≠ .refused) (goesOn : after.phase ≠ .refused) :
    (operations.set index after).countP (·.phase = .attempting) +
        (decide (operation.phase = .attempting)).toNat =
      operations.countP (·.phase = .attempting) +
        (decide (after.phase = .attempting)).toNat ∧
    (operations.set index after).countP (·.phase ≠ .refused) =
      operations.countP (·.phase ≠ .refused) := by
  have underWay := countP_set_add (·.phase = .attempting) after found
  have letStart := countP_set_add (·.phase ≠ .refused) after found
  simp only [started, goesOn, ne_eq, not_false_eq_true, decide_true] at letStart
  exact ⟨underWay, Nat.add_right_cancel letStart⟩

theorem Tallied.ended {index : Nat} {operation after : RetriedOperation}
    (tallied : Tallied retries) (found : retries.operations[index]? = some operation)
    (attempting : operation.phase = .attempting) (left : after.phase ≠ .attempting)
    (goesOn : after.phase ≠ .refused) {connection : ConnectionState}
    (same : connection.recoveryAttempts = retries.connection.recoveryAttempts)
    {ended : List Bool} {cancelled : Nat}
    (one : ended.length + cancelled = retries.ended.length + retries.cancelled + 1) :
    Tallied { retries with
      connection, ended, cancelled
      operations := retries.operations.set index after } := by
  have started : operation.phase ≠ .refused := by
    rw [attempting]
    decide
  obtain ⟨underWay, letStart⟩ := phases_set found started goesOn
  simp only [attempting, left, decide_true, decide_false, Bool.toNat_true,
    Bool.toNat_false] at underWay
  have ends := tallied.ends
  constructor
  · simp only
    omega
  · simp only
    rw [same, letStart]
    exact tallied.begins

theorem endAttempt_tallied {index : Nat} {operation : RetriedOperation}
    (outcome : AttemptEnd) (tallied : Tallied retries)
    (found : retries.operations[index]? = some operation)
    (attempting : operation.phase = .attempting) :
    Tallied (endAttempt maxRetries index outcome operation retries) := by
  have recorded : ∀ success : Bool, (retries.record success).ended.length +
      (retries.record success).cancelled =
        retries.ended.length + retries.cancelled + 1 := by
    intro success
    simp only [record, List.length_append, List.length_singleton]
    omega
  cases outcome with
  | returned =>
      apply tallied.ended found attempting
      · simp
      · simp
      · rfl
      · exact recorded true
  | failed retryable =>
      apply tallied.ended found attempting
      · split <;> simp
      · split <;> simp
      · rfl
      · exact recorded false
  | cancelled =>
      apply tallied.ended found attempting
      · simp
      · simp
      · rfl
      · exact (Nat.add_assoc _ _ _).symm

theorem retry_tallied {index : Nat} {operation : RetriedOperation}
    (tallied : Tallied retries)
    (found : retries.operations[index]? = some operation)
    (waits : operation.phase = .waiting) : Tallied (retry index operation retries) := by
  obtain ⟨underWay, letStart⟩ :=
    @phases_set _ _ _ ⟨operation.attempt + 1, .attempting⟩ found (by simp [waits]) (by simp)
  simp only [waits, reduceCtorEq, decide_true, decide_false, Bool.toNat_true,
    Bool.toNat_false] at underWay
  have ends := tallied.ends
  have begins := tallied.begins
  constructor
  · simp only [retry, setOperation]
    omega
  · simp only [retry, setOperation]
    omega

theorem delayCancelled_tallied {index : Nat} {operation : RetriedOperation}
    (tallied : Tallied retries)
    (found : retries.operations[index]? = some operation)
    (waits : operation.phase = .waiting) :
    Tallied (setOperation index { operation with phase := .over } retries) := by
  obtain ⟨underWay, letStart⟩ :=
    @phases_set _ _ _ ⟨operation.attempt, .over⟩ found (by simp [waits]) (by simp)
  simp only [waits, reduceCtorEq, decide_false] at underWay
  constructor
  · exact tallied.ends.trans (congrArg _ underWay.symm)
  · exact tallied.begins.trans (congrArg _ letStart.symm)

theorem begin_tallied (forcedFailure : Bool) (tallied : Tallied retries) :
    Tallied (retries.begin forcedFailure) := by
  have ends := tallied.ends
  have begins := tallied.begins
  unfold begin
  split
  · constructor
    · simp only [List.countP_append, List.countP_singleton, decide_true, if_true]
      omega
    · simp only [List.countP_append, List.countP_singleton]
      rw [if_pos (by decide)]
      omega
  · constructor
    · simp only [List.countP_append, List.countP_singleton]
      rw [if_neg (by decide)]
      exact ends
    · simp only [List.countP_append, List.countP_singleton]
      rw [if_neg (by decide)]
      exact begins

theorem step_tallied (event : RetryEvent) (tallied : Tallied retries) :
    Tallied (step maxRetries event retries) := by
  cases event with
  | begin forcedFailure => exact begin_tallied forcedFailure tallied
  | attemptEnds index outcome =>
      exact goOn_keeps index _ _ tallied fun _ found attempting =>
        endAttempt_tallied outcome tallied found attempting
  | delayEnds index =>
      exact goOn_keeps index _ _ tallied fun _ found waits => retry_tallied tallied found waits
  | delayCancelled index =>
      exact goOn_keeps index _ _ tallied fun _ found waits =>
        delayCancelled_tallied tallied found waits
  | setWriter hasWriter => exact ⟨tallied.ends, tallied.begins⟩

/-- No operation is under way, and three attempts in a row have failed. -/
structure LockedOut (begun : Nat) (ended : List Bool) (retries : NegotiationRetries) :
    Prop where
  idle : ∀ operation ∈ retries.operations, operation.pending = false
  failures : 3 ≤ retries.connection.consecutiveFailures
  begun : retries.begun = begun
  ended : retries.ended = ended

theorem step_lockedOut {begun : Nat} {ended : List Bool} (event : RetryEvent)
    (locked : LockedOut begun ended retries) :
    LockedOut begun ended (step maxRetries event retries) := by
  have idle : ∀ index phase next, (phase = .attempting ∨ phase = .waiting) →
      retries.goOn index phase next = retries := by
    intro index phase next pending
    rcases goOn_cases index phase next retries with ⟨operation, found, here, _⟩ | stays
    · have done := locked.idle operation (List.mem_of_getElem? found)
      unfold RetriedOperation.pending at done
      rw [here] at done
      rcases pending with rfl | rfl <;> cases done
    · exact stays
  cases event with
  | begin forcedFailure =>
      have refuses : retries.validateConnectionState = false := by
        simp [validateConnectionState, locked.failures]
      simp only [step, NegotiationRetries.begin, refuses]
      refine ⟨?_, locked.failures, locked.begun, locked.ended⟩
      intro operation listed
      rcases List.mem_append.mp listed with old | new
      · exact locked.idle operation old
      · rw [List.mem_singleton.mp new]
        rfl
  | attemptEnds index outcome =>
      rw [show step maxRetries (.attemptEnds index outcome) retries = retries from
        idle index _ _ (.inl rfl)]
      exact locked
  | delayEnds index =>
      rw [show step maxRetries (.delayEnds index) retries = retries from
        idle index _ _ (.inr rfl)]
      exact locked
  | delayCancelled index =>
      rw [show step maxRetries (.delayCancelled index) retries = retries from
        idle index _ _ (.inr rfl)]
      exact locked
  | setWriter hasWriter => exact ⟨locked.idle, locked.failures, locked.begun, locked.ended⟩

/-- Over every interleaving of operations the state of the connection counts their
attempts: the failures since the last success, all failures, all retries, and no
operation makes more than `max_retries + 1` attempts.  Every attempt is counted once.  When
three attempts in a row have failed and none is under way, no attempt is ever made again. -/
theorem retries_of_every_run (maxRetries : Nat) (hasWriter : Bool)
    (events later : List RetryEvent) :
    let reached := run (step maxRetries) events (new hasWriter)
    let after := run (step maxRetries) later reached
    Accounted maxRetries reached ∧ Tallied reached ∧
      ((∀ operation ∈ reached.operations, operation.pending = false) →
        3 ≤ trailingFailures reached.ended →
          after.begun = reached.begun ∧ after.ended = reached.ended) := by
  intro reached after
  have start : Accounted maxRetries (new hasWriter) :=
    ⟨rfl, rfl, rfl, fun _ listed => absurd listed List.not_mem_nil, rfl⟩
  have accounted : Accounted maxRetries reached :=
    run_invariant (fun event {_} kept => step_accounted event kept) events start
  have tallied : Tallied reached :=
    run_invariant (fun event {_} kept => step_tallied event kept) events ⟨rfl, rfl⟩
  refine ⟨accounted, tallied, fun idle failures => ?_⟩
  have locked : LockedOut reached.begun reached.ended reached :=
    ⟨idle, accounted.consecutive ▸ failures, rfl, rfl⟩
  have kept : LockedOut reached.begun reached.ended after :=
    run_invariant (fun event {_} kept => step_lockedOut event kept) later locked
  exact ⟨kept.begun, kept.ended⟩

end NegotiationRetries

end Pure3270
