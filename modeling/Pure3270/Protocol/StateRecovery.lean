import Mathlib.Data.List.Infix
import Pure3270.Protocol.StateEvents

/-!
# Recovery of the handler

A recovery enters the recovering state first and asks then whether the handler is in
the error state.  So it never gets to a strategy, and the handler stays in the
recovering state.
-/

namespace Pure3270

open Foundations

namespace HandlerStates

/-- `str.lower`, as far as it gives ASCII letters. -/
def lowerChar (char : Char) : List Char :=
  if char = Char.ofNat 0x130 then ['i', Char.ofNat 0x307]
  else if char = Char.ofNat 0x212A then ['k']
  else [char.toLower]

/-- `word in reason.lower()`. -/
def mentions (word reason : String) : Bool :=
  word.toList <:+: reason.toList.flatMap lowerChar

/-- `_determine_recovery_strategy`: what the reasons of the latest errors mention. -/
def determineRecoveryStrategy (states : HandlerStates) : RecoveryStrategy :=
  let recent := states.stateHistory.drop (states.stateHistory.length - 5)
  let failed := fun (words : List String) =>
    recent.any fun entry => entry.1 = .error && words.any (mentions · entry.2)
  if failed ["connection"] then .reconnect
  else if failed ["negotiation"] then .renegotiate
  else if failed ["ascii", "tn3270"] then .resetMode
  else .fullReset

/-- `_can_attempt_recovery`. -/
def canAttemptRecovery (states : HandlerStates) : Bool :=
  if states.connection.host = "" ∨ states.connection.port = 0 then false
  else if states.currentState = .recovering then false
  else if 5 < states.stateTransitionCount .recovering then false
  else states.connection.hasNegotiator

-- what the strategies do to the handler, and whether they succeed
variable (outcome : RecoveryStrategy → HandlerStates → Bool × HandlerStates)

/-- `_execute_recovery_strategy`; a strategy that raises has failed. -/
def executeRecoveryStrategy (strategy : RecoveryStrategy) : StatesM Bool := fun states =>
  let (success, after) := outcome strategy states
  .ok success { after with executed := states.executed ++ [strategy] }

/-- `_attempt_state_recovery`. -/
def attemptStateRecovery : StatesM Unit :=
  tryCatch (do
      changeState .recovering "attempting recovery"
      let states ← get
      if states.currentState = .error then
        if states.canAttemptRecovery then
          let success ← executeRecoveryStrategy outcome states.determineRecoveryStrategy
          if success then changeState .connected "recovery successful"
          else changeState .error "recovery failed"
        else changeState .error "recovery not possible")
    fun fault => do
      let states ← get
      if states.currentState ≠ .error then
        changeState .error s!"recovery attempt failed: {fault.text}"

/-- How a recovery that returned should leave the handler. -/
structure Rests (before after : HandlerStates) : Prop where
  state : after.currentState = .connected ∨ after.currentState = .error
  attempted : before.canAttemptRecovery = true →
    ∃ strategy, after.executed = before.executed ++ [strategy]
  notHalfway : after.currentState ≠ .recovering

theorem changeState_recovering {states : HandlerStates}
    (inError : states.currentState = .error) (reason : String) :
    changeState .recovering reason states = .ok () (states.enter .recovering reason) := by
  have valid : HandlerState.error.validateStateTransition .recovering = true := by decide
  have unfaulted : states.faultOf .recovering = none := by
    unfold faultOf
    rw [inError, if_pos valid, Connection.validateStateConsistency_of_error valid]
  rw [changeState_eq, unfaulted]

theorem attemptStateRecovery_error {states : HandlerStates}
    (inError : states.currentState = .error) :
    attemptStateRecovery outcome states =
      .ok () (states.enter .recovering "attempting recovery") := by
  have entered := changeState_recovering inError "attempting recovery"
  have passed : (states.enter .recovering "attempting recovery").currentState ≠ .error := by
    rw [enter_currentState]
    decide
  unfold attemptStateRecovery
  apply run_tryCatch_ok
  rw [run_bind_ok entered, run_get_bind, if_neg passed]
  rfl

/-- A handler that failed and can be recovered. -/
def failedHandler : HandlerStates :=
  { init ⟨none, none, false, false, true, "host", 23⟩ with currentState := .error }

/-- A recovery from the error state returns, and leaves the handler half-way: no
strategy is executed. -/
theorem attemptStateRecovery_halfway (states : HandlerStates)
    (inError : states.currentState = .error) :
    ∃ after, attemptStateRecovery outcome states = .ok () after ∧
      after.currentState = .recovering ∧ after.executed = states.executed ∧
      ¬ Rests states after := by
  refine ⟨_, attemptStateRecovery_error outcome inError, enter_currentState _, ?_, ?_⟩
  · unfold enter handleStateChange
    simp only
    split <;> rfl
  · rintro ⟨_, _, notHalfway⟩
    exact notHalfway (enter_currentState _)

theorem attemptStateRecovery_failedHandler :
    failedHandler.canAttemptRecovery = true ∧
      ∃ after, attemptStateRecovery (fun _ states => (true, states)) failedHandler =
          .ok () after ∧
        after.currentState = .recovering ∧ after.executed = failedHandler.executed ∧
        ¬ Rests failedHandler after :=
  ⟨by decide, attemptStateRecovery_halfway _ failedHandler rfl⟩

/-- A recovery can leave the handler in the recovering state. -/
theorem not_rests_failedHandler :
    ¬ ∀ after, attemptStateRecovery (fun _ states => (true, states)) failedHandler =
        .ok () after → Rests failedHandler after := by
  intro rests
  have halfway := (rests _ (attemptStateRecovery_error _ rfl)).notHalfway
  exact halfway (enter_currentState _)

end HandlerStates

end Pure3270
