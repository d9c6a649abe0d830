/-!
# The states of the handler

A handler moves between nine states.  A change is checked against a table and
against the connection; one that fails a check ends in the error state and raises.
Every transition is recorded in a history and signalled through the events of the
two states.
-/

namespace Pure3270

/-- `HandlerState`. -/
inductive HandlerState where
  | disconnected
  | connecting
  | negotiating
  | connected
  | asciiMode
  | tn3270Mode
  | error
  | recovering
  | closing
  deriving DecidableEq, Repr

namespace HandlerState

def name : HandlerState → String
  | disconnected => "DISCONNECTED"
  | connecting => "CONNECTING"
  | negotiating => "NEGOTIATING"
  | connected => "CONNECTED"
  | asciiMode => "ASCII_MODE"
  | tn3270Mode => "TN3270_MODE"
  | error => "ERROR"
  | recovering => "RECOVERING"
  | closing => "CLOSING"

/-- The table of `_validate_state_transition`. -/
def validTransitions : HandlerState → List HandlerState
  | disconnected => [connecting, closing, connected]
  | connecting => [negotiating, closing, error, disconnected]
  | negotiating => [connected, asciiMode, tn3270Mode, closing, error]
  | connected => [tn3270Mode, asciiMode, error, closing]
  | asciiMode => [connected, error, closing]
  | tn3270Mode => [connected, error, closing]
  | error => [recovering, disconnected, closing]
  | recovering => [connected, error, disconnected]
  | closing => [disconnected, error]

/-- `_validate_state_transition`. -/
def validateStateTransition (fromState toState : HandlerState) : Bool :=
  toState ∈ fromState.validTransitions

/-- The states that need a negotiator. -/
def requiresNegotiator (toState : HandlerState) : Bool :=
  toState ∈ [negotiating, connected, asciiMode, tn3270Mode]

/-- No state follows itself. -/
theorem ne_of_validTransition {fromState toState : HandlerState}
    (valid : fromState.validateStateTransition toState = true) : fromState ≠ toState := by
  rintro rfl
  cases fromState <;> exact absurd valid (by decide)

end HandlerState

/-- A reader or a writer. -/
structure Stream where
  /-- Its text in messages. -/
  repr : String
  /-- It has the method `read`, or `write`. -/
  hasMethod : Bool
  deriving DecidableEq, Repr

/-- What the checks of a transition look at. -/
structure Connection where
  reader : Option Stream
  writer : Option Stream
  asciiMode : Bool
  connected : Bool
  hasNegotiator : Bool
  host : String
  port : Nat
  deriving DecidableEq, Repr

/-- What a change of state raises. -/
inductive StateFault where
  | transitionError (text : String)
  | validationError (text : String)
  | other (text : String)
  deriving DecidableEq, Repr

namespace StateFault

def text : StateFault → String
  | transitionError text => text
  | validationError text => text
  | other text => text

end StateFault

namespace Connection

/-- A stream, or `None`, in a message. -/
def reprOf (stream : Option Stream) : String :=
  (stream.map Stream.repr).getD "None"

/-- `_validate_negotiator_state`. -/
def validateNegotiatorState (toState : HandlerState) (connection : Connection) :
    Except StateFault Unit :=
  if !connection.hasNegotiator && toState.requiresNegotiator then
    .error (.validationError s!"Cannot enter {toState.name} state without negotiator")
  else .ok ()

/-- `self.negotiator.negotiated_tn3270e`, whose value goes to the log only. -/
def askNegotiator (connection : Connection) : Except StateFault Unit :=
  if connection.hasNegotiator then .ok ()
  else .error (.other "'NoneType' object has no attribute 'negotiated_tn3270e'")

/-- `_validate_state_consistency`. -/
def validateStateConsistency (toState : HandlerState) (connection : Connection) :
    Except StateFault Unit := do
  match toState with
  | .connected =>
      match connection.reader, connection.writer with
      | some reader, some writer =>
          if !reader.hasMethod || !writer.hasMethod then
            throw (.validationError "Reader/writer objects missing required methods")
      | reader, writer =>
          throw (.validationError
            s!"Cannot enter CONNECTED state without valid reader/writer: reader={reprOf reader}, writer={reprOf writer}")
  | .asciiMode =>
      if !connection.asciiMode then
        throw (.validationError "Cannot enter ASCII_MODE without _ascii_mode being True")
      connection.askNegotiator
  | .tn3270Mode =>
      if connection.asciiMode then
        throw (.validationError "Cannot enter TN3270_MODE while in ASCII mode")
      connection.askNegotiator
  | .negotiating =>
      if !connection.connected then
        throw (.validationError "Cannot enter NEGOTIATING state while not connected")
      if connection.reader.isNone || connection.writer.isNone then
        throw (.validationError "Cannot negotiate without valid reader/writer")
  | _ => pure ()
  connection.validateNegotiatorState toState

/-- From the error state a check never fails. -/
theorem validateStateConsistency_of_error {toState : HandlerState}
    (valid : HandlerState.error.validateStateTransition toState = true)
    (connection : Connection) : connection.validateStateConsistency toState = .ok () := by
  have targets : toState = .recovering ∨ toState = .disconnected ∨ toState = .closing := by
    simpa [HandlerState.validateStateTransition, HandlerState.validTransitions] using valid
  rcases targets with rfl | rfl | rfl <;>
    simp [validateStateConsistency, validateNegotiatorState,
      HandlerState.requiresNegotiator]

end Connection

/-- The strategies of a recovery. -/
inductive RecoveryStrategy where
  | reconnect
  | renegotiate
  | resetMode
  | fullReset
  deriving DecidableEq, Repr

/-- The part of a handler that keeps its state. -/
structure HandlerStates where
  connection : Connection
  currentState : HandlerState
  /-- States and reasons, the latest last. -/
  stateHistory : List (HandlerState × String)
  maxStateHistory : Int
  stateTransitionCount : HandlerState → Nat
  /-- The registered events, and whether they are set. -/
  stateChangeEvents : HandlerState → Option Bool
  autoRecover : Bool
  /-- How many recoveries were started in the background. -/
  recoveryTasks : Nat
  /-- The strategies that were executed. -/
  executed : List RecoveryStrategy

abbrev StatesM := EStateM StateFault HandlerStates

namespace HandlerStates

def init (connection : Connection) : HandlerStates where
  connection
  currentState := .disconnected
  stateHistory := []
  maxStateHistory := 100
  stateTransitionCount := fun _ => 0
  stateChangeEvents := fun _ => none
  autoRecover := false
  recoveryTasks := 0
  executed := []

/-- `_record_state_transition_sync`, without the time. -/
def recordStateTransition (newState : HandlerState) (reason : String)
    (states : HandlerStates) : HandlerStates :=
  let history := states.stateHistory ++ [(newState, reason)]
  { states with
    stateHistory :=
      if states.maxStateHistory < history.length then history.tail else history
    stateTransitionCount := fun state =>
      if state = newState then states.stateTransitionCount state + 1
      else states.stateTransitionCount state }

/-- An event is set or cleared if it is registered. -/
def markEvent (state : HandlerState) (isSet : Bool) (states : HandlerStates) :
    HandlerStates :=
  { states with
    stateChangeEvents := fun other =>
      if other = state then (states.stateChangeEvents state).map fun _ => isSet
      else states.stateChangeEvents other }

/-- `_signal_state_change`, without the callbacks: the event of the new state is set,
then that of the old one is cleared. -/
def signalStateChange (fromState toState : HandlerState) (states : HandlerStates) :
    HandlerStates :=
  (states.markEvent toState true).markEvent fromState false

/-- `_handle_state_change`. -/
def handleStateChange (toState : HandlerState) (states : HandlerStates) : HandlerStates :=
  if toState = .error ∧ states.autoRecover = true then
    { states with recoveryTasks := states.recoveryTasks + 1 }
  else states

/-- Record a transition, make it and signal it. -/
def enter (toState : HandlerState) (reason : String) (states : HandlerStates) :
    HandlerStates :=
  let recorded := states.recordStateTransition toState reason
  ({ recorded with currentState := toState }.handleStateChange toState).signalStateChange
    recorded.currentState toState

/-- `_handle_transition_error`. -/
def handleTransitionError (fault : StateFault) (fromState : HandlerState)
    (states : HandlerStates) : HandlerStates :=
  match fault with
  | .validationError text => states.enter .error s!"validation failed: {text}"
  | .transitionError text =>
      if fromState = .error then states
      else states.enter .error s!"invalid transition: {text}"
  | .other text =>
      if fromState = .error then states
      else states.enter .error s!"transition error: {text}"

/-- `_change_state`. -/
def changeState (newState : HandlerState) (reason : String) : StatesM Unit := do
  let before ← get
  let currentState := before.currentState
  tryCatch (do
      if !currentState.validateStateTransition newState then
        throw (.transitionError
          s!"Invalid state transition: {currentState.name} -> {newState.name}")
      match before.connection.validateStateConsistency newState with
      | .error fault => throw fault
      | .ok () => modify (enter newState reason))
    fun fault => do
      modify (handleTransitionError fault currentState)
      throw fault

/-- What `_update_state_atomically` sets. -/
structure StateUpdates where
  currentState : Option HandlerState
  connection : Connection → Connection

/-- `_update_state_atomically`. -/
def updateStateAtomically (updates : StateUpdates) (reason : String)
    (states : HandlerStates) : HandlerStates :=
  let updated :=
    { states with
      connection := updates.connection states.connection
      currentState := updates.currentState.getD states.currentState }
  match updates.currentState with
  | none => updated
  | some newState =>
      { (updated.recordStateTransition newState reason).signalStateChange
          updated.currentState newState with
        currentState := newState }

/-- `wait_for_state`. -/
def waitForState (state : HandlerState) (states : HandlerStates) : HandlerStates :=
  { states with
    stateChangeEvents := fun other =>
      if other = state then some ((states.stateChangeEvents state).getD false)
      else states.stateChangeEvents other }

end HandlerStates

end Pure3270
