import Mathlib.Data.List.Chain
import Pure3270.Foundations.GrowingLists
import Pure3270.Protocol.StateEvents

/-!
# State callbacks and closing

A transition is announced to the callbacks of the two states it links.  The
announcements of a handler form one chain from its first state to its current one, of
which the history keeps the end.  `close` forgets all callbacks and events before its
last transition, so that nobody hears that the handler is disconnected.
-/

namespace Pure3270

open Foundations

/-- The three kinds of callbacks. -/
inductive CallbackKind where
  | change
  | entry
  | exit
  deriving DecidableEq

/-- What `_signal_state_change` is called with. -/
structure StateSignal where
  fromState : HandlerState
  toState : HandlerState
  reason : String
  deriving DecidableEq

/-- A call of a callback with what it hears. -/
inductive HeardCall where
  | change (callback : Nat) (fromState toState : HandlerState) (reason : String)
  | entry (callback : Nat) (toState : HandlerState)
  | exit (callback : Nat) (fromState : HandlerState)
  deriving DecidableEq

namespace CallbackKind

/-- The state whose callbacks of this kind are called. -/
def watched (signal : StateSignal) : CallbackKind → HandlerState
  | change => signal.toState
  | entry => signal.toState
  | exit => signal.fromState

def call (signal : StateSignal) (callback : Nat) : CallbackKind → HeardCall
  | change => .change callback signal.fromState signal.toState signal.reason
  | entry => .entry callback signal.toState
  | exit => .exit callback signal.fromState

end CallbackKind

namespace HeardCall

def kind : HeardCall → CallbackKind
  | change _ _ _ _ => .change
  | entry _ _ => .entry
  | exit _ _ => .exit

def callback : HeardCall → Nat
  | change callback _ _ _ => callback
  | entry callback _ => callback
  | exit callback _ => callback

/-- The call tells of an entry into this state. -/
def Tells (state : HandlerState) : HeardCall → Prop
  | change _ _ toState _ => toState = state
  | entry _ toState => toState = state
  | exit _ _ => False

end HeardCall

/-- A handler with its callbacks, and what was signalled and heard so far.  What a
callback raises is logged and dropped. -/
structure ListenedStates where
  states : HandlerStates
  callbacks : CallbackKind → HandlerState → List Nat
  eventSignalingEnabled : Bool
  signals : List StateSignal
  heard : List HeardCall

namespace ListenedStates

def init (connection : Connection) : ListenedStates where
  states := .init connection
  callbacks _ _ := []
  eventSignalingEnabled := true
  signals := []
  heard := []

/-- `add_state_change_callback`, `add_state_entry_callback` and
`add_state_exit_callback`. -/
def addCallback (kind : CallbackKind) (state : HandlerState) (callback : Nat)
    (listened : ListenedStates) : ListenedStates :=
  { listened with
    callbacks := fun otherKind other =>
      if otherKind = kind ∧ other = state then listened.callbacks kind state ++ [callback]
      else listened.callbacks otherKind other }

/-- `remove_state_change_callback`: the first one that is registered goes.  There is no
such method for the other kinds. -/
def removeStateChangeCallback (state : HandlerState) (callback : Nat)
    (listened : ListenedStates) : ListenedStates :=
  { listened with
    callbacks := fun otherKind other =>
      if otherKind = .change ∧ other = state then
        (listened.callbacks .change state).erase callback
      else listened.callbacks otherKind other }

/-- The calls of `_trigger_state_change_callbacks`. -/
def triggered (signal : StateSignal) (listened : ListenedStates) : List HeardCall :=
  if listened.eventSignalingEnabled then
    [CallbackKind.change, .entry, .exit].flatMap fun kind =>
      (listened.callbacks kind (kind.watched signal)).map fun callback =>
        kind.call signal callback
  else []

/-- `_trigger_state_change_callbacks`, the last part of `_signal_state_change`. -/
def trigger (signal : StateSignal) (listened : ListenedStates) : ListenedStates :=
  { listened with
    signals := listened.signals ++ [signal]
    heard := listened.heard ++ listened.triggered signal }

/-- Record a transition, make it and signal it. -/
def enter (toState : HandlerState) (reason : String) (listened : ListenedStates) :
    ListenedStates :=
  { listened with states := listened.states.enter toState reason }.trigger
    ⟨listened.states.currentState, toState, reason⟩

/-- `_handle_transition_error`. -/
def handleTransitionError (fault : StateFault) (fromState : HandlerState)
    (listened : ListenedStates) : ListenedStates :=
  match fault with
  | .validationError text => listened.enter .error s!"validation failed: {text}"
  | .transitionError text =>
      if fromState = .error then listened
      else listened.enter .error s!"invalid transition: {text}"
  | .other text =>
      if fromState = .error then listened
      else listened.enter .error s!"transition error: {text}"

/-- `_change_state`, with what it raises. -/
def changeState (newState : HandlerState) (reason : String) (listened : ListenedStates) :
    Option StateFault × ListenedStates :=
  match listened.states.faultOf newState with
  | none => (none, listened.enter newState reason)
  | some fault =>
      (some fault, listened.handleTransitionError fault listened.states.currentState)

/-- The connection is gone, and nobody is told any more. -/
def forget (connection : Connection) (listened : ListenedStates) : ListenedStates :=
  { listened with
    states :=
      { listened.states with
        connection := { connection with connected := false }
        stateChangeEvents := fun _ => none }
    callbacks := fun _ _ => [] }

/-- The first part of `close`: a transition that the table does not have is forced. -/
def startClosing (listened : ListenedStates) : Option StateFault × ListenedStates :=
  match listened.changeState .closing "closing connection" with
  | (some (.transitionError _), after) => (none, after.enter .closing "forced closing")
  | result => result

/-- `close`.  Tearing the connection down leaves it changed or raises; the error state
is tried when anything has been raised, and the exception goes on. -/
def close (teardown : Except String Connection) (listened : ListenedStates) :
    Option StateFault × ListenedStates :=
  let failed := fun (fault : StateFault) (after : ListenedStates) =>
    (some fault, (after.changeState .error s!"error during close: {fault.text}").2)
  match listened.startClosing with
  | (some fault, after) => failed fault after
  | (none, closing) =>
      match teardown with
      | .error text => failed (.other text) closing
      | .ok connection =>
          match (closing.forget connection).changeState .disconnected
              "connection closed successfully" with
          | (some fault, after) => failed fault after
          | (none, after) => (none, after)

end ListenedStates

/-- A call, or something else that changes the connection. -/
inductive ListenedCall where
  | changeState (newState : HandlerState) (reason : String)
  | close (teardown : Except String Connection)
  | addCallback (kind : CallbackKind) (state : HandlerState) (callback : Nat)
  | removeStateChangeCallback (state : HandlerState) (callback : Nat)
  | enableEventSignaling (enable : Bool)
  | waitForState (state : HandlerState)
  | elsewhere (connection : Connection)

namespace ListenedStates

def step : ListenedCall → ListenedStates → ListenedStates
  | .changeState newState reason, listened => (listened.changeState newState reason).2
  | .close teardown, listened => (listened.close teardown).2
  | .addCallback kind state callback, listened => listened.addCallback kind state callback
  | .removeStateChangeCallback state callback, listened =>
      listened.removeStateChangeCallback state callback
  | .enableEventSignaling enable, listened => { listened with eventSignalingEnabled := enable }
  | .waitForState state, listened =>
      { listened with states := listened.states.waitForState state }
  | .elsewhere connection, listened =>
      { listened with states := { listened.states with connection } }

variable {listened : ListenedStates}

@[simp] theorem enter_states (toState : HandlerState) (reason : String)
    (listened : ListenedStates) :
    (listened.enter toState reason).states = listened.states.enter toState reason := rfl

/-- Without the callbacks these are the transitions of the handler. -/
theorem changeState_states (newState : HandlerState) (reason : String)
    (listened : ListenedStates) :
    (listened.changeState newState reason).2.states =
      finalState (HandlerStates.changeState newState reason listened.states) := by
  rw [HandlerStates.changeState_eq]
  unfold changeState
  cases listened.states.faultOf newState with
  | none => rfl
  | some fault =>
      cases fault with
      | validationError text => rfl
      | transitionError text =>
          simp only [handleTransitionError, HandlerStates.handleTransitionError, finalState_error]
          split
          · rfl
          · rfl
      | other text =>
          simp only [handleTransitionError, HandlerStates.handleTransitionError, finalState_error]
          split
          · rfl
          · rfl

/-- A call either changes no state or enters another one once. -/
theorem changeState_cases (newState : HandlerState) (reason : String)
    (listened : ListenedStates) :
    (listened.changeState newState reason).2 = listened ∨
      ∃ target why, target ≠ listened.states.currentState ∧
        (listened.changeState newState reason).2 = listened.enter target why := by
  unfold changeState
  cases met : listened.states.faultOf newState with
  | none =>
      have changes := HandlerStates.changeState_enters newState reason listened.states
      unfold HandlerStates.changeEnters at changes
      rw [met] at changes
      exact .inr ⟨newState, reason, changes.1, rfl⟩
  | some fault =>
      by_cases inError : listened.states.currentState = .error
      · obtain ⟨text, rfl⟩ := HandlerStates.faultOf_error inError met
        exact .inl (if_pos inError)
      · right
        cases fault with
        | validationError text => exact ⟨_, _, Ne.symm inError, rfl⟩
        | transitionError text => exact ⟨_, _, Ne.symm inError, if_neg inError⟩
        | other text => exact ⟨_, _, Ne.symm inError, if_neg inError⟩

/-- The signals so far form a chain that ends in the current state, the history keeps
their end, and every signal is counted. -/
structure Followed (listened : ListenedStates) : Prop where
  limit : listened.states.maxStateHistory = 100
  history : listened.states.stateHistory =
    keepLast 100 (listened.signals.map fun signal => (signal.toState, signal.reason))
  counted : ∀ state, listened.states.stateTransitionCount state =
    listened.signals.countP (·.toState = state)
  linked : listened.signals.IsChain fun first second => first.toState = second.fromState
  starts : ∀ signal ∈ listened.signals.head?, signal.fromState = .disconnected
  current : listened.states.currentState =
    (listened.signals.getLast?.map StateSignal.toState).getD .disconnected
  moves : ∀ signal ∈ listened.signals, signal.fromState ≠ signal.toState

theorem followed_init (connection : Connection) : (init connection).Followed where
  limit := rfl
  history := rfl
  counted _ := rfl
  linked := .nil
  starts _ member := nomatch member
  current := rfl
  moves _ member := nomatch member

theorem enter_books (target : HandlerState) (reason : String) (states : HandlerStates) :
    (states.enter target reason).maxStateHistory = states.maxStateHistory ∧
      (states.enter target reason).stateHistory =
        record states.maxStateHistory (target, reason) states.stateHistory ∧
      ∀ state, (states.enter target reason).stateTransitionCount state =
        states.stateTransitionCount state + if target = state then 1 else 0 := by
  have books : (states.enter target reason).maxStateHistory = states.maxStateHistory ∧
      (states.enter target reason).stateTransitionCount =
        (states.recordStateTransition target reason).stateTransitionCount := by
    unfold HandlerStates.enter HandlerStates.handleStateChange
    dsimp only
    split
    · exact ⟨rfl, rfl⟩
    · exact ⟨rfl, rfl⟩
  refine ⟨books.1, ?_, fun state => ?_⟩
  · rw [HandlerStates.enter_stateHistory]
    unfold record
    rw [List.drop_one]
    rfl
  · rw [books.2]
    unfold HandlerStates.recordStateTransition
    by_cases here : target = state
    · simp [here]
    · simp [here, Ne.symm here]

theorem Followed.enter (followed : listened.Followed) {target : HandlerState}
    (moves : target ≠ listened.states.currentState) (reason : String) :
    (listened.enter target reason).Followed := by
  obtain ⟨limit, history, counted⟩ := enter_books target reason listened.states
  let signal : StateSignal := ⟨listened.states.currentState, target, reason⟩
  have signals : (listened.enter target reason).signals = listened.signals ++ [signal] := rfl
  constructor
  · exact limit.trans followed.limit
  · rw [enter_states, history, followed.limit, followed.history, signals, List.map_append]
    exact record_keepLast 100 (target, reason) _
  · intro state
    rw [enter_states, counted, followed.counted, signals, List.countP_append]
    by_cases here : target = state
    · simp [here, signal]
    · simp [here, signal]
  · rw [signals, List.isChain_append]
    refine ⟨followed.linked, .singleton _, fun last lastOf next nextOf => ?_⟩
    cases nextOf
    have current := followed.current
    rw [lastOf] at current
    exact current.symm
  · intro first firstOf
    rw [signals] at firstOf
    cases earlier : listened.signals with
    | nil =>
        rw [earlier] at firstOf
        cases firstOf
        have current := followed.current
        rw [earlier] at current
        exact current
    | cons oldest others =>
        rw [earlier] at firstOf
        cases firstOf
        exact followed.starts _ (by rw [earlier]; rfl)
  · rw [enter_states, HandlerStates.enter_currentState, signals, List.getLast?_concat]
    rfl
  · intro other member
    rw [signals] at member
    rcases List.mem_append.mp member with old | new
    · exact followed.moves other old
    · rw [List.mem_singleton.mp new]
      exact Ne.symm moves

theorem Followed.changeState (followed : listened.Followed) (newState : HandlerState)
    (reason : String) : (listened.changeState newState reason).2.Followed := by
  rcases changeState_cases newState reason listened with same | ⟨target, why, moves, entered⟩
  · rw [same]
    exact followed
  · rw [entered]
    exact followed.enter moves why

theorem changeState_closing (reason : String) (listened : ListenedStates) :
    ((listened.changeState .closing reason).1 = none ∧
      (listened.changeState .closing reason).2 = listened.enter .closing reason) ∨
    ∃ text, (listened.changeState .closing reason).1 = some (.transitionError text) ∧
      (listened.changeState .closing reason).2.states.currentState = .error := by
  have consistent : listened.states.connection.validateStateConsistency .closing = .ok () := by
    simp [Connection.validateStateConsistency, Connection.validateNegotiatorState,
      HandlerState.requiresNegotiator]
  unfold changeState
  cases met : listened.states.faultOf .closing with
  | none => exact .inl ⟨rfl, rfl⟩
  | some fault =>
      have invalid : ∃ text, fault = .transitionError text := by
        unfold HandlerStates.faultOf at met
        split at met
        · rw [consistent] at met
          cases met
        · cases met
          exact ⟨_, rfl⟩
      obtain ⟨text, rfl⟩ := invalid
      refine .inr ⟨text, rfl, ?_⟩
      dsimp only [handleTransitionError]
      split
      · rename_i inError
        exact inError
      · exact HandlerStates.enter_currentState _

theorem startClosing_spec (followed : listened.Followed) :
    listened.startClosing.1 = none ∧
      listened.startClosing.2.states.currentState = .closing ∧
      listened.startClosing.2.Followed := by
  have kept := followed.changeState .closing "closing connection"
  unfold startClosing
  rcases changeState_closing "closing connection" listened with
    ⟨passed, entered⟩ | ⟨text, refused, inError⟩
  · generalize listened.changeState .closing "closing connection" = result at *
    obtain ⟨raised, after⟩ := result
    cases passed
    cases entered
    exact ⟨rfl, HandlerStates.enter_currentState _, kept⟩
  · generalize listened.changeState .closing "closing connection" = result at *
    obtain ⟨raised, after⟩ := result
    cases refused
    refine ⟨rfl, HandlerStates.enter_currentState _, kept.enter ?_ _⟩
    rw [inError]
    decide

theorem changeState_of_closing (closing : listened.states.currentState = .closing)
    {target : HandlerState} (ends : target = .disconnected ∨ target = .error)
    (reason : String) :
    listened.changeState target reason = (none, listened.enter target reason) := by
  have passes : listened.states.faultOf target = none := by
    unfold HandlerStates.faultOf
    rw [closing]
    rcases ends with rfl | rfl
    · simp [HandlerState.validateStateTransition, HandlerState.validTransitions,
        Connection.validateStateConsistency, Connection.validateNegotiatorState,
        HandlerState.requiresNegotiator]
    · simp [HandlerState.validateStateTransition, HandlerState.validTransitions,
        Connection.validateStateConsistency, Connection.validateNegotiatorState,
        HandlerState.requiresNegotiator]
  unfold changeState
  rw [passes]

/-- How `close` ends. -/
theorem close_eq (followed : listened.Followed) (teardown : Except String Connection) :
    listened.close teardown =
      match teardown with
      | .error text =>
          (some (.other text),
            listened.startClosing.2.enter .error s!"error during close: {text}")
      | .ok connection =>
          (none, (listened.startClosing.2.forget connection).enter .disconnected
            "connection closed successfully") := by
  obtain ⟨passed, closing, _⟩ := startClosing_spec followed
  unfold close
  generalize listened.startClosing = result at *
  obtain ⟨raised, after⟩ := result
  cases passed
  cases teardown with
  | error text =>
      dsimp only
      rw [changeState_of_closing closing (.inr rfl)]
      rfl
  | ok connection =>
      have still : (after.forget connection).states.currentState = .closing := closing
      dsimp only
      rw [changeState_of_closing still (.inl rfl)]

theorem Followed.close (followed : listened.Followed) (teardown : Except String Connection) :
    (listened.close teardown).2.Followed := by
  obtain ⟨_, closing, kept⟩ := startClosing_spec followed
  rw [close_eq followed]
  cases teardown with
  | error text =>
      refine kept.enter ?_ _
      rw [closing]
      decide
  | ok connection =>
      have forgotten : (listened.startClosing.2.forget connection).Followed := { kept with }
      refine forgotten.enter ?_ _
      show HandlerState.disconnected ≠ listened.startClosing.2.states.currentState
      rw [closing]
      decide

theorem Followed.step (followed : listened.Followed) (call : ListenedCall) :
    (step call listened).Followed := by
  cases call with
  | changeState newState reason => exact followed.changeState newState reason
  | close teardown => exact followed.close teardown
  | addCallback kind state callback => exact { followed with }
  | removeStateChangeCallback state callback => exact { followed with }
  | enableEventSignaling enable => exact { followed with }
  | waitForState state => exact { followed with }
  | elsewhere connection => exact { followed with }

/-- Only calls of this kind are added to what was heard. -/
def HearsOnly (Allowed : HeardCall → Prop) (before after : ListenedStates) : Prop :=
  ∃ added, after.heard = before.heard ++ added ∧ ∀ call ∈ added, Allowed call

theorem HearsOnly.trans {Allowed : HeardCall → Prop} {before middle after : ListenedStates}
    (first : HearsOnly Allowed before middle) (second : HearsOnly Allowed middle after) :
    HearsOnly Allowed before after := by
  obtain ⟨early, heard, allowed⟩ := first
  obtain ⟨late, later, allowedToo⟩ := second
  refine ⟨early ++ late, by rw [later, heard, List.append_assoc], fun call member => ?_⟩
  exact (List.mem_append.mp member).elim (allowed call) (allowedToo call)

/-- An entry is told to nobody as an entry into another state. -/
theorem enter_hearsOnly {target state : HandlerState} (other : target ≠ state)
    (reason : String) (listened : ListenedStates) :
    HearsOnly (¬ ·.Tells state) listened (listened.enter target reason) := by
  refine ⟨_, rfl, fun call member tells => ?_⟩
  unfold triggered at member
  split at member
  · obtain ⟨kind, _, called⟩ := List.mem_flatMap.mp member
    obtain ⟨callback, _, rfl⟩ := List.mem_map.mp called
    cases kind with
    | change => exact other tells
    | entry => exact other tells
    | exit => exact tells
  · cases member

theorem changeState_hearsOnly {newState state : HandlerState} (other : newState ≠ state)
    (noError : .error ≠ state) (reason : String) (listened : ListenedStates) :
    HearsOnly (¬ ·.Tells state) listened (listened.changeState newState reason).2 := by
  have stays : HearsOnly (¬ ·.Tells state) listened listened :=
    ⟨[], (List.append_nil _).symm, nofun⟩
  unfold changeState
  cases listened.states.faultOf newState with
  | none => exact enter_hearsOnly other reason listened
  | some fault =>
      cases fault with
      | validationError text => exact enter_hearsOnly noError _ listened
      | transitionError text =>
          dsimp only [handleTransitionError]
          split
          · exact stays
          · exact enter_hearsOnly noError _ listened
      | other text =>
          dsimp only [handleTransitionError]
          split
          · exact stays
          · exact enter_hearsOnly noError _ listened

theorem startClosing_hearsOnly (listened : ListenedStates) :
    HearsOnly (¬ ·.Tells .disconnected) listened listened.startClosing.2 := by
  have changes := changeState_hearsOnly (by decide : HandlerState.closing ≠ .disconnected)
    (by decide) "closing connection" listened
  unfold startClosing
  split
  · rename_i text after result
    rw [result] at changes
    exact changes.trans (enter_hearsOnly (by decide) _ after)
  · exact changes

/-- How `close` is to end when the connection is torn down like this. -/
def teardownFault : Except String Connection → Option StateFault
  | .ok _ => none
  | .error text => some (.other text)

/-- `close` raises what the teardown raises and ends in the error state, or else
disconnected, forgotten by all callbacks and events, and without having told anybody
that it is disconnected. -/
structure Closes (teardown : Except String Connection) (before : ListenedStates)
    (result : Option StateFault × ListenedStates) : Prop where
  raised : result.1 = teardownFault teardown
  state : result.2.states.currentState =
    if (teardownFault teardown).isSome then .error else .disconnected
  forgotten : teardownFault teardown = none →
    (∀ kind state, result.2.callbacks kind state = []) ∧
      ∀ state, result.2.states.stateChangeEvents state = none
  unheard : teardownFault teardown = none →
    ∀ call ∈ result.2.heard.drop before.heard.length, ¬ call.Tells .disconnected

theorem close_closes (followed : listened.Followed) (teardown : Except String Connection) :
    Closes teardown listened (listened.close teardown) := by
  have heard := startClosing_hearsOnly listened
  rw [close_eq followed]
  cases teardown with
  | error text =>
      exact
        { raised := rfl
          state := HandlerStates.enter_currentState _
          forgotten := nofun
          unheard := nofun }
  | ok connection =>
      have silent : (((listened.startClosing.2.forget connection).enter .disconnected
          "connection closed successfully").heard) = listened.startClosing.2.heard := by
        show listened.startClosing.2.heard ++ triggered _ _ = _
        rw [List.append_right_eq_self]
        unfold triggered
        split
        · rfl
        · rfl
      refine ⟨rfl, HandlerStates.enter_currentState _, fun _ => ⟨fun _ _ => rfl, ?_⟩, fun _ => ?_⟩
      · intro state
        have closing : HandlerState.disconnected ≠
            (listened.startClosing.2.forget connection).states.currentState := by
          show _ ≠ listened.startClosing.2.states.currentState
          rw [(startClosing_spec followed).2.1]
          decide
        dsimp only
        rw [enter_states, HandlerStates.enter_stateChangeEvents closing]
        split
        · rfl
        · split
          · rfl
          · rfl
      · obtain ⟨added, grown, untold⟩ := heard
        dsimp only
        rw [silent, grown, List.drop_left]
        exact untold

/-- In every run the announced transitions of a handler form one chain to its current
state, the history is the end of that chain, and closing then ends as it should with
nobody having heard of the end. -/
theorem transitions_of_every_run (connection : Connection) (calls : List ListenedCall)
    (teardown : Except String Connection) :
    let reached := run step calls (init connection)
    Followed reached ∧ Closes teardown reached (reached.close teardown) := by
  intro reached
  have followed : (run step calls (init connection)).Followed :=
    @run_invariant _ _ step Followed (fun call {_} kept => kept.step call) calls _
      (followed_init connection)
  exact ⟨followed, close_closes followed teardown⟩

/-- The call is one of this callback as a callback of this kind. -/
def IsOf (kind : CallbackKind) (callback : Nat) (call : HeardCall) : Bool :=
  call.kind = kind && call.callback = callback

/-- The callback is registered for this state once, and for no other of its kind. -/
structure Registered (kind : CallbackKind) (state : HandlerState) (callback : Nat)
    (listened : ListenedStates) : Prop where
  enabled : listened.eventSignalingEnabled = true
  places : ∀ other, (listened.callbacks kind other).filter (· = callback) =
    if other = state then [callback] else []

/-- The call leaves the registration of a callback alone. -/
def Spares (kind : CallbackKind) (callback : Nat) : ListenedCall → Prop
  | .changeState _ _ => True
  | .close _ => False
  | .addCallback otherKind _ other => ¬ (otherKind = kind ∧ other = callback)
  | .removeStateChangeCallback _ other => ¬ (kind = .change ∧ other = callback)
  | .enableEventSignaling enable => enable = true
  | .waitForState _ => True
  | .elsewhere _ => True

theorem isOf_call (kind otherKind : CallbackKind) (callback other : Nat) (signal : StateSignal) :
    IsOf kind callback (otherKind.call signal other) =
      (decide (otherKind = kind) && decide (other = callback)) := by
  cases otherKind <;> rfl

theorem filter_calls (kind otherKind : CallbackKind) (callback : Nat) (signal : StateSignal)
    (others : List Nat) :
    (others.map fun other => otherKind.call signal other).filter (IsOf kind callback) =
      if otherKind = kind then
        (others.filter (· = callback)).map fun other => otherKind.call signal other
      else [] := by
  rw [List.filter_map]
  by_cases same : otherKind = kind
  · rw [if_pos same]
    congr 1
    apply List.filter_congr
    intro other _
    simp [isOf_call, same]
  · rw [if_neg same, List.map_eq_nil_iff, List.filter_eq_nil_iff]
    intro other _
    simp [isOf_call, same]

theorem Registered.triggered {kind : CallbackKind} {state : HandlerState} {callback : Nat}
    (registered : listened.Registered kind state callback) (signal : StateSignal) :
    (listened.triggered signal).filter (IsOf kind callback) =
      if kind.watched signal = state then [kind.call signal callback] else [] := by
  have own : ∀ otherKind : CallbackKind,
      ((listened.callbacks otherKind (otherKind.watched signal)).map fun other =>
        otherKind.call signal other).filter (IsOf kind callback) =
      if otherKind = kind ∧ kind.watched signal = state then [kind.call signal callback]
      else [] := by
    intro otherKind
    rw [filter_calls]
    by_cases same : otherKind = kind
    · subst same
      rw [if_pos rfl, registered.places]
      by_cases watched : otherKind.watched signal = state
      · simp [watched]
      · simp [watched]
    · simp [same]
  unfold ListenedStates.triggered
  rw [if_pos registered.enabled]
  simp only [List.flatMap_cons, List.flatMap_nil, List.append_nil, List.filter_append, own]
  cases kind <;> simp

/-- What is signalled from one state of a handler to a later one, and what of it a
callback hears. -/
structure HearsAll (kind : CallbackKind) (state : HandlerState) (callback : Nat)
    (before after : ListenedStates) : Prop where
  registered : after.Registered kind state callback
  heard : ∃ signals, after.signals = before.signals ++ signals ∧
    after.heard.filter (IsOf kind callback) =
      before.heard.filter (IsOf kind callback) ++
        (signals.filter (kind.watched · = state)).map fun signal => kind.call signal callback

variable {kind : CallbackKind} {state : HandlerState} {callback : Nat}
  {before : ListenedStates}

theorem HearsAll.enter (hears : HearsAll kind state callback before listened)
    (target : HandlerState) (reason : String) :
    HearsAll kind state callback before (listened.enter target reason) := by
  obtain ⟨signals, grown, heard⟩ := hears.heard
  let signal : StateSignal := ⟨listened.states.currentState, target, reason⟩
  refine ⟨{ hears.registered with }, signals ++ [signal], ?_, ?_⟩
  · rw [← List.append_assoc, ← grown]
    rfl
  · have told : (listened.enter target reason).heard =
        listened.heard ++ listened.triggered signal := rfl
    rw [told, List.filter_append, heard, hears.registered.triggered, List.filter_append,
      List.map_append, List.append_assoc]
    congr 2
    by_cases watched : kind.watched signal = state
    · simp [watched]
    · simp [watched]

theorem HearsAll.changeState (hears : HearsAll kind state callback before listened)
    (newState : HandlerState) (reason : String) :
    HearsAll kind state callback before (listened.changeState newState reason).2 := by
  rcases changeState_cases newState reason listened with same | ⟨target, why, _, entered⟩
  · rw [same]
    exact hears
  · rw [entered]
    exact hears.enter target why

theorem HearsAll.step (hears : HearsAll kind state callback before listened)
    {call : ListenedCall} (spares : Spares kind callback call) :
    HearsAll kind state callback before (step call listened) := by
  have places := hears.registered.places
  cases call with
  | changeState newState reason => exact hears.changeState newState reason
  | close teardown => exact spares.elim
  | addCallback otherKind place other =>
      refine ⟨⟨hears.registered.enabled, fun here => ?_⟩, hears.heard⟩
      have apart : ¬ (otherKind = kind ∧ other = callback) := spares
      show List.filter _ (if kind = otherKind ∧ here = place then _ else _) = _
      split
      · rename_i there
        obtain ⟨rfl, rfl⟩ := there
        rw [List.filter_append, places]
        simp [show other ≠ callback from fun same => apart ⟨rfl, same⟩]
      · exact places here
  | removeStateChangeCallback place other =>
      refine ⟨⟨hears.registered.enabled, fun here => ?_⟩, hears.heard⟩
      have apart : ¬ (kind = .change ∧ other = callback) := spares
      show List.filter _ (if kind = .change ∧ here = place then _ else _) = _
      split
      · rename_i there
        obtain ⟨rfl, rfl⟩ := there
        have gone : callback ≠ other := fun same => apart ⟨rfl, same.symm⟩
        rw [← places, ← List.erase_filter]
        exact List.erase_of_not_mem fun member => by
          simp [gone.symm] at member
      · exact places here
  | enableEventSignaling enable =>
      exact ⟨⟨spares, places⟩, hears.heard⟩
  | waitForState place => exact ⟨{ hears.registered with }, hears.heard⟩
  | elsewhere connection => exact ⟨{ hears.registered with }, hears.heard⟩

theorem HearsAll.run {later : List ListenedCall}
    (hears : HearsAll kind state callback before listened)
    (spares : ∀ call ∈ later, Spares kind callback call) :
    HearsAll kind state callback before (run ListenedStates.step later listened) := by
  induction later generalizing listened with
  | nil => exact hears
  | cons call later ih =>
      exact ih (hears.step (spares call List.mem_cons_self))
        fun other member => spares other (List.mem_cons_of_mem call member)

end ListenedStates

end Pure3270
