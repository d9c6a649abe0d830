import Mathlib.Data.List.Basic
import Pure3270.Foundations.Runs
import Pure3270.Foundations.StateRelation
import Pure3270.Protocol.HandlerState

/-!
# Events and history of the states

A transition records the new state, sets its event and clears the event of the state
that is left.  An atomic update has put the new state in place before it signals, so
that it clears the event it has just set and leaves the event of the old state alone.
-/

namespace Pure3270

open Foundations

namespace HandlerStates

/-- The fault that a change of state meets. -/
def faultOf (newState : HandlerState) (states : HandlerStates) : Option StateFault :=
  if states.currentState.validateStateTransition newState then
    match states.connection.validateStateConsistency newState with
    | .error fault => some fault
    | .ok () => none
  else
    some (.transitionError
      s!"Invalid state transition: {states.currentState.name} -> {newState.name}")

theorem changeState_eq (newState : HandlerState) (reason : String)
    (states : HandlerStates) :
    changeState newState reason states =
      match states.faultOf newState with
      | none => .ok () (states.enter newState reason)
      | some fault =>
          .error fault (states.handleTransitionError fault states.currentState) := by
  unfold faultOf
  cases valid : states.currentState.validateStateTransition newState with
  | false =>
      simp only [Bool.false_eq_true, if_false]
      show (tryCatch _ _ : StatesM Unit) states = _
      rw [valid]
      rfl
  | true =>
      simp only [if_true]
      show (tryCatch _ _ : StatesM Unit) states = _
      rw [valid]
      cases checked : states.connection.validateStateConsistency newState with
      | error fault => rfl
      | ok value => rfl

/-- The state that a change of state enters: the new one, or the error state from
another one. -/
def changeEnters (newState : HandlerState) (states : HandlerStates) :
    Option HandlerState :=
  match states.faultOf newState with
  | none => some newState
  | some _ => if states.currentState = .error then none else some .error

theorem faultOf_error {newState : HandlerState} {states : HandlerStates}
    {fault : StateFault} (inError : states.currentState = .error)
    (found : states.faultOf newState = some fault) :
    ∃ text, fault = .transitionError text := by
  unfold faultOf at found
  rw [inError] at found
  split at found
  · rename_i valid
    rw [Connection.validateStateConsistency_of_error valid] at found
    cases found
  · cases found
    exact ⟨_, rfl⟩

theorem changeState_enters (newState : HandlerState) (reason : String)
    (states : HandlerStates) :
    match states.changeEnters newState with
    | none => finalState (changeState newState reason states) = states
    | some target =>
        target ≠ states.currentState ∧
          ∃ why, finalState (changeState newState reason states) =
            states.enter target why := by
  rw [changeState_eq]
  unfold changeEnters
  cases fault : states.faultOf newState with
  | none =>
      refine ⟨?_, reason, rfl⟩
      unfold faultOf at fault
      split at fault
      · rename_i valid
        exact (HandlerState.ne_of_validTransition valid).symm
      · cases fault
  | some fault' =>
      by_cases inError : states.currentState = .error
      · simp only [if_pos inError]
        obtain ⟨text, rfl⟩ := faultOf_error inError fault
        simp [handleTransitionError, inError]
      · simp only [if_neg inError]
        refine ⟨Ne.symm inError, ?_⟩
        cases fault' with
        | transitionError text =>
            exact ⟨_, by simp only [handleTransitionError, if_neg inError]; rfl⟩
        | validationError text => exact ⟨_, rfl⟩
        | other text =>
            exact ⟨_, by simp only [handleTransitionError, if_neg inError]; rfl⟩

/-- A call, or something else that changes the connection. -/
inductive StateCall where
  | changeState (newState : HandlerState) (reason : String)
  | updateStateAtomically (updates : StateUpdates) (reason : String)
  | elsewhere (connection : Connection)

def step : StateCall → HandlerStates → HandlerStates
  | .changeState newState reason, states =>
      finalState (changeState newState reason states)
  | .updateStateAtomically updates reason, states =>
      states.updateStateAtomically updates reason
  | .elsewhere connection, states => { states with connection }

/-- The state that a call enters, if it enters one. -/
def entered : StateCall → HandlerStates → Option HandlerState
  | .changeState newState _, states => states.changeEnters newState
  | .updateStateAtomically updates _, _ => updates.currentState
  | .elsewhere _, _ => none

/-- The registered events and the history show the current state. -/
structure Mirrors (states : HandlerStates) : Prop where
  events : ∀ state isSet, states.stateChangeEvents state = some isSet →
    (isSet = true ↔ states.currentState = state)
  history : states.stateHistory.getLast?.map Prod.fst = some states.currentState

/-- The history can hold the next entry. -/
def Remembers (states : HandlerStates) : Prop :=
  states.stateHistory ≠ [] ∨ 0 < states.maxStateHistory

/-- No event is set but those of these states. -/
def OnlySet (allowed : List HandlerState) (states : HandlerStates) : Prop :=
  ∀ state, states.stateChangeEvents state = some true → state ∈ allowed

/-- When a call shows the state it enters: the history can hold it, no other event is
set, and an atomic update finds neither an event of the new state nor one that is set. -/
def Signals : StateCall → HandlerStates → Prop
  | .changeState newState reason, states =>
      ∀ target, entered (.changeState newState reason) states = some target →
        states.Remembers ∧ states.OnlySet [states.currentState, target]
  | .updateStateAtomically updates _, states =>
      ∀ target, updates.currentState = some target →
        states.Remembers ∧ states.OnlySet [target] ∧
          states.stateChangeEvents target = none
  | .elsewhere _, _ => True

theorem recordStateTransition_last (newState : HandlerState) (reason : String)
    (states : HandlerStates) :
    (states.recordStateTransition newState reason).stateHistory.getLast?.map Prod.fst =
        some newState ↔ states.Remembers := by
  unfold recordStateTransition Remembers
  simp only
  cases empty : states.stateHistory with
  | nil =>
      simp only [List.nil_append, List.length_singleton, ne_eq, not_true, false_or]
      split
      · rename_i full
        refine iff_of_false nofun ?_
        omega
      · rename_i room
        refine iff_of_true rfl ?_
        omega
  | cons first rest =>
      refine iff_of_true ?_ (.inl (List.cons_ne_nil _ _))
      split
      · simp
      · rw [List.getLast?_concat]
        rfl

theorem mirrors_iff_events {states after : HandlerStates} {target : HandlerState}
    {reason : String} (current : after.currentState = target)
    (history : after.stateHistory =
      (states.recordStateTransition target reason).stateHistory) :
    after.Mirrors ↔ states.Remembers ∧ ∀ state isSet,
      after.stateChangeEvents state = some isSet → (isSet = true ↔ target = state) := by
  have last := recordStateTransition_last target reason states
  rw [← history] at last
  constructor
  · rintro ⟨shown, ends⟩
    rw [current] at shown ends
    exact ⟨last.mp ends, shown⟩
  · rintro ⟨remembers, shown⟩
    exact ⟨current ▸ shown, current ▸ last.mpr remembers⟩

section Enter

variable {states : HandlerStates} {target : HandlerState}

theorem enter_currentState (reason : String) :
    (states.enter target reason).currentState = target := by
  unfold enter handleStateChange
  simp only
  split <;> rfl

theorem enter_stateHistory (reason : String) :
    (states.enter target reason).stateHistory =
      (states.recordStateTransition target reason).stateHistory := by
  unfold enter handleStateChange
  simp only
  split <;> rfl

theorem enter_stateChangeEvents (other : target ≠ states.currentState) (reason : String)
    (state : HandlerState) :
    (states.enter target reason).stateChangeEvents state =
      if state = states.currentState then
        (states.stateChangeEvents state).map fun _ => false
      else if state = target then (states.stateChangeEvents state).map fun _ => true
      else states.stateChangeEvents state := by
  have signalled : (states.enter target reason).stateChangeEvents state =
      (states.signalStateChange states.currentState target).stateChangeEvents state := by
    unfold enter handleStateChange
    simp only
    split <;> rfl
  rw [signalled]
  simp only [signalStateChange, markEvent]
  by_cases left : state = states.currentState
  · rw [if_pos left, if_pos left, if_neg (Ne.symm other), left]
  · rw [if_neg left, if_neg left]
    by_cases here : state = target
    · rw [if_pos here, if_pos here, here]
    · rw [if_neg here, if_neg here]

theorem enter_mirrors_iff (other : target ≠ states.currentState) (reason : String) :
    (states.enter target reason).Mirrors ↔
      states.Remembers ∧ states.OnlySet [states.currentState, target] := by
  rw [mirrors_iff_events (enter_currentState reason) (enter_stateHistory reason)]
  refine and_congr_right fun _ => ⟨fun shown state isSet => ?_, fun only state isSet found => ?_⟩
  · by_contra outside
    have notLeft : state ≠ states.currentState := fun same => outside (by simp [same])
    have notHere : state ≠ target := fun same => outside (by simp [same])
    have stays := enter_stateChangeEvents other reason state
    rw [if_neg notLeft, if_neg notHere, isSet] at stays
    exact notHere ((shown state true stays).mp rfl).symm
  · rw [enter_stateChangeEvents other] at found
    split at found
    · rename_i left
      obtain ⟨_, _, rfl⟩ := Option.map_eq_some_iff.mp found
      exact iff_of_false Bool.false_ne_true (left ▸ other)
    · split at found
      · rename_i here
        obtain ⟨_, _, rfl⟩ := Option.map_eq_some_iff.mp found
        exact iff_of_true rfl here.symm
      · rename_i notLeft notHere
        refine iff_of_false ?_ (Ne.symm notHere)
        rintro rfl
        rcases List.mem_cons.mp (only state found) with left | here
        · exact notLeft left
        · exact notHere (List.mem_singleton.mp here)

end Enter

section Update

variable {updates : StateUpdates} {target : HandlerState}

theorem update_stateChangeEvents (sets : updates.currentState = some target)
    (reason : String) (states : HandlerStates) (state : HandlerState) :
    (states.updateStateAtomically updates reason).stateChangeEvents state =
      if state = target then (states.stateChangeEvents state).map fun _ => false
      else states.stateChangeEvents state := by
  simp only [updateStateAtomically, sets, Option.getD_some, signalStateChange, markEvent,
    recordStateTransition, if_true, Option.map_map]
  by_cases here : state = target
  · rw [if_pos here, if_pos here, here]
    rfl
  · rw [if_neg here, if_neg here, if_neg here]

theorem update_mirrors_iff (sets : updates.currentState = some target) (reason : String)
    (states : HandlerStates) :
    (states.updateStateAtomically updates reason).Mirrors ↔
      states.Remembers ∧ states.OnlySet [target] ∧
        states.stateChangeEvents target = none := by
  have current : (states.updateStateAtomically updates reason).currentState = target := by
    simp only [updateStateAtomically, sets]
  have history : (states.updateStateAtomically updates reason).stateHistory =
      (states.recordStateTransition target reason).stateHistory := by
    simp only [updateStateAtomically, sets]
    rfl
  rw [mirrors_iff_events current history]
  refine and_congr_right fun _ => ⟨fun shown => ⟨fun state isSet => ?_, ?_⟩, ?_⟩
  · by_contra outside
    have notHere : state ≠ target := fun same => outside (by simp [same])
    have stays := update_stateChangeEvents sets reason states state
    rw [if_neg notHere, isSet] at stays
    exact notHere ((shown state true stays).mp rfl).symm
  · cases registered : states.stateChangeEvents target with
    | none => rfl
    | some isSet =>
        have cleared := update_stateChangeEvents sets reason states target
        rw [if_pos rfl, registered] at cleared
        exact absurd ((shown target false cleared).mpr rfl) Bool.false_ne_true
  · rintro ⟨only, unregistered⟩ state isSet found
    rw [update_stateChangeEvents sets] at found
    split at found
    · rename_i here
      rw [here, unregistered] at found
      cases found
    · rename_i notHere
      refine iff_of_false ?_ (Ne.symm notHere)
      rintro rfl
      exact notHere (List.mem_singleton.mp (only state found))

end Update

theorem step_mirrors_iff (call : StateCall) (states : HandlerStates) :
    (entered call states ≠ none → (step call states).Mirrors) ↔ Signals call states := by
  cases call with
  | changeState newState reason =>
      have enters := changeState_enters newState reason states
      show (states.changeEnters newState ≠ none →
        (finalState (changeState newState reason states)).Mirrors) ↔
          ∀ target, states.changeEnters newState = some target → _
      cases found : states.changeEnters newState with
      | none => exact iff_of_true (fun some => absurd rfl some) nofun
      | some target =>
          rw [found] at enters
          obtain ⟨other, why, same⟩ := enters
          rw [same, enter_mirrors_iff other why]
          exact ⟨fun shows _ same => Option.some.inj same ▸ shows nofun,
            fun shows _ => shows target rfl⟩
  | updateStateAtomically updates reason =>
      show (updates.currentState ≠ none → _) ↔ ∀ target, updates.currentState = some target → _
      cases sets : updates.currentState with
      | none => exact iff_of_true (fun some => absurd rfl some) nofun
      | some target =>
          show (_ → (states.updateStateAtomically updates reason).Mirrors) ↔ _
          rw [update_mirrors_iff sets reason states]
          exact ⟨fun shows _ same => Option.some.inj same ▸ shows nofun,
            fun shows _ => shows target rfl⟩
  | elsewhere connection => exact iff_of_true (fun some => absurd rfl some) trivial

/-- After every call of a run that enters a state, events and history show it exactly
if every call of the run signals it. -/
theorem mirrors_iff_along (calls : List StateCall) (states : HandlerStates) :
    Along step (fun call before => entered call before ≠ none → (step call before).Mirrors)
        calls states ↔
      Along step Signals calls states := by
  have keeps : ∀ (call : StateCall) {before : HandlerStates}, True →
      (entered call before ≠ none → (step call before).Mirrors) → True :=
    fun _ _ _ _ => trivial
  exact along_congr keeps (fun call before _ => step_mirrors_iff call before) trivial

/-- An atomic update clears the event of the state it sets. -/
theorem not_mirrors_update :
    ¬ Along step
        (fun call before => entered call before ≠ none → (step call before).Mirrors)
        [.updateStateAtomically ⟨some .connected, id⟩ "test"]
        ((init ⟨none, none, false, false, true, "host", 23⟩).waitForState .connected) := by
  rintro ⟨shows, _⟩
  have shown := (shows nofun).events .connected false rfl
  exact absurd (shown.mpr rfl) Bool.false_ne_true

/-- The history can grow, and no event is set but that of the current state. -/
def Clean (states : HandlerStates) : Prop :=
  states.Remembers ∧ states.OnlySet [states.currentState]

theorem Mirrors.clean {states : HandlerStates} (mirrors : states.Mirrors) :
    states.Clean := by
  refine ⟨.inl fun empty => ?_, fun state isSet => ?_⟩
  · have last := mirrors.history
    rw [empty] at last
    cases last
  · exact List.mem_singleton.mpr ((mirrors.events state true isSet).mp rfl).symm

/-- The call does not set the state by itself. -/
def SetsNoState : StateCall → Prop
  | .updateStateAtomically updates _ => updates.currentState = none
  | _ => True

theorem Clean.signals {states : HandlerStates} (clean : states.Clean) {call : StateCall}
    (setsNone : SetsNoState call) : Signals call states := by
  cases call with
  | changeState newState reason =>
      refine fun target _ => ⟨clean.1, fun state isSet => ?_⟩
      rw [List.mem_singleton.mp (clean.2 state isSet)]
      exact List.mem_cons_self
  | updateStateAtomically updates reason =>
      intro target sets
      cases sets.symm.trans setsNone
  | elsewhere connection => trivial

theorem Clean.step {states : HandlerStates} (clean : states.Clean) {call : StateCall}
    (setsNone : SetsNoState call) : (HandlerStates.step call states).Clean := by
  have shows := (step_mirrors_iff call states).mpr (clean.signals setsNone)
  by_cases enters : entered call states = none
  · cases call with
    | changeState newState reason =>
        have stays := changeState_enters newState reason states
        rw [show states.changeEnters newState = none from enters] at stays
        have same : HandlerStates.step (.changeState newState reason) states = states := stays
        rw [same]
        exact clean
    | updateStateAtomically updates reason =>
        have sets : updates.currentState = none := setsNone
        show (states.updateStateAtomically updates reason).Clean
        unfold updateStateAtomically
        rw [sets]
        exact clean
    | elsewhere connection => exact clean
  · exact (shows enters).clean

/-- Changes of state alone keep events and history in step with the state. -/
theorem mirrors_of_setsNoState {calls : List StateCall} {states : HandlerStates}
    (clean : states.Clean) (setsNone : ∀ call ∈ calls, SetsNoState call) :
    Along step (fun call before => entered call before ≠ none → (step call before).Mirrors)
      calls states := by
  induction calls generalizing states with
  | nil => trivial
  | cons call calls ih =>
      have here := setsNone call List.mem_cons_self
      exact ⟨(step_mirrors_iff call states).mpr (clean.signals here),
        ih (clean.step here) fun other member => setsNone other (List.mem_cons_of_mem _ member)⟩

end HandlerStates

end Pure3270
