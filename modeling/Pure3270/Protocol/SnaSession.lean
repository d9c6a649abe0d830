import Pure3270.Foundations.Runs
import Pure3270.Protocol.FunctionActivity

/-!
# The state of the SNA session

SNA responses move the session between seven states.  A table says which changes are valid;
the handlers assign states without a look at it.  While they wait, other tasks may reset the
negotiation state and change the negotiated functions.
-/

namespace Pure3270

open Foundations

inductive SnaSessionState where
  | normal
  | error
  | pendingRecovery
  | sessionDown
  | luBusy
  | invalidSequence
  | stateError
  deriving DecidableEq, Repr

namespace SnaSessionState

def validTransitions : SnaSessionState → List SnaSessionState
  | .normal => [.error, .sessionDown, .luBusy]
  | .error => [.pendingRecovery, .sessionDown]
  | .pendingRecovery => [.normal, .error, .sessionDown]
  | .sessionDown => [.normal, .error]
  | .luBusy => [.normal, .error]
  | .invalidSequence => [.error, .sessionDown]
  | .stateError => [.error, .sessionDown]

/-- `_validate_sna_state_transition`. -/
def validateSnaStateTransition (fromState toState : SnaSessionState) : Bool :=
  toState ∈ validTransitions fromState

/-- The states that a response is not to leave behind. -/
def transient : List SnaSessionState := [.luBusy, .pendingRecovery]

end SnaSessionState

namespace SenseCode

abbrev success : Int := 0x0000
abbrev invalidFormat : Int := 0x1001
abbrev notSupported : Int := 0x1002
abbrev sessionFailure : Int := 0x2001
abbrev invalidRequest : Int := 0x0801
abbrev luBusy : Int := 0x080A
abbrev invalidSequence : Int := 0x1008
abbrev noResources : Int := 0x080F
abbrev stateError : Int := 0x1003

end SenseCode

/-- How a step that is waited for ends.  A cancellation is no `Exception`. -/
inductive AwaitOutcome where
  | returns
  | raises
  | cancelled
  deriving DecidableEq, Repr

/-- A wait, and what others have made of the negotiation state by its end. -/
structure Interlude where
  outcome : AwaitOutcome
  reset : Bool
  negotiatedFunctions : Nat
  bindImageOverride : Option Bool

/-- The waits of a response: for each attempt on a busy logical unit a sleep and a resend,
the sleep of the other recoveries, and the negotiation. -/
structure SnaAwaits where
  busySleep : Nat → Interlude
  resend : Nat → Interlude
  sleep : Interlude
  negotiation : Interlude

/-- How a handler ends. -/
inductive Ending where
  | returned
  | raised
  | cancelled
  deriving DecidableEq, Repr

/-- The state of the session, the changes that the handlers have made of it, and the states
in which they have returned. -/
structure SnaSession where
  state : SnaSessionState
  negotiatedFunctions : Nat
  bindImageOverride : Option Bool
  pendingRequests : List Nat
  nextSeqNumber : Nat
  changes : List (SnaSessionState × SnaSessionState)
  rests : List SnaSessionState

namespace SnaSession

def new : SnaSession where
  state := .normal
  negotiatedFunctions := 0
  bindImageOverride := none
  pendingRequests := []
  nextSeqNumber := 0
  changes := []
  rests := []

def isBindImageActive (session : SnaSession) : Bool :=
  session.bindImageOverride.getD (session.negotiatedFunctions &&& Tn3270e.bindImage ≠ 0)

/-- An assignment to `_sna_session_state`. -/
def assign (state : SnaSessionState) (session : SnaSession) : SnaSession :=
  { session with state, changes := session.changes ++ [(session.state, state)] }

/-- What has changed when a wait is over. -/
def wait (interlude : Interlude) (session : SnaSession) : SnaSession :=
  { session with
    state := if interlude.reset then .normal else session.state
    negotiatedFunctions := interlude.negotiatedFunctions
    bindImageOverride := interlude.bindImageOverride }

/-- The attempts of `_handle_lu_busy`, with the number of those that are left.  An exception
ends the last attempt only, and without an active BIND-IMAGE nothing is tried. -/
def retryBusy (awaits : SnaAwaits) : Nat → SnaSession → Ending × SnaSession
  | 0, session => (.returned, session)
  | left + 1, session =>
      let slept := session.wait (awaits.busySleep (2 - left))
      let resent := slept.wait (awaits.resend (2 - left))
      match (awaits.busySleep (2 - left)).outcome with
      | .cancelled => (.cancelled, slept)
      | .raises =>
          if left = 0 then (.returned, slept.assign .error) else retryBusy awaits left slept
      | .returns =>
          if slept.isBindImageActive then
            match (awaits.resend (2 - left)).outcome with
            | .cancelled => (.cancelled, resent)
            | .raises =>
                if left = 0 then (.returned, resent.assign .error)
                else retryBusy awaits left resent
            | .returns => (.returned, resent.assign .normal)
          else retryBusy awaits left slept

def handleLuBusy (awaits : SnaAwaits) (session : SnaSession) : Ending × SnaSession :=
  retryBusy awaits 3 (session.assign .pendingRecovery)

def handleSequenceError (awaits : SnaAwaits) (session : SnaSession) : Ending × SnaSession :=
  let cleared := { session with pendingRequests := [], nextSeqNumber := 0 }
  let slept := (cleared.assign .pendingRecovery).wait awaits.sleep
  match awaits.sleep.outcome with
  | .returns => (.returned, slept.assign .normal)
  | .raises => (.returned, slept.assign .error)
  | .cancelled => (.cancelled, slept)

/-- The end of a recovery that negotiates anew. -/
def renegotiate (awaits : SnaAwaits) (session : SnaSession) : Ending × SnaSession :=
  let negotiated := session.wait awaits.negotiation
  match awaits.negotiation.outcome with
  | .returns => (.returned, negotiated.assign .normal)
  | .raises => (.returned, negotiated.assign .sessionDown)
  | .cancelled => (.cancelled, negotiated)

def clearBindImage (session : SnaSession) : SnaSession :=
  { session with
    negotiatedFunctions := session.negotiatedFunctions -
      (session.negotiatedFunctions &&& Tn3270e.bindImage)
    bindImageOverride := none }

def handleStateError (awaits : SnaAwaits) (session : SnaSession) : Ending × SnaSession :=
  let slept := (session.assign .pendingRecovery).clearBindImage.wait awaits.sleep
  match awaits.sleep.outcome with
  | .returns => slept.renegotiate awaits
  | .raises => (.returned, slept.assign .sessionDown)
  | .cancelled => (.cancelled, slept)

/-- The backoff for missing resources, whose exceptions are passed over. -/
def backOff (awaits : SnaAwaits) (session : SnaSession) : Ending × SnaSession :=
  let slept := session.wait awaits.sleep
  match awaits.sleep.outcome with
  | .cancelled => (.cancelled, slept)
  | _ => (.returned, slept)

/-- `_handle_sna_response`.  Without a sense code the text of the last branch cannot be
formatted, before a state is assigned. -/
def handleSnaResponse (senseCode : Option Int) (awaits : SnaAwaits) (session : SnaSession) :
    Ending × SnaSession :=
  if senseCode = some SenseCode.success then (.returned, session.assign .normal)
  else if senseCode = some SenseCode.luBusy then
    (session.assign .luBusy).handleLuBusy awaits
  else if senseCode = some SenseCode.sessionFailure then
    (session.assign .error).renegotiate awaits
  else if senseCode = some SenseCode.invalidFormat then (.returned, session.assign .error)
  else if senseCode = some SenseCode.notSupported then (.returned, session.assign .error)
  else if senseCode = some SenseCode.invalidRequest then (.returned, session.assign .error)
  else if senseCode = some SenseCode.invalidSequence then
    (session.assign .invalidSequence).handleSequenceError awaits
  else if senseCode = some SenseCode.noResources then (session.assign .error).backOff awaits
  else if senseCode = some SenseCode.stateError then
    (session.assign .stateError).handleStateError awaits
  else if senseCode = none then (.raised, session)
  else (.returned, session.assign .error)

/-- The change is one of the table, or none. -/
def Allowed (change : SnaSessionState × SnaSessionState) : Prop :=
  SnaSessionState.validateSnaStateTransition change.1 change.2 = true ∨ change.1 = change.2

instance (change : SnaSessionState × SnaSessionState) : Decidable (Allowed change) :=
  inferInstanceAs (Decidable (_ ∨ _))

/-- All changes are allowed, and no response was left in a transient state. -/
structure Orderly (session : SnaSession) : Prop where
  allowed : ∀ change ∈ session.changes, Allowed change
  settled : ∀ state ∈ session.rests, state ∉ SnaSessionState.transient

end SnaSession

/-- What comes to the session: responses, resets of the negotiation state by others, and
changes of the negotiated functions. -/
inductive SnaEvent where
  | response (senseCode : Option Int) (awaits : SnaAwaits)
  | reset
  | functions (negotiatedFunctions : Nat) (bindImageOverride : Option Bool)

namespace SnaSession

/-- What is left of a handler that has returned, or not. -/
def conclude : Ending × SnaSession → SnaSession
  | (.returned, after) => { after with rests := after.rests ++ [after.state] }
  | (_, after) => after

def respond (senseCode : Option Int) (awaits : SnaAwaits) (session : SnaSession) :
    SnaSession :=
  conclude (session.handleSnaResponse senseCode awaits)

def step : SnaEvent → SnaSession → SnaSession
  | .response senseCode awaits, session => session.respond senseCode awaits
  | .reset, session => { session with state := .normal }
  | .functions negotiatedFunctions bindImageOverride, session =>
      { session with negotiatedFunctions, bindImageOverride }

/-- The condition of each response: it is not one of the three whose recovery goes through
`PENDING_RECOVERY`, success does not come in the state `ERROR`, and after a session failure
a negotiation succeeds only if the state was reset meanwhile. -/
def Permitted : SnaEvent → SnaSession → Prop
  | .response senseCode awaits, session =>
      senseCode ∉ [some SenseCode.luBusy, some SenseCode.invalidSequence,
        some SenseCode.stateError] ∧
      (senseCode = some SenseCode.success → session.state ≠ .error) ∧
      (senseCode = some SenseCode.sessionFailure → awaits.negotiation.outcome = .returns →
        awaits.negotiation.reset = true)
  | _, _ => True

/-- Where nothing goes wrong the session rests in one of three states. -/
def Resting (session : SnaSession) : Prop :=
  session.state ∈ [SnaSessionState.normal, .error, .sessionDown]

variable {session : SnaSession} {senseCode : Option Int} {awaits : SnaAwaits}

/-- No handler forgets a change. -/
theorem retryBusy_changes (left : Nat) (session : SnaSession) :
    session.changes <+: (retryBusy awaits left session).2.changes := by
  induction left generalizing session with
  | zero => exact List.prefix_rfl
  | succ left ih =>
      have slept := ih (session.wait (awaits.busySleep (2 - left)))
      have resent := ih ((session.wait (awaits.busySleep (2 - left))).wait
        (awaits.resend (2 - left)))
      unfold retryBusy
      dsimp only
      split
      · exact List.prefix_rfl
      · split
        · exact List.prefix_append _ _
        · exact slept
      · split
        · split
          · exact List.prefix_rfl
          · split
            · exact List.prefix_append _ _
            · exact resent
          · exact List.prefix_append _ _
        · exact slept

theorem handleSequenceError_changes (session : SnaSession) :
    session.changes <+: (session.handleSequenceError awaits).2.changes := by
  unfold handleSequenceError
  dsimp only
  have pending := List.prefix_append session.changes [(session.state, .pendingRecovery)]
  split
  · exact pending.trans (List.prefix_append _ _)
  · exact pending.trans (List.prefix_append _ _)
  · exact pending

theorem renegotiate_changes (session : SnaSession) :
    session.changes <+: (session.renegotiate awaits).2.changes := by
  unfold renegotiate
  dsimp only
  split
  · exact List.prefix_append _ _
  · exact List.prefix_append _ _
  · exact List.prefix_rfl

theorem handleStateError_changes (session : SnaSession) :
    session.changes <+: (session.handleStateError awaits).2.changes := by
  unfold handleStateError
  dsimp only
  have pending := List.prefix_append session.changes [(session.state, .pendingRecovery)]
  have negotiated := @renegotiate_changes awaits
    ((session.assign .pendingRecovery).clearBindImage.wait awaits.sleep)
  split
  · exact pending.trans negotiated
  · exact pending.trans (List.prefix_append _ _)
  · exact pending

theorem respond_changes (senseCode : Option Int) (awaits : SnaAwaits) (session : SnaSession) :
    (session.respond senseCode awaits).changes =
      (session.handleSnaResponse senseCode awaits).2.changes := by
  unfold respond conclude
  split <;> rename_i handled <;> rw [handled]

/-- A change that the table does not know stays in the log. -/
theorem not_orderly_respond {change : SnaSessionState × SnaSessionState}
    (member : change ∈ (session.handleSnaResponse senseCode awaits).2.changes)
    (invalid : ¬ Allowed change) : ¬ (session.respond senseCode awaits).Orderly := by
  intro orderly
  rw [← respond_changes] at member
  exact invalid (orderly.allowed change member)

/-- The recovery from a busy logical unit starts with a change that the table does not
know. -/
theorem not_orderly_luBusy :
    ¬ (session.respond (some SenseCode.luBusy) awaits).Orderly := by
  have handled : session.handleSnaResponse (some SenseCode.luBusy) awaits =
      retryBusy awaits 3 ((session.assign .luBusy).assign .pendingRecovery) := rfl
  refine @not_orderly_respond session _ awaits (.luBusy, .pendingRecovery) ?_ (by decide)
  rw [handled]
  exact (retryBusy_changes 3 _).subset (List.mem_append_right _ List.mem_cons_self)

theorem not_allowed_invalidSequence (resting : session.Resting) :
    ¬ Allowed (session.state, .invalidSequence) ∧ ¬ Allowed (session.state, .stateError) := by
  unfold Resting at resting
  simp only [List.mem_cons, List.not_mem_nil, or_false] at resting
  rcases resting with here | here | here <;> rw [here] <;> decide

theorem not_orderly_invalidSequence (resting : session.Resting) :
    ¬ (session.respond (some SenseCode.invalidSequence) awaits).Orderly := by
  have handled : session.handleSnaResponse (some SenseCode.invalidSequence) awaits =
      (session.assign .invalidSequence).handleSequenceError awaits := rfl
  refine not_orderly_respond ?_ (not_allowed_invalidSequence resting).1
  rw [handled]
  exact (handleSequenceError_changes _).subset (List.mem_append_right _ List.mem_cons_self)

theorem not_orderly_stateError (resting : session.Resting) :
    ¬ (session.respond (some SenseCode.stateError) awaits).Orderly := by
  have handled : session.handleSnaResponse (some SenseCode.stateError) awaits =
      (session.assign .stateError).handleStateError awaits := rfl
  refine not_orderly_respond ?_ (not_allowed_invalidSequence resting).2
  rw [handled]
  exact (handleStateError_changes _).subset (List.mem_append_right _ List.mem_cons_self)

theorem orderly_assign_iff (state : SnaSessionState) (orderly : session.Orderly) :
    (session.assign state).Orderly ↔ Allowed (session.state, state) := by
  constructor
  · intro after
    exact after.allowed _ (List.mem_append_right _ List.mem_cons_self)
  · intro allowed
    refine ⟨fun change member => ?_, orderly.settled⟩
    rcases List.mem_append.mp member with before | last
    · exact orderly.allowed change before
    · rwa [List.mem_singleton.mp last]

theorem Orderly.wait (orderly : session.Orderly) (interlude : Interlude) :
    (session.wait interlude).Orderly :=
  ⟨orderly.allowed, orderly.settled⟩

theorem orderly_conclude_iff (ending : Ending)
    (settled : session.state ∉ SnaSessionState.transient) :
    (conclude (ending, session)).Orderly ↔ session.Orderly := by
  cases ending with
  | returned =>
      constructor
      · intro after
        exact ⟨after.allowed, fun state member =>
          after.settled state (List.mem_append_left _ member)⟩
      · intro orderly
        refine ⟨orderly.allowed, fun state member => ?_⟩
        rcases List.mem_append.mp member with before | last
        · exact orderly.settled state before
        · rwa [List.mem_singleton.mp last]
  | raised => exact Iff.rfl
  | cancelled => exact Iff.rfl

theorem orderly_conclude_assign_iff {state : SnaSessionState} (orderly : session.Orderly)
    (rests : state ∈ [SnaSessionState.normal, .error, .sessionDown]) :
    (conclude (.returned, session.assign state)).Resting ∧
      ((conclude (.returned, session.assign state)).Orderly ↔
        Allowed (session.state, state)) := by
  have settled : (session.assign state).state ∉ SnaSessionState.transient := by
    change state ∉ _
    revert rests
    revert state
    decide
  exact ⟨rests, (orderly_conclude_iff .returned settled).trans
    (orderly_assign_iff state orderly)⟩

theorem conclude_state (ending : Ending) (session : SnaSession) :
    (conclude (ending, session)).state = session.state := by
  cases ending <;> rfl

/-- From the states of rest everything may become `ERROR`. -/
theorem Resting.allowed_error (resting : session.Resting) :
    Allowed (session.state, .error) := by
  unfold Resting at resting
  simp only [List.mem_cons, List.not_mem_nil, or_false] at resting
  rcases resting with here | here | here <;> rw [here] <;> decide

theorem Resting.allowed_normal_iff (resting : session.Resting) :
    Allowed (session.state, .normal) ↔ session.state ≠ .error := by
  unfold Resting at resting
  simp only [List.mem_cons, List.not_mem_nil, or_false] at resting
  rcases resting with here | here | here <;> rw [here] <;> decide

/-- After a failure the session rests, and only a negotiation that succeeds can be in the
way. -/
theorem renegotiate_orderly_iff (resting : session.Resting) (orderly : session.Orderly) :
    (conclude ((session.assign .error).renegotiate awaits)).Resting ∧
      ((conclude ((session.assign .error).renegotiate awaits)).Orderly ↔
        (awaits.negotiation.outcome = .returns → awaits.negotiation.reset = true)) := by
  have failed := ((orderly_assign_iff .error orderly).mpr resting.allowed_error).wait
    awaits.negotiation
  have here : ((session.assign .error).wait awaits.negotiation).state =
      if awaits.negotiation.reset = true then .normal else .error := rfl
  unfold renegotiate
  dsimp only
  cases outcome : awaits.negotiation.outcome with
  | returns =>
      obtain ⟨rests, exact⟩ := orderly_conclude_assign_iff failed
        (by decide : SnaSessionState.normal ∈ _)
      refine ⟨rests, exact.trans ?_⟩
      rw [here]
      by_cases reset : awaits.negotiation.reset = true
      · rw [if_pos reset]
        exact iff_of_true (by decide) fun _ => reset
      · rw [if_neg reset]
        exact iff_of_false (by decide) fun met => reset (met rfl)
  | raises =>
      obtain ⟨rests, exact⟩ := orderly_conclude_assign_iff failed
        (by decide : SnaSessionState.sessionDown ∈ _)
      refine ⟨rests, exact.trans (iff_of_true ?_ fun returns => by cases returns)⟩
      rw [here]
      split <;> decide
  | cancelled =>
      refine ⟨?_, iff_of_true failed fun returns => by cases returns⟩
      unfold Resting
      rw [conclude_state, here]
      split <;> decide

theorem handleSnaResponse_cases
    (plain : senseCode ∉ [some SenseCode.luBusy, some SenseCode.invalidSequence,
      some SenseCode.stateError])
    (noSuccess : senseCode ≠ some SenseCode.success)
    (noFailure : senseCode ≠ some SenseCode.sessionFailure) :
    session.handleSnaResponse senseCode awaits = (.returned, session.assign .error) ∨
      session.handleSnaResponse senseCode awaits = (session.assign .error).backOff awaits ∨
      session.handleSnaResponse senseCode awaits = (.raised, session) := by
  simp only [List.mem_cons, List.not_mem_nil, or_false, not_or] at plain
  unfold handleSnaResponse
  rw [if_neg noSuccess, if_neg plain.1, if_neg noFailure, if_neg plain.2.1, if_neg plain.2.2]
  split
  · exact .inl rfl
  · split
    · exact .inl rfl
    · split
      · exact .inl rfl
      · split
        · exact .inr (.inl rfl)
        · split
          · exact .inr (.inr rfl)
          · exact .inl rfl

theorem respond_other (resting : session.Resting) (orderly : session.Orderly)
    (plain : senseCode ∉ [some SenseCode.luBusy, some SenseCode.invalidSequence,
      some SenseCode.stateError])
    (noSuccess : senseCode ≠ some SenseCode.success)
    (noFailure : senseCode ≠ some SenseCode.sessionFailure) :
    (session.respond senseCode awaits).Resting ∧ (session.respond senseCode awaits).Orderly := by
  have failed := (orderly_assign_iff .error orderly).mpr resting.allowed_error
  obtain ⟨rests, exact⟩ := orderly_conclude_assign_iff orderly
    (by decide : SnaSessionState.error ∈ _)
  unfold respond
  rcases @handleSnaResponse_cases session senseCode awaits plain noSuccess noFailure with
    handled | handled | handled
  · rw [handled]
    exact ⟨rests, exact.mpr resting.allowed_error⟩
  · have slept := failed.wait awaits.sleep
    have here : ((session.assign .error).wait awaits.sleep).state =
        if awaits.sleep.reset = true then .normal else .error := rfl
    have rests : ((session.assign .error).wait awaits.sleep).state ∉
        SnaSessionState.transient := by
      rw [here]
      split <;> decide
    have backed : ∃ ending, (session.assign .error).backOff awaits =
        (ending, (session.assign .error).wait awaits.sleep) := by
      unfold backOff
      dsimp only
      split <;> exact ⟨_, rfl⟩
    obtain ⟨ending, backed⟩ := backed
    rw [handled, backed, orderly_conclude_iff ending rests]
    refine ⟨?_, slept⟩
    unfold Resting
    rw [conclude_state, here]
    split <;> decide
  · rw [handled]
    exact ⟨resting, orderly⟩

theorem respond_resting (resting : session.Resting) (orderly : session.Orderly)
    (plain : senseCode ∉ [some SenseCode.luBusy, some SenseCode.invalidSequence,
      some SenseCode.stateError]) : (session.respond senseCode awaits).Resting := by
  by_cases success : senseCode = some SenseCode.success
  · subst success
    exact (orderly_conclude_assign_iff orderly (by decide : SnaSessionState.normal ∈ _)).1
  · by_cases failure : senseCode = some SenseCode.sessionFailure
    · subst failure
      exact (renegotiate_orderly_iff resting orderly).1
    · exact (respond_other resting orderly plain success failure).1

theorem step_orderly_iff (event : SnaEvent) (resting : session.Resting)
    (orderly : session.Orderly) : (step event session).Orderly ↔ Permitted event session := by
  cases event with
  | reset => exact iff_of_true ⟨orderly.allowed, orderly.settled⟩ trivial
  | functions negotiatedFunctions bindImageOverride =>
      exact iff_of_true ⟨orderly.allowed, orderly.settled⟩ trivial
  | response senseCode awaits =>
      unfold Permitted
      by_cases plain : senseCode ∈ [some SenseCode.luBusy, some SenseCode.invalidSequence,
          some SenseCode.stateError]
      · refine iff_of_false ?_ fun permitted => permitted.1 plain
        simp only [List.mem_cons, List.not_mem_nil, or_false] at plain
        rcases plain with rfl | rfl | rfl
        · exact not_orderly_luBusy
        · exact not_orderly_invalidSequence resting
        · exact not_orderly_stateError resting
      · refine Iff.trans ?_ (and_iff_right plain).symm
        by_cases success : senseCode = some SenseCode.success
        · subst success
          have exact := (orderly_conclude_assign_iff orderly
            (by decide : SnaSessionState.normal ∈ _)).2.trans resting.allowed_normal_iff
          refine exact.trans ⟨fun met => ⟨fun _ => met, fun other => ?_⟩, fun met => met.1 rfl⟩
          exact absurd other (by decide)
        · by_cases failure : senseCode = some SenseCode.sessionFailure
          · subst failure
            have exact := (@renegotiate_orderly_iff session awaits resting orderly).2
            exact exact.trans ⟨fun met => ⟨fun other => absurd other success, fun _ => met⟩,
              fun met => met.2 rfl⟩
          · exact iff_of_true (respond_other resting orderly plain success failure).2
              ⟨fun other => absurd other success, fun other => absurd other failure⟩

theorem step_resting (event : SnaEvent) (held : session.Resting ∧ session.Orderly)
    (permitted : Permitted event session) :
    (step event session).Resting ∧ (step event session).Orderly := by
  refine ⟨?_, (step_orderly_iff event held.1 held.2).mpr permitted⟩
  cases event with
  | response senseCode awaits => exact respond_resting held.1 held.2 permitted.1
  | reset => exact List.mem_cons_self
  | functions negotiatedFunctions bindImageOverride => exact held.1

/-- The session is orderly throughout a run exactly if every event is permitted. -/
theorem orderly_throughout_iff (events : List SnaEvent) :
    Always step Orderly events new ↔ Along step Permitted events new := by
  have orderly : new.Orderly :=
    ⟨fun _ none => absurd none List.not_mem_nil, fun _ none => absurd none List.not_mem_nil⟩
  have resting : new.Resting := List.mem_cons_self
  exact always_iff_along_while (fun event _ => step_resting event)
    (fun event _ held => step_orderly_iff event held.1) ⟨resting, orderly⟩ orderly

/-- A wait that ends well, in which nothing else happens. -/
def undisturbed : Interlude where
  outcome := .returns
  reset := false
  negotiatedFunctions := 0
  bindImageOverride := none

def undisturbedAwaits : SnaAwaits where
  busySleep _ := undisturbed
  resend _ := undisturbed
  sleep := undisturbed
  negotiation := undisturbed

/-- Without an active BIND-IMAGE a busy logical unit leaves the session in
`PENDING_RECOVERY`, after a change that the table does not know. -/
theorem not_orderly_pendingRecovery :
    ¬∀ events, Always step Orderly events new := by
  intro always
  have last := (always [.response (some SenseCode.luBusy) undisturbedAwaits]).last
  exact last.settled .pendingRecovery (by decide +kernel) (by decide)

end SnaSession

end Pure3270
