import Pure3270.Foundations.StateRelation
import Pure3270.Protocol.ParserState
import Pure3270.Protocol.Tn3270eHeader

/-!
# The negotiator

The part of the negotiator that the reception of data reads and writes:
requests that wait for an answer, the events and flags of the negotiation, and
the two flags of the handler that the negotiator sets along with its own.
Delays, time measurements and the bytes written to the network are left out;
what was sent is kept as a list of messages.
-/

namespace Pure3270

open Foundations

inductive RequestType where
  | deviceTypeSend
  | functionsSend
  | other (name : String)
  deriving DecidableEq, Repr

/-- An entry of `_pending_requests`. -/
structure PendingRequest where
  type : RequestType
  retryCount : Nat
  deriving DecidableEq, Repr

inductive NegotiationMode where
  | strict
  | flexible
  deriving DecidableEq, Repr

/-- `force_mode`, where it is not `None`. -/
inductive ForceMode where
  | ascii
  | tn3270
  | tn3270e
  deriving DecidableEq, Repr

inductive NegotiatorMessage where
  | supportedDeviceTypes
  | functionsIs (functionsData : List UInt8)
  | functionsRequest (functionsData : List UInt8)
  | iac (command option : UInt8)
  | subnegotiation (option : UInt8) (data : List UInt8)
  deriving DecidableEq, Repr

structure Negotiator where
  hasWriter : Bool
  /-- Whether `supported_device_types` has an entry. -/
  hasDeviceTypes : Bool
  functions : Option (List UInt8)
  negotiatedFunctions : Nat
  lastNegotiatedFunctions : Nat
  pendingRequests : UInt16 → Option PendingRequest
  maxRetries : Nat
  negotiationMode : NegotiationMode
  deviceTypeEvent : Bool
  functionsEvent : Bool
  negotiationComplete : Bool
  serverSupportsTn3270e : Bool
  negotiatedTn3270e : Bool
  tn3270eMode : Bool
  asciiMode : Bool
  sent : List NegotiatorMessage
  forceMode : Option ForceMode := none
  allowFallback : Bool := true
  forcedFailure : Bool := false
  forcedCompletion : Bool := false
  /-- The names are ASCII text. -/
  luName : Option (List UInt8) := none
  negotiatedDeviceType : Option (List UInt8) := none
  connectedLuName : Option (List UInt8) := none
  associatedDisplayLu : Option (List UInt8) := none
  deviceTypeRejected : Bool := false
  rejectionReason : UInt8 := 0
  negotiatedResponseMode : UInt8 := 0
  screenRows : Nat := 24
  screenCols : Nat := 80
  nextSeqNumber : Nat := 0

/-- The negotiator and the flags of the handler that it sets. -/
structure Session where
  negotiator : Negotiator
  negotiatedTn3270e : Bool
  asciiMode : Bool

abbrev SessionM := EStateM Fault Session

namespace Negotiator

def init (mode : NegotiationMode) : Negotiator where
  hasWriter := true
  hasDeviceTypes := true
  functions := none
  negotiatedFunctions := 0
  lastNegotiatedFunctions := 0
  pendingRequests := fun _ => none
  maxRetries := 3
  negotiationMode := mode
  deviceTypeEvent := false
  functionsEvent := false
  negotiationComplete := false
  serverSupportsTn3270e := false
  negotiatedTn3270e := false
  tn3270eMode := false
  asciiMode := false
  sent := []

def popRequest (seqNumber : UInt16) (negotiator : Negotiator) : Negotiator :=
  { negotiator with
    pendingRequests := fun number =>
      if number = seqNumber then none else negotiator.pendingRequests number }

def putRequest (seqNumber : UInt16) (request : PendingRequest)
    (negotiator : Negotiator) : Negotiator :=
  { negotiator with
    pendingRequests := fun number =>
      if number = seqNumber then some request
      else negotiator.pendingRequests number }

def isDataStreamCtlActive (negotiator : Negotiator) : Bool :=
  negotiator.negotiatedFunctions &&& 0x01 ≠ 0

/-- `DEFAULT_TN3270E_FUNCTIONS_DATA`. -/
def defaultFunctionsData : List UInt8 := [0x00, 0x02, 0x04, 0x05]

/-- The functions a FUNCTIONS IS names. -/
def functionsData (negotiator : Negotiator) : List UInt8 :=
  match negotiator.functions with
  | some (byte :: rest) => byte :: rest
  | _ => defaultFunctionsData

end Negotiator

namespace Session

/-- `_set_negotiated_flag`. -/
def setNegotiatedFlag (value : Bool) (session : Session) : Session :=
  { session with
    negotiator := { session.negotiator with negotiatedTn3270e := value }
    negotiatedTn3270e := value }

/-- `_maybe_finalize_negotiation`. -/
def maybeFinalizeNegotiation (session : Session) : Session :=
  let negotiator := session.negotiator
  let condition :=
    match negotiator.negotiationMode with
    | .strict => negotiator.deviceTypeEvent && negotiator.functionsEvent
    | .flexible => negotiator.deviceTypeEvent || negotiator.functionsEvent
  if condition then
    let supported :=
      if negotiator.serverSupportsTn3270e && !negotiator.negotiatedTn3270e then
        session.setNegotiatedFlag true
      else session
    { supported with
      negotiator := { supported.negotiator with negotiationComplete := true } }
  else session

def signalDeviceEvent (session : Session) : Session :=
  maybeFinalizeNegotiation
    { session with
      negotiator := { session.negotiator with deviceTypeEvent := true } }

def signalFunctionsEvent (session : Session) : Session :=
  maybeFinalizeNegotiation
    { session with
      negotiator := { session.negotiator with functionsEvent := true } }

/-- `_send_supported_device_types`. -/
def sendSupportedDeviceTypes (session : Session) : Session :=
  if session.negotiator.hasDeviceTypes && session.negotiator.hasWriter then
    signalDeviceEvent
      { session with
        negotiator :=
          { session.negotiator with
            sent := session.negotiator.sent ++ [.supportedDeviceTypes] } }
  else session

/-- `_send_functions_is`. -/
def sendFunctionsIs (session : Session) : Session :=
  let data := session.negotiator.functionsData
  let number := data.foldl (fun value byte => value * 256 + byte.toNat) 0
  let announced :=
    { session with
      negotiator :=
        { session.negotiator with
          negotiatedFunctions := number, lastNegotiatedFunctions := number } }
  if session.negotiator.hasWriter then
    let signalled :=
      { announced with
        negotiator :=
          { announced.negotiator with
            sent := announced.negotiator.sent ++ [.functionsIs data]
            functionsEvent := true } }
    if session.negotiator.deviceTypeEvent then
      let flagged := signalled.setNegotiatedFlag true
      { flagged with
        negotiator :=
          { flagged.negotiator with
            serverSupportsTn3270e := true, negotiationComplete := true } }
    else signalled
  else announced

/-- `_resend_request`. -/
def resendRequest (requestType : RequestType) (session : Session) : Session :=
  match requestType with
  | .deviceTypeSend => session.sendSupportedDeviceTypes
  | .functionsSend => session.sendFunctionsIs
  | .other _ => session

def modifyNegotiator (f : Negotiator → Negotiator) : SessionM Unit :=
  modify fun session => { session with negotiator := f session.negotiator }

/-- What `handle_negative_response` raises on the empty data it is given. -/
def negativeResponse : Fault := .other "Negative response missing code byte"

/-- An answer to a negotiation request: it is sent again, given up, or done. -/
def handleCorrelated (header : Tn3270eHeader) (request : PendingRequest)
    (maxRetries : Nat) (signal : Session → Session) : SessionM Unit :=
  if header.isErrorResponse || header.isNegativeResponse then
    if request.retryCount < maxRetries then do
      modifyNegotiator (·.putRequest header.seqNumber
        { request with retryCount := request.retryCount + 1 })
      modify (·.resendRequest request.type)
    else throw negativeResponse
  else modify signal

abbrev deviceMaxRetries : Nat := 2

/-- `_handle_tn3270e_response`, on a header without data. -/
def handleTn3270eResponse (header : Tn3270eHeader) : SessionM Unit := do
  let session ← get
  match session.negotiator.pendingRequests header.seqNumber with
  | none => return
  | some request => do
      modifyNegotiator (·.popRequest header.seqNumber)
      match request.type with
      | .deviceTypeSend =>
          handleCorrelated header request deviceMaxRetries signalDeviceEvent
      | .functionsSend =>
          handleCorrelated header request session.negotiator.maxRetries
            signalFunctionsEvent
      | .other _ => return

/-- How often a request is sent again; a data request is not. -/
def retryLimit (negotiator : Negotiator) : RequestType → Option Nat
  | .deviceTypeSend => some deviceMaxRetries
  | .functionsSend => some negotiator.maxRetries
  | .other _ => none

/-- The header is an error response to a negotiation request that has been sent
again as often as allowed. -/
def GivesUp (header : Tn3270eHeader) (negotiator : Negotiator) : Prop :=
  header.isErrorResponse = true ∧
    ∃ request limit,
      negotiator.pendingRequests header.seqNumber = some request ∧
        retryLimit negotiator request.type = some limit ∧
          limit ≤ request.retryCount

theorem handleCorrelated_run (header : Tn3270eHeader) (request : PendingRequest)
    (maxRetries : Nat) (signal : Session → Session) (session : Session) :
    (header.isErrorResponse = true ∧ maxRetries ≤ request.retryCount ∧
      handleCorrelated header request maxRetries signal session =
        .error negativeResponse session) ∨
    (¬ (header.isErrorResponse = true ∧ maxRetries ≤ request.retryCount) ∧
      ∃ after, handleCorrelated header request maxRetries signal session =
        .ok () after) := by
  unfold handleCorrelated
  by_cases negative : header.isErrorResponse || header.isNegativeResponse
  · have error : header.isErrorResponse = true := by
      rcases Bool.or_eq_true_iff.mp negative with error | error
      · exact error
      · exact error
    rw [if_pos negative]
    by_cases again : request.retryCount < maxRetries
    · right
      rw [if_pos again]
      exact ⟨fun both => absurd both.2 (Nat.not_le.mpr again), _, rfl⟩
    · left
      rw [if_neg again]
      exact ⟨error, Nat.not_lt.mp again, rfl⟩
  · right
    rw [if_neg negative]
    constructor
    · rintro ⟨error, -⟩
      exact negative (by rw [error]; rfl)
    · exact ⟨_, rfl⟩

theorem modifyNegotiator_run (f : Negotiator → Negotiator) (session : Session) :
    modifyNegotiator f session =
      .ok () { session with negotiator := f session.negotiator } := rfl

theorem popRequest_of_none {negotiator : Negotiator} {seqNumber : UInt16}
    (none : negotiator.pendingRequests seqNumber = none) :
    negotiator.popRequest seqNumber = negotiator := by
  have same : (fun number => if number = seqNumber then Option.none else
      negotiator.pendingRequests number) = negotiator.pendingRequests := by
    funext number
    by_cases here : number = seqNumber
    · rw [if_pos here, here, none]
    · rw [if_neg here]
  unfold Negotiator.popRequest
  rw [same]

theorem pendingRequests_of_popRequest {negotiator : Negotiator}
    {seqNumber number : UInt16} {request : PendingRequest}
    (found : (negotiator.popRequest seqNumber).pendingRequests number = some request) :
    negotiator.pendingRequests number = some request := by
  unfold Negotiator.popRequest at found
  dsimp only at found
  split at found
  · cases found
  · exact found

/-- A header that answers no request of the negotiation only takes what waits under
its number. -/
theorem handleTn3270eResponse_other {header : Tn3270eHeader} {session : Session}
    (others : ∀ request, session.negotiator.pendingRequests header.seqNumber =
      some request → ∃ name, request.type = .other name) :
    handleTn3270eResponse header session =
      .ok () { session with
        negotiator := session.negotiator.popRequest header.seqNumber } := by
  unfold handleTn3270eResponse
  rw [run_get_bind]
  cases waiting : session.negotiator.pendingRequests header.seqNumber with
  | none =>
      rw [popRequest_of_none waiting]
      rfl
  | some request =>
      obtain ⟨name, other⟩ := others request waiting
      simp only
      rw [run_bind_ok (modifyNegotiator_run _ session), other]
      rfl

theorem handleTn3270eResponse_run (header : Tn3270eHeader) (session : Session) :
    (GivesUp header session.negotiator ∧ ∃ after,
      handleTn3270eResponse header session = .error negativeResponse after) ∨
    (¬ GivesUp header session.negotiator ∧ ∃ after,
      handleTn3270eResponse header session = .ok () after) := by
  unfold handleTn3270eResponse
  rw [run_get_bind]
  cases waiting : session.negotiator.pendingRequests header.seqNumber with
  | none =>
      right
      constructor
      · rintro ⟨-, request, -, found, -⟩
        rw [waiting] at found
        cases found
      · exact ⟨session, rfl⟩
  | some request =>
      simp only
      rw [run_bind_ok (modifyNegotiator_run _ session)]
      have only : ∀ {limit : Nat},
          retryLimit session.negotiator request.type = some limit →
            (GivesUp header session.negotiator ↔
              header.isErrorResponse = true ∧ limit ≤ request.retryCount) := by
        intro limit limited
        constructor
        · rintro ⟨error, other, otherLimit, found, otherLimited, reached⟩
          rw [waiting] at found
          cases found
          rw [limited] at otherLimited
          cases otherLimited
          exact ⟨error, reached⟩
        · rintro ⟨error, reached⟩
          exact ⟨error, request, limit, waiting, limited, reached⟩
      cases kind : request.type with
      | deviceTypeSend =>
          have limited : retryLimit session.negotiator request.type =
              some deviceMaxRetries := by
            rw [kind]
            rfl
          rw [only limited]
          rcases handleCorrelated_run header request deviceMaxRetries
            signalDeviceEvent _ with ⟨error, reached, run⟩ | ⟨goesOn, run⟩
          · exact .inl ⟨⟨error, reached⟩, _, run⟩
          · exact .inr ⟨goesOn, run⟩
      | functionsSend =>
          have limited : retryLimit session.negotiator request.type =
              some session.negotiator.maxRetries := by
            rw [kind]
            rfl
          rw [only limited]
          rcases handleCorrelated_run header request session.negotiator.maxRetries
            signalFunctionsEvent _ with ⟨error, reached, run⟩ | ⟨goesOn, run⟩
          · exact .inl ⟨⟨error, reached⟩, _, run⟩
          · exact .inr ⟨goesOn, run⟩
      | other name =>
          right
          constructor
          · rintro ⟨-, other, limit, found, limited, -⟩
            rw [waiting] at found
            cases found
            rw [kind] at limited
            cases limited
          · exact ⟨_, rfl⟩

end Session

end Pure3270
