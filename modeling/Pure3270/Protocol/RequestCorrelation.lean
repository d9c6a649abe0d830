import Pure3270.Foundations.Ledger
import Pure3270.Protocol.FunctionsBookkeeping
import Pure3270.Protocol.SendData

/-!
# The correlation of requests

The negotiator's requests and the records of the client are numbered by two
counters and wait in one table.  A ledger lists the exchanges that have been
begun and not answered.  The table represents the ledger as long as no number is
taken that is in use, and no header finds an exchange that it does not answer.
-/

namespace Pure3270

open Foundations

namespace DataSender

/-- `_get_next_seq_number`. -/
def getNextSeqNumber : SendM Nat := do
  let sender ← get
  let session := sender.handler.session
  let next := (session.negotiator.nextSeqNumber + 1) % 65536
  set { sender with
    handler :=
      { sender.handler with
        session := session.onNegotiator ({ · with nextSeqNumber := next }) } }
  return next

/-- `_outgoing_request` with a number of the negotiator's own. -/
def ownRequest (type : RequestType) (dataType : UInt8) : SendM Tn3270eHeader := do
  let seqNumber ← getNextSeqNumber
  outgoingRequest type dataType seqNumber

def onSession (f : Session → Session) (sender : DataSender) : DataSender :=
  { sender with handler := { sender.handler with session := f sender.handler.session } }

/-- `_handle_sequence_error`. -/
def handleSequenceError (sender : DataSender) : DataSender :=
  sender.onSession (·.onNegotiator
    ({ · with pendingRequests := fun _ => none, nextSeqNumber := 0 }))

/-- `reset_sequence_numbers` of the handler; what waits is left alone. -/
def resetSequenceNumbers (sender : DataSender) : DataSender :=
  { sender with
    lastSentSeqNumber := 0
    handler :=
      { sender.handler with
        sequence :=
          { sender.handler.sequence with
            lastReceivedSeqNumber := 0
            sequenceNumberHistory := [] } } }

/-- A record behind a header waits under the next number. -/
theorem sendData_final (data : List UInt8) {sender : DataSender}
    (connected : sender.handler.hasWriter = true)
    (active : sender.handler.session.negotiator.isDataStreamCtlActive = true) :
    (finalState (sendData data sender)).handler.session.negotiator.pendingRequests =
        putEntry (.ofNat ((sender.lastSentSeqNumber + 1) % 65536))
          ⟨.other "CLIENT_DATA", 0⟩ sender.handler.session.negotiator.pendingRequests ∧
      (finalState (sendData data sender)).handler.session.negotiator.maxRetries =
        sender.handler.session.negotiator.maxRetries := by
  rw [sendData, run_get_bind, connected]
  have headed : ∃ bytes after, dataToSend data sender = .ok bytes after ∧
      after.handler.session.negotiator =
        sender.handler.session.negotiator.putRequest
          (.ofNat ((sender.lastSentSeqNumber + 1) % 65536))
          ⟨.other "CLIENT_DATA", 0⟩ := by
    rw [dataToSend, run_get_bind, if_pos active]
    exact ⟨_, _, rfl, rfl⟩
  obtain ⟨bytes, after, done, waits⟩ := headed
  have final : finalState ((do
      let bytes ← dataToSend data
      modify fun sender : DataSender =>
        { sender with written := sender.written ++ bytes }) sender) =
      { after with written := after.written ++ bytes } := by
    rw [run_bind_ok done]
    rfl
  constructor
  · refine (congrArg (fun sender : DataSender =>
      sender.handler.session.negotiator.pendingRequests) final).trans ?_
    exact congrArg Negotiator.pendingRequests waits
  · refine (congrArg (fun sender : DataSender =>
      sender.handler.session.negotiator.maxRetries) final).trans ?_
    exact (congrArg Negotiator.maxRetries waits).trans rfl

end DataSender

/-- What concerns the numbers.  A header answers the exchange that is open under
its number, or it does not: it comes with a record that the host has numbered
itself, or late, for an exchange that is closed. -/
inductive CorrelationEvent where
  | request (type : RequestType) (dataType : UInt8)
  | sendData (data : List UInt8)
  | header (header : Tn3270eHeader) (answers : Bool)
  | sequenceError
  | resetSequenceNumbers

/-- What is left of a request after a header that answers it: an error response is
answered by sending it again, as often as allowed. -/
def PendingRequest.answered (header : Tn3270eHeader) (negotiator : Negotiator)
    (request : PendingRequest) : Option PendingRequest :=
  match Session.retryLimit negotiator request.type with
  | some limit =>
      if header.isErrorResponse && decide (request.retryCount < limit) then
        some { request with retryCount := request.retryCount + 1 }
      else none
  | none => none

/-- A sender, and the exchanges that it has begun and that are not answered, each
with its number and with how often it has been sent again. -/
structure CorrelationRun where
  sender : DataSender
  ledger : List (UInt16 × PendingRequest)

namespace CorrelationRun

def negotiator (state : CorrelationRun) : Negotiator :=
  state.sender.handler.session.negotiator

/-- The number of the negotiator's next request. -/
def nextOwn (state : CorrelationRun) : UInt16 :=
  .ofNat ((state.negotiator.nextSeqNumber + 1) % 65536)

/-- The number of the next record of the client. -/
def nextSent (state : CorrelationRun) : UInt16 :=
  .ofNat ((state.sender.lastSentSeqNumber + 1) % 65536)

/-- Records are sent behind a header. -/
def SendsHeaders (state : CorrelationRun) : Prop :=
  state.sender.handler.hasWriter = true ∧
    state.negotiator.isDataStreamCtlActive = true

instance (state : CorrelationRun) : Decidable state.SendsHeaders :=
  inferInstanceAs (Decidable (_ ∧ _))

def step (event : CorrelationEvent) (state : CorrelationRun) : CorrelationRun :=
  match event with
  | .request type dataType =>
      { sender := finalState (DataSender.ownRequest type dataType state.sender)
        ledger := state.ledger ++ [(state.nextOwn, ⟨type, 0⟩)] }
  | .sendData data =>
      { sender := finalState (DataSender.sendData data state.sender)
        ledger :=
          if state.SendsHeaders then
            state.ledger ++ [(state.nextSent, ⟨.other "CLIENT_DATA", 0⟩)]
          else state.ledger }
  | .header header answers =>
      { sender := state.sender.onSession fun session =>
          finalState (Session.handleTn3270eResponse header session)
        ledger :=
          if answers then
            alterListed header.seqNumber (·.answered header state.negotiator)
              state.ledger
          else state.ledger }
  | .sequenceError => ⟨state.sender.handleSequenceError, []⟩
  | .resetSequenceNumbers => { state with sender := state.sender.resetSequenceNumbers }

/-- What waits is what is not answered, each exchange under a number of its own,
and no exchange has been sent again more often than allowed. -/
structure Correlated (state : CorrelationRun) : Prop where
  represents : Represents state.negotiator.pendingRequests state.ledger
  bounded : ∀ entry ∈ state.ledger,
    ∀ limit ∈ Session.retryLimit state.negotiator entry.2.type,
      entry.2.retryCount ≤ limit

/-- The numbers of the exchanges that are not answered. -/
def openNumbers (state : CorrelationRun) : List UInt16 :=
  state.ledger.map Prod.fst

/-- When an event leaves the exchanges apart: the number that is taken is not in
use, and a header that answers none of the open exchanges has the number of
none. -/
def MayCome : CorrelationEvent → CorrelationRun → Prop
  | .request _ _, state => state.nextOwn ∉ state.openNumbers
  | .sendData _, state => state.SendsHeaders → state.nextSent ∉ state.openNumbers
  | .header header answers, state =>
      answers = false → header.seqNumber ∉ state.openNumbers
  | .sequenceError, _ => True
  | .resetSequenceNumbers, _ => True

end CorrelationRun

namespace Session

variable {session : Session}

/-- The requests that wait, and how often a request may be sent again. -/
def waiting (session : Session) : (UInt16 → Option PendingRequest) × Nat :=
  (session.negotiator.pendingRequests, session.negotiator.maxRetries)

theorem waiting_maybeFinalize (session : Session) :
    session.maybeFinalizeNegotiation.waiting = session.waiting := by
  rw [maybeFinalizeNegotiation_eq]
  split
  · split
    · rfl
    · rfl
  · rfl

theorem waiting_sendFunctionsIs (session : Session) :
    session.sendFunctionsIs.waiting = session.waiting := by
  unfold sendFunctionsIs
  dsimp only
  split
  · split
    · rfl
    · rfl
  · rfl

theorem waiting_resendRequest (type : RequestType) (session : Session) :
    (session.resendRequest type).waiting = session.waiting := by
  cases type with
  | deviceTypeSend =>
      change session.sendSupportedDeviceTypes.waiting = _
      unfold sendSupportedDeviceTypes
      split
      · exact waiting_maybeFinalize _
      · rfl
  | functionsSend => exact waiting_sendFunctionsIs session
  | other name => rfl

theorem waiting_handleCorrelated {header : Tn3270eHeader} {request : PendingRequest}
    {maxRetries : Nat} {signal : Session → Session}
    (keeps : ∀ session, (signal session).waiting = session.waiting)
    (session : Session) :
    (finalState (handleCorrelated header request maxRetries signal session)).waiting =
      if header.isErrorResponse && decide (request.retryCount < maxRetries) then
        (putEntry header.seqNumber
          { request with retryCount := request.retryCount + 1 }
          session.negotiator.pendingRequests, session.negotiator.maxRetries)
      else session.waiting := by
  unfold handleCorrelated
  have negative : header.isNegativeResponse = header.isErrorResponse := rfl
  rw [negative, Bool.or_self]
  cases header.isErrorResponse with
  | false => exact keeps session
  | true =>
      rw [Bool.true_and]
      by_cases again : request.retryCount < maxRetries
      · rw [decide_eq_true again]
        simp only [if_pos again, if_true]
        exact waiting_resendRequest request.type _
      · rw [decide_eq_false again]
        simp only [if_neg again, if_true]
        rfl

theorem waiting_handleTn3270eResponse (header : Tn3270eHeader) (session : Session) :
    (finalState (handleTn3270eResponse header session)).waiting =
      (alterEntry header.seqNumber (·.answered header session.negotiator)
        session.negotiator.pendingRequests, session.negotiator.maxRetries) := by
  unfold handleTn3270eResponse
  rw [run_get_bind]
  cases found : session.negotiator.pendingRequests header.seqNumber with
  | none =>
      rw [alterEntry_of_none found]
      rfl
  | some request =>
      have correlated : ∀ {limit : Nat} {signal : Session → Session},
          retryLimit session.negotiator request.type = some limit →
          (∀ session, (signal session).waiting = session.waiting) →
          (finalState (handleCorrelated header request limit signal
            { session with
              negotiator := session.negotiator.popRequest header.seqNumber })).waiting =
            (alterEntry header.seqNumber (·.answered header session.negotiator)
              session.negotiator.pendingRequests, session.negotiator.maxRetries) := by
        intro limit signal limited keeps
        rw [waiting_handleCorrelated keeps, alterEntry_of_some found]
        unfold PendingRequest.answered
        rw [limited]
        dsimp only
        split
        · apply Prod.ext
          · funext number
            unfold putEntry
            change (if number = header.seqNumber then _ else
              (session.negotiator.popRequest header.seqNumber).pendingRequests number) = _
            unfold Negotiator.popRequest
            dsimp only
            split
            · rfl
            · rfl
          · rfl
        · rfl
      dsimp only
      rw [run_bind_ok (modifyNegotiator_run _ session)]
      cases kind : request.type with
      | deviceTypeSend =>
          exact correlated (by rw [kind]; rfl) fun session => waiting_maybeFinalize _
      | functionsSend =>
          exact correlated (by rw [kind]; rfl) fun session => waiting_maybeFinalize _
      | other name =>
          have unlimited : request.answered header session.negotiator = none := by
            unfold PendingRequest.answered
            rw [kind]
            rfl
          rw [alterEntry_of_some found, unlimited]
          rfl

end Session

/-- An answer never leaves a request as it was. -/
theorem PendingRequest.answered_ne (header : Tn3270eHeader) (negotiator : Negotiator)
    (request : PendingRequest) :
    request.answered header negotiator ≠ some request := by
  unfold PendingRequest.answered
  cases Session.retryLimit negotiator request.type with
  | none =>
      intro same
      cases same
  | some limit =>
      dsimp only
      split
      · intro same
        have count := congrArg PendingRequest.retryCount (Option.some.inj same)
        exact Nat.succ_ne_self _ count
      · intro same
        cases same

/-- A request is sent again at most as often as allowed. -/
theorem PendingRequest.answered_bounded {header : Tn3270eHeader}
    {negotiator : Negotiator} {request again : PendingRequest} {limit : Nat}
    (answered : request.answered header negotiator = some again)
    (limited : Session.retryLimit negotiator again.type = some limit) :
    again.retryCount ≤ limit := by
  unfold PendingRequest.answered at answered
  cases allowed : Session.retryLimit negotiator request.type with
  | none =>
      rw [allowed] at answered
      cases answered
  | some bound =>
      rw [allowed] at answered
      dsimp only at answered
      split at answered
      · rename_i more
        cases answered
        cases allowed.symm.trans limited
        exact of_decide_eq_true (Bool.and_eq_true_iff.mp more).2
      · cases answered

theorem PendingRequest.answered_again {header : Tn3270eHeader}
    {negotiator : Negotiator} {request again : PendingRequest}
    (answered : request.answered header negotiator = some again) :
    header.isErrorResponse = true ∧ request.type = again.type ∧
      again.retryCount = request.retryCount + 1 := by
  unfold PendingRequest.answered at answered
  cases allowed : Session.retryLimit negotiator request.type with
  | none =>
      rw [allowed] at answered
      cases answered
  | some bound =>
      rw [allowed] at answered
      dsimp only at answered
      split at answered
      · rename_i more
        cases answered
        exact ⟨(Bool.and_eq_true_iff.mp more).1, rfl, rfl⟩
      · cases answered

namespace CorrelationRun

theorem correlated_put_iff {state after : CorrelationRun} (correlated : state.Correlated)
    {number : UInt16} {type : RequestType}
    (pending : after.negotiator.pendingRequests =
      putEntry number ⟨type, 0⟩ state.negotiator.pendingRequests)
    (maxRetries : after.negotiator.maxRetries = state.negotiator.maxRetries)
    (ledger : after.ledger = state.ledger ++ [(number, ⟨type, 0⟩)]) :
    after.Correlated ↔ number ∉ state.openNumbers := by
  have put := correlated.represents.put_iff number (⟨type, 0⟩ : PendingRequest)
  constructor
  · intro still
    apply put.mp
    rw [← pending, ← ledger]
    exact still.represents
  · intro fresh
    constructor
    · rw [pending, ledger]
      exact put.mpr fresh
    · intro entry member limit limited
      rw [ledger, List.mem_append, List.mem_singleton] at member
      rcases member with earlier | last
      · apply correlated.bounded entry earlier limit
        unfold Session.retryLimit at limited ⊢
        rw [maxRetries] at limited
        exact limited
      · rw [last]
        exact Nat.zero_le limit

theorem correlated_of_eq {state after : CorrelationRun} (correlated : state.Correlated)
    (pending : after.negotiator.pendingRequests = state.negotiator.pendingRequests)
    (maxRetries : after.negotiator.maxRetries = state.negotiator.maxRetries)
    (ledger : after.ledger = state.ledger) : after.Correlated := by
  constructor
  · rw [pending, ledger]
    exact correlated.represents
  · intro entry member limit limited
    rw [ledger] at member
    apply correlated.bounded entry member limit
    unfold Session.retryLimit at limited ⊢
    rw [maxRetries] at limited
    exact limited

theorem sendData_correlated_iff (data : List UInt8) {state : CorrelationRun}
    (correlated : state.Correlated) :
    (step (.sendData data) state).Correlated ↔ MayCome (.sendData data) state := by
  change (CorrelationRun.mk (finalState (DataSender.sendData data state.sender)) _
    ).Correlated ↔ (state.SendsHeaders → _)
  cases connected : state.sender.handler.hasWriter with
  | false =>
      have silent : ¬ state.SendsHeaders := by
        rintro ⟨writer, -⟩
        cases connected.symm.trans writer
      have raised : DataSender.sendData data state.sender =
          .error (.other "Not connected") state.sender := by
        rw [DataSender.sendData, run_get_bind, connected]
        rfl
      rw [raised, if_neg silent]
      exact ⟨fun _ sends => absurd sends silent, fun _ => correlated⟩
  | true =>
      cases active : state.negotiator.isDataStreamCtlActive with
      | false =>
          have silent : ¬ state.SendsHeaders := by
            rintro ⟨-, control⟩
            cases active.symm.trans control
          have inactive :
              ¬ state.sender.handler.session.negotiator.isDataStreamCtlActive = true :=
            fun control => Bool.noConfusion (active.symm.trans control)
          have bare : (DataSender.dataToSend data state.sender) =
              .ok data state.sender := by
            rw [DataSender.dataToSend, run_get_bind, if_neg inactive]
            rfl
          have sent : DataSender.sendData data state.sender =
              .ok () { state.sender with written := state.sender.written ++ data } := by
            rw [DataSender.sendData, run_get_bind, connected]
            exact run_bind_ok bare
          rw [sent, if_neg silent]
          constructor
          · intro _ sends
            exact absurd sends silent
          · intro _
            exact correlated_of_eq correlated rfl rfl rfl
      | true =>
          have sends : state.SendsHeaders := ⟨connected, active⟩
          rw [if_pos sends]
          have number := DataSender.sendData_final data connected active
          refine (@correlated_put_iff state ⟨finalState (DataSender.sendData data
            state.sender), state.ledger ++ [(state.nextSent, ⟨.other "CLIENT_DATA", 0⟩)]⟩
            correlated _ _ number.1 number.2 rfl).trans ?_
          exact ⟨fun fresh _ => fresh, fun condition => condition sends⟩

theorem header_correlated_iff (header : Tn3270eHeader) (answers : Bool)
    {state : CorrelationRun} (correlated : state.Correlated) :
    (step (.header header answers) state).Correlated ↔
      MayCome (.header header answers) state := by
  have waiting := Session.waiting_handleTn3270eResponse header
    state.sender.handler.session
  have pending : (step (.header header answers) state).negotiator.pendingRequests =
      alterEntry header.seqNumber (·.answered header state.negotiator)
        state.negotiator.pendingRequests := congrArg Prod.fst waiting
  have maxRetries : (step (.header header answers) state).negotiator.maxRetries =
      state.negotiator.maxRetries := congrArg Prod.snd waiting
  have sameLimit : ∀ {type limit},
      limit ∈ Session.retryLimit (step (.header header answers) state).negotiator type →
        limit ∈ Session.retryLimit state.negotiator type := by
    intro type limit limited
    unfold Session.retryLimit at limited ⊢
    rw [maxRetries] at limited
    exact limited
  cases answers with
  | true =>
      have represents := correlated.represents.alter header.seqNumber
        (·.answered header state.negotiator)
      constructor
      · intro _ never
        cases never
      · intro _
        constructor
        · rw [pending]
          exact represents
        · rintro ⟨number, request⟩ member limit limited
          change (number, request) ∈ alterListed _ _ state.ledger at member
          rw [Represents.mem_alterListed] at member
          split at member
          · obtain ⟨before, -, again⟩ := member
            exact PendingRequest.answered_bounded again (sameLimit limited)
          · exact correlated.bounded _ member limit (sameLimit limited)
  | false =>
      have unnoticed := correlated.represents.alter_table_iff header.seqNumber
        (PendingRequest.answered_ne header state.negotiator)
      constructor
      · intro still _
        apply unnoticed.mp
        rw [← pending]
        exact still.represents
      · intro condition
        constructor
        · rw [pending]
          exact unnoticed.mpr (condition rfl)
        · intro entry member limit limited
          exact correlated.bounded entry member limit (sameLimit limited)

/-- An event leaves the exchanges apart exactly under its condition. -/
theorem step_correlated_iff (event : CorrelationEvent) {state : CorrelationRun}
    (correlated : state.Correlated) :
    (step event state).Correlated ↔ MayCome event state := by
  cases event with
  | request type dataType => exact correlated_put_iff correlated rfl rfl rfl
  | sendData data => exact sendData_correlated_iff data correlated
  | header header answers => exact header_correlated_iff header answers correlated
  | sequenceError =>
      constructor
      · intro _
        trivial
      · intro _
        constructor
        · exact Represents.empty
        · intro entry member
          cases member
  | resetSequenceNumbers =>
      constructor
      · intro _
        trivial
      · intro _
        exact correlated_of_eq correlated rfl rfl rfl

/-- The exchanges are kept apart throughout a run exactly where every event of it
may come. -/
theorem correlated_throughout_iff {state : CorrelationRun}
    (correlated : state.Correlated) (events : List CorrelationEvent) :
    Always step Correlated events state ↔ Along step MayCome events state :=
  @always_iff_along CorrelationRun CorrelationEvent step (fun _ => True) Correlated
    MayCome (fun _ _ _ => trivial) (fun event _ _ => step_correlated_iff event)
    events state trivial correlated

/-- A connected client with DATA-STREAM-CTL agreed, before its first request. -/
def begin : CorrelationRun where
  sender :=
    { handler :=
        { Tn3270Handler.smallHandler with
          session :=
            Tn3270Handler.smallHandler.session.onNegotiator
              ({ · with negotiatedFunctions := 0x01 }) }
      lastSentSeqNumber := 0
      written := [] }
  ledger := []

theorem begin_correlated : begin.Correlated where
  represents := Represents.empty
  bounded := by
    intro entry member
    cases member

/-- A request that is answered, a record, and a header of the host's own with
another number. -/
theorem correlated_throughout_answered :
    Always step Correlated
      [.request .deviceTypeSend 0x00, .header ⟨0x02, 0x00, 0x00, 1⟩ true,
        .sendData [0x7D], .header ⟨0x00, 0x00, 0x00, 9⟩ false] begin := by
  apply (correlated_throughout_iff begin_correlated _).mpr
  refine ⟨?_, ?_, fun _ => ?_, fun _ => ?_, trivial⟩
  · exact List.not_mem_nil
  · intro never
    cases never
  · decide +kernel
  · decide +kernel

/-- The first request of the negotiator and the first record of the client both
have the number 1. -/
theorem record_replaces_request :
    ¬ ∀ events : List CorrelationEvent, Always step Correlated events begin := by
  intro every
  have after := (every [.request .deviceTypeSend 0x00, .sendData [0x7D]]).last
  exact absurd after.represents.distinct (by decide +kernel)

end CorrelationRun

end Pure3270
