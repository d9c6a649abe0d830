import Pure3270.Protocol.Tn3270eSubnegotiation

/-!
# What sets the flags of the negotiation

TN3270E counts as negotiated in two flags, of the negotiator and of the
handler, that are always set together.  Signals set them where the events that
have come suffice, and some messages set them in any case.
-/

namespace Pure3270

open Foundations Telnet Tn3270e

namespace Negotiator

/-- The events that have come complete the negotiation. -/
def eventsSuffice (negotiator : Negotiator) : Bool :=
  match negotiator.negotiationMode with
  | .strict => negotiator.deviceTypeEvent && negotiator.functionsEvent
  | .flexible => negotiator.deviceTypeEvent || negotiator.functionsEvent

/-- With the device type event the negotiation is complete, and the server is
known to support TN3270E. -/
def finalizesOnDevice (negotiator : Negotiator) : Bool :=
  negotiator.serverSupportsTn3270e &&
    (negotiator.negotiationMode = .flexible || negotiator.functionsEvent)

/-- The same with the functions event. -/
def finalizesOnFunctions (negotiator : Negotiator) : Bool :=
  negotiator.serverSupportsTn3270e &&
    (negotiator.negotiationMode = .flexible || negotiator.deviceTypeEvent)

end Negotiator

namespace Session

variable {session : Session}

/-- No request of the negotiation waits for its answer. -/
def Unasked (session : Session) : Prop :=
  ∀ number request, session.negotiator.pendingRequests number = some request →
    ∃ name, request.type = .other name

/-- The flags for TN3270E of the negotiator and of the handler are equal. -/
def InSync (session : Session) : Prop :=
  session.negotiatedTn3270e = session.negotiator.negotiatedTn3270e

/-- Nothing but the flags for TN3270E is changed here: the ASCII flags stay, and
equal flags stay equal. -/
structure Keeps (before after : Session) : Prop where
  asciiMode : after.negotiator.asciiMode = before.negotiator.asciiMode
  handlerAsciiMode : after.asciiMode = before.asciiMode
  inSync : before.InSync → after.InSync
  unasked : before.Unasked → after.Unasked

theorem Keeps.refl (session : Session) : Keeps session session :=
  ⟨rfl, rfl, id, id⟩

theorem Keeps.trans {first second third : Session} (here : Keeps first second)
    (later : Keeps second third) : Keeps first third where
  asciiMode := later.asciiMode.trans here.asciiMode
  handlerAsciiMode := later.handlerAsciiMode.trans here.handlerAsciiMode
  inSync same := later.inSync (here.inSync same)
  unasked none := later.unasked (here.unasked none)

theorem setNegotiatedFlag_keeps (value : Bool) (session : Session) :
    Keeps session (session.setNegotiatedFlag value) :=
  ⟨rfl, rfl, fun _ => rfl, id⟩

theorem maybeFinalizeNegotiation_eq (session : Session) :
    session.maybeFinalizeNegotiation =
      if session.negotiator.eventsSuffice then
        (if session.negotiator.serverSupportsTn3270e &&
            !session.negotiator.negotiatedTn3270e then
          session.setNegotiatedFlag true
        else session).onNegotiator fun negotiator =>
          { negotiator with negotiationComplete := true }
      else session := rfl

theorem maybeFinalizeNegotiation_keeps (session : Session) :
    Keeps session session.maybeFinalizeNegotiation := by
  rw [maybeFinalizeNegotiation_eq]
  split
  · split
    · exact (setNegotiatedFlag_keeps true session).trans ⟨rfl, rfl, id, id⟩
    · exact ⟨rfl, rfl, id, id⟩
  · exact .refl session

theorem signalDeviceEvent_keeps (session : Session) :
    Keeps session session.signalDeviceEvent := by
  apply Keeps.trans _ (maybeFinalizeNegotiation_keeps _)
  exact ⟨rfl, rfl, id, id⟩

theorem signalFunctionsEvent_keeps (session : Session) :
    Keeps session session.signalFunctionsEvent := by
  apply Keeps.trans _ (maybeFinalizeNegotiation_keeps _)
  exact ⟨rfl, rfl, id, id⟩

theorem signalNegotiationComplete_keeps (success : Bool) (session : Session) :
    Keeps session (session.signalNegotiationComplete success) := by
  apply (setNegotiatedFlag_keeps success session).trans
  cases success with
  | false => exact ⟨rfl, rfl, id, id⟩
  | true => exact ⟨rfl, rfl, id, id⟩

theorem send_keeps (message : NegotiatorMessage) (session : Session) :
    Keeps session (session.send message) := by
  unfold send
  split
  · exact ⟨rfl, rfl, id, id⟩
  · exact .refl session

theorem maybeFinalizeNegotiation_negotiated (session : Session) :
    session.maybeFinalizeNegotiation.negotiator.negotiatedTn3270e =
      (session.negotiator.negotiatedTn3270e ||
        (session.negotiator.serverSupportsTn3270e &&
          session.negotiator.eventsSuffice)) := by
  rw [maybeFinalizeNegotiation_eq]
  cases session.negotiator.eventsSuffice with
  | false => simp
  | true =>
      cases supports : session.negotiator.serverSupportsTn3270e with
      | false => simp [onNegotiator]
      | true =>
          cases already : session.negotiator.negotiatedTn3270e with
          | false => rfl
          | true => simp [onNegotiator, already]

theorem signalDeviceEvent_negotiated (session : Session) :
    session.signalDeviceEvent.negotiator.negotiatedTn3270e =
      (session.negotiator.negotiatedTn3270e ||
        session.negotiator.finalizesOnDevice) := by
  unfold signalDeviceEvent
  rw [maybeFinalizeNegotiation_negotiated]
  unfold Negotiator.finalizesOnDevice Negotiator.eventsSuffice
  cases session.negotiator.negotiationMode <;> simp

theorem signalFunctionsEvent_negotiated (session : Session) :
    session.signalFunctionsEvent.negotiator.negotiatedTn3270e =
      (session.negotiator.negotiatedTn3270e ||
        session.negotiator.finalizesOnFunctions) := by
  unfold signalFunctionsEvent
  rw [maybeFinalizeNegotiation_negotiated]
  unfold Negotiator.finalizesOnFunctions Negotiator.eventsSuffice
  cases session.negotiator.negotiationMode <;> simp

theorem send_negotiated (message : NegotiatorMessage) (session : Session) :
    (session.send message).negotiator.negotiatedTn3270e =
      session.negotiator.negotiatedTn3270e := by
  unfold send
  split <;> rfl

theorem sendSupportedDeviceTypes_keeps (session : Session) :
    Keeps session session.sendSupportedDeviceTypes := by
  unfold sendSupportedDeviceTypes
  split
  · apply Keeps.trans _ (signalDeviceEvent_keeps _)
    exact ⟨rfl, rfl, id, id⟩
  · exact .refl session

theorem sendSupportedDeviceTypes_negotiated (session : Session) :
    session.sendSupportedDeviceTypes.negotiator.negotiatedTn3270e =
      (session.negotiator.negotiatedTn3270e ||
        (session.negotiator.hasDeviceTypes && session.negotiator.hasWriter &&
          session.negotiator.finalizesOnDevice)) := by
  unfold sendSupportedDeviceTypes
  split
  · rename_i able
    rw [signalDeviceEvent_negotiated, able, Bool.true_and]
    rfl
  · rename_i unable
    rw [Bool.not_eq_true] at unable
    rw [unable, Bool.false_and, Bool.or_false]

theorem sendFunctionsIs_keeps (session : Session) :
    Keeps session session.sendFunctionsIs := by
  unfold sendFunctionsIs
  simp only
  split
  · split
    · exact ⟨rfl, rfl, fun _ => rfl, id⟩
    · exact ⟨rfl, rfl, id, id⟩
  · exact ⟨rfl, rfl, id, id⟩

theorem sendFunctionsIs_negotiated (session : Session) :
    session.sendFunctionsIs.negotiator.negotiatedTn3270e =
      (session.negotiator.negotiatedTn3270e ||
        (session.negotiator.hasWriter && session.negotiator.deviceTypeEvent)) := by
  unfold sendFunctionsIs
  simp only
  split
  · rename_i writer
    split
    · rename_i device
      simp [setNegotiatedFlag, writer, device]
    · rename_i device
      rw [Bool.not_eq_true] at device
      simp [device]
  · rename_i writer
    rw [Bool.not_eq_true] at writer
    simp [writer]

theorem ensureNegotiated_keeps (session : Session) :
    Keeps session session.ensureNegotiated := by
  unfold ensureNegotiated
  split
  · exact .refl session
  · exact setNegotiatedFlag_keeps true session

theorem ensureNegotiated_negotiated (session : Session) :
    session.ensureNegotiated.negotiator.negotiatedTn3270e = true := by
  unfold ensureNegotiated
  split
  · rename_i already
    exact already
  · rfl

theorem receiveDeviceName_keeps (nameBytes : List UInt8) (session : Session) :
    Keeps session (session.receiveDeviceName nameBytes) := by
  unfold receiveDeviceName
  simp only
  split
  · exact .refl session
  · have named : Keeps session
        (session.setDeviceType (asciiName nameBytes)).signalDeviceEvent := by
      apply Keeps.trans _ (signalDeviceEvent_keeps _)
      exact ⟨rfl, rfl, id, id⟩
    split
    · exact named.trans (send_keeps _ _)
    · exact named

theorem receiveDeviceName_negotiated (nameBytes : List UInt8) (session : Session) :
    (session.receiveDeviceName nameBytes).negotiator.negotiatedTn3270e =
      (session.negotiator.negotiatedTn3270e ||
        (!(asciiName nameBytes).isEmpty &&
          session.negotiator.finalizesOnDevice)) := by
  unfold receiveDeviceName
  simp only
  split
  · rename_i unnamed
    rw [unnamed]
    simp
  · rename_i name
    have isName : (asciiName nameBytes).isEmpty = false :=
      Bool.eq_false_iff.mpr fun unnamed => name (List.isEmpty_iff.mp unnamed)
    have named := signalDeviceEvent_negotiated
      (session.setDeviceType (asciiName nameBytes))
    rw [isName, Bool.not_false, Bool.true_and]
    split
    · exact (send_negotiated _ _).trans named
    · exact named

/-- Whether a DEVICE-TYPE message has TN3270E negotiated that was not. -/
def deviceTypeNegotiates : List UInt8 → Negotiator → Bool
  | [], _ => false
  | sub :: body, negotiator =>
      (if sub = Tn3270e.send ∨ sub = request then
          negotiator.hasDeviceTypes && negotiator.hasWriter
        else if sub = is then !(asciiName body).isEmpty
        else if sub = connect ∨ sub = reject then true
        else !(asciiName (sub :: body)).isEmpty) &&
      negotiator.finalizesOnDevice

theorem receiveConnect_keeps (nameBytes : List UInt8) (session : Session) :
    Keeps session (session.receiveConnect nameBytes) := by
  apply Keeps.trans _ (signalDeviceEvent_keeps _)
  exact ⟨rfl, rfl, id, id⟩

theorem receiveReject_keeps (reasonBytes : List UInt8) (session : Session) :
    Keeps session (session.receiveReject reasonBytes) := by
  apply Keeps.trans _ (signalDeviceEvent_keeps _)
  exact ⟨rfl, rfl, id, id⟩

theorem handleDeviceType_keeps (body : List UInt8) (session : Session) :
    Keeps session (session.handleDeviceType body) := by
  cases body with
  | nil => exact .refl session
  | cons sub body =>
      unfold handleDeviceType
      dsimp only
      by_cases sends : sub = Tn3270e.send ∨ sub = request
      · rw [if_pos sends]
        exact sendSupportedDeviceTypes_keeps session
      · rw [if_neg sends]
        by_cases named : sub = is
        · rw [if_pos named]
          exact receiveDeviceName_keeps body session
        · rw [if_neg named]
          by_cases connects : sub = connect
          · rw [if_pos connects]
            exact receiveConnect_keeps body session
          · rw [if_neg connects, if_neg named]
            by_cases rejects : sub = reject
            · rw [if_pos rejects]
              exact receiveReject_keeps body session
            · rw [if_neg rejects]
              exact receiveDeviceName_keeps _ session

theorem handleDeviceType_negotiated (body : List UInt8) (session : Session) :
    (session.handleDeviceType body).negotiator.negotiatedTn3270e =
      (session.negotiator.negotiatedTn3270e ||
        deviceTypeNegotiates body session.negotiator) := by
  cases body with
  | nil => simp [handleDeviceType, deviceTypeNegotiates]
  | cons sub body =>
      unfold handleDeviceType deviceTypeNegotiates
      dsimp only
      by_cases sends : sub = Tn3270e.send ∨ sub = request
      · rw [if_pos sends, if_pos sends]
        exact sendSupportedDeviceTypes_negotiated session
      · rw [if_neg sends, if_neg sends]
        by_cases named : sub = is
        · rw [if_pos named, if_pos named]
          exact receiveDeviceName_negotiated body session
        · by_cases connects : sub = connect
          · rw [if_neg named, if_pos connects, if_neg named,
              if_pos (Or.inl connects), Bool.true_and]
            exact signalDeviceEvent_negotiated _
          · rw [if_neg named, if_neg named, if_neg connects, if_neg named]
            by_cases rejects : sub = reject
            · rw [if_pos rejects, if_pos (Or.inr rejects), Bool.true_and]
              exact signalDeviceEvent_negotiated _
            · have custom : ¬ sub = 0x07 := fun same => sends (.inr same)
              rw [if_neg rejects, if_neg custom,
                if_neg (not_or.mpr ⟨connects, rejects⟩)]
              exact receiveDeviceName_negotiated _ session

theorem recordFunctions_negotiated (functionsData : List UInt8) (session : Session) :
    (session.recordFunctions functionsData).negotiator.negotiatedTn3270e =
      session.negotiator.negotiatedTn3270e := by
  unfold recordFunctions onNegotiator
  simp only
  split <;> rfl

theorem recordFunctions_finalizes (functionsData : List UInt8) (session : Session) :
    (session.recordFunctions functionsData).negotiator.finalizesOnFunctions =
      session.negotiator.finalizesOnFunctions := by
  unfold recordFunctions onNegotiator
  simp only
  split <;> rfl

theorem receiveFunctionsIs_keeps (functionsData : List UInt8) (session : Session) :
    Keeps session (session.receiveFunctionsIs functionsData) := by
  apply Keeps.trans _ (signalFunctionsEvent_keeps _)
  unfold recordFunctions onNegotiator
  simp only
  split
  · exact ⟨rfl, rfl, id, id⟩
  · exact ⟨rfl, rfl, id, id⟩

theorem receiveFunctionsRequest_keeps (functionsData : List UInt8)
    (session : Session) :
    Keeps session (session.receiveFunctionsRequest functionsData) :=
  ((receiveFunctionsIs_keeps functionsData session).trans
    (sendFunctionsIs_keeps _)).trans (ensureNegotiated_keeps _)

theorem receiveFunctionsSend_keeps (functionsData : List UInt8) (session : Session) :
    Keeps session (session.receiveFunctionsSend functionsData) :=
  (((receiveFunctionsRequest_keeps functionsData session).trans
    (receiveFunctionsIs_keeps _ _)).trans (send_keeps _ _)).trans
      (ensureNegotiated_keeps _)

/-- Whether a FUNCTIONS message has TN3270E negotiated that was not. -/
def functionsNegotiate : List UInt8 → Negotiator → Bool
  | [], _ => false
  | sub :: body, negotiator =>
      if sub = request then body.head? = some is
      else if sub = is then negotiator.finalizesOnFunctions
      else sub = Tn3270e.send

theorem handleFunctions_keeps (body : List UInt8) (session : Session) :
    Keeps session (session.handleFunctions body) := by
  cases body with
  | nil => exact .refl session
  | cons sub body =>
      unfold handleFunctions
      dsimp only
      repeat' split
      · exact receiveFunctionsRequest_keeps _ session
      · exact .refl session
      · exact receiveFunctionsIs_keeps _ session
      · exact receiveFunctionsSend_keeps _ session
      · exact .refl session

theorem handleFunctions_negotiated (body : List UInt8) (session : Session) :
    (session.handleFunctions body).negotiator.negotiatedTn3270e =
      (session.negotiator.negotiatedTn3270e ||
        functionsNegotiate body session.negotiator) := by
  cases body with
  | nil => simp [handleFunctions, functionsNegotiate]
  | cons sub body =>
      unfold handleFunctions functionsNegotiate
      dsimp only
      by_cases requests : sub = request
      · rw [if_pos requests, if_pos requests]
        split
        · rename_i next
          rw [next, decide_eq_true rfl, Bool.or_true]
          exact ensureNegotiated_negotiated _
        · rename_i next
          rw [decide_eq_false next, Bool.or_false]
      · rw [if_neg requests, if_neg requests]
        by_cases answers : sub = is
        · rw [if_pos answers, if_pos answers]
          refine (signalFunctionsEvent_negotiated _).trans ?_
          rw [recordFunctions_negotiated, recordFunctions_finalizes]
        · rw [if_neg answers, if_neg answers]
          split
          · rename_i sends
            rw [decide_eq_true sends, Bool.or_true]
            exact ensureNegotiated_negotiated _
          · rename_i sends
            rw [decide_eq_false sends, Bool.or_false]

/-- Whether a SEND has TN3270E negotiated that was not. -/
def sendNegotiates (sendType : UInt8) (negotiator : Negotiator) : Bool :=
  if sendType = deviceType then
    negotiator.hasDeviceTypes && negotiator.hasWriter && negotiator.finalizesOnDevice
  else if sendType = functions then
    negotiator.hasWriter && negotiator.deviceTypeEvent
  else false

theorem handleTn3270eSend_keeps (sendType : UInt8) (session : Session) :
    Keeps session (session.handleTn3270eSend sendType) := by
  unfold handleTn3270eSend
  split
  · exact sendSupportedDeviceTypes_keeps session
  · split
    · exact sendFunctionsIs_keeps session
    · exact .refl session

theorem handleTn3270eSend_negotiated (sendType : UInt8) (session : Session) :
    (session.handleTn3270eSend sendType).negotiator.negotiatedTn3270e =
      (session.negotiator.negotiatedTn3270e ||
        sendNegotiates sendType session.negotiator) := by
  unfold handleTn3270eSend sendNegotiates
  split
  · exact sendSupportedDeviceTypes_negotiated session
  · split
    · exact sendFunctionsIs_negotiated session
    · rw [Bool.or_false]

/-- The flags for TN3270E are left alone as well. -/
structure KeepsFlags (before after : Session) : Prop extends Keeps before after where
  negotiatedTn3270e :
    after.negotiator.negotiatedTn3270e = before.negotiator.negotiatedTn3270e

theorem KeepsFlags.refl (session : Session) : KeepsFlags session session :=
  ⟨.refl session, rfl⟩

theorem KeepsFlags.trans {first second third : Session}
    (here : KeepsFlags first second) (later : KeepsFlags second third) :
    KeepsFlags first third :=
  ⟨here.toKeeps.trans later.toKeeps,
    later.negotiatedTn3270e.trans here.negotiatedTn3270e⟩

theorem send_keepsFlags (message : NegotiatorMessage) (session : Session) :
    KeepsFlags session (session.send message) :=
  ⟨send_keeps message session, send_negotiated message session⟩

theorem handleStructuredField_keepsFlags (session : Session)
    (field : UInt8 × List UInt8) :
    KeepsFlags session (session.handleStructuredField field) := by
  unfold handleStructuredField
  split
  · exact ⟨⟨rfl, rfl, id, id⟩, rfl⟩
  · exact .refl session

theorem structuredFields_keepsFlags (fields : List (UInt8 × List UInt8))
    (session : Session) :
    KeepsFlags session (fields.foldl handleStructuredField session) := by
  induction fields generalizing session with
  | nil => exact .refl session
  | cons field fields ih =>
      exact (handleStructuredField_keepsFlags session field).trans (ih _)

theorem handleTn3270eIs_keeps (responseData : List UInt8) (session : Session) :
    Keeps session (session.handleTn3270eIs responseData) := by
  unfold handleTn3270eIs
  split
  · apply Keeps.trans _ (send_keeps _ _)
    apply Keeps.trans _ (signalDeviceEvent_keeps _)
    exact ⟨rfl, rfl, id, id⟩
  · exact (structuredFields_keepsFlags _ session).toKeeps

theorem handleTn3270eIs_negotiated (responseData : List UInt8) (session : Session) :
    (session.handleTn3270eIs responseData).negotiator.negotiatedTn3270e =
      (session.negotiator.negotiatedTn3270e ||
        ((rawDeviceType responseData).isSome &&
          session.negotiator.finalizesOnDevice)) := by
  unfold handleTn3270eIs
  cases rawDeviceType responseData with
  | none =>
      rw [Option.isSome_none, Bool.false_and, Bool.or_false]
      exact (structuredFields_keepsFlags _ session).negotiatedTn3270e
  | some name =>
      rw [Option.isSome_some, Bool.true_and]
      exact (send_negotiated _ _).trans
        (signalDeviceEvent_negotiated (session.setDeviceType name))

theorem receiveRequest_keeps (requestData : List UInt8) (session : Session) :
    Keeps session (session.receiveRequest requestData) := by
  apply Keeps.trans _ (signalNegotiationComplete_keeps true _)
  apply Keeps.trans _ (setNegotiatedFlag_keeps true _)
  exact ⟨rfl, rfl, id, id⟩

theorem handleResponseMode_keepsFlags (body : List UInt8) (session : Session) :
    KeepsFlags session (session.handleResponseMode body) := by
  unfold handleResponseMode
  split
  · exact .refl _
  · split
    · exact send_keepsFlags _ _
    · split
      · split
        · exact .refl _
        · exact ⟨⟨rfl, rfl, id, id⟩, rfl⟩
      · exact .refl _

theorem handleUsableArea_keepsFlags (body : List UInt8) (session : Session) :
    KeepsFlags session (session.handleUsableArea body) := by
  unfold handleUsableArea
  split
  · exact .refl _
  · split
    · exact send_keepsFlags _ _
    · exact .refl _

theorem modifyNegotiator_final (f : Negotiator → Negotiator) (session : Session) :
    finalState (modifyNegotiator f session) = session.onNegotiator f := rfl

theorem parseQueryReply_keepsFlags (data : List UInt8) (session : Session) :
    KeepsFlags session (finalState (parseQueryReply data session)) := by
  unfold parseQueryReply
  cases (data.take (data.length - 2)).findIdx? (· = 0x81) with
  | none => exact .refl session
  | some i =>
      by_cases described : i + 4 < data.length
      · simp only [if_pos described]
        by_cases short : 7 ≤ data.length ∧ (data[i + 5]? = none ∨
            data[i + 5]? = some 0xF1 ∧ data[i + 6]? = none)
        · rw [if_pos short]
          exact .refl session
        · rw [if_neg short]
          rw [modifyNegotiator_final]
          unfold onNegotiator
          dsimp only
          split
          · exact ⟨⟨rfl, rfl, id, id⟩, rfl⟩
          · exact ⟨⟨rfl, rfl, id, id⟩, rfl⟩
          · split
            · exact .refl session
            · exact ⟨⟨rfl, rfl, id, id⟩, rfl⟩
      · simp only [if_neg described]
        exact .refl session

theorem handleQuery_keepsFlags (body : List UInt8) (session : Session) :
    KeepsFlags session (finalState (handleQuery body session)) := by
  unfold handleQuery
  split
  · exact .refl session
  · split
    · exact send_keepsFlags _ session
    · split
      · exact parseQueryReply_keepsFlags _ session
      · exact .refl session

/-- A header finds no request of the negotiation. -/
theorem handleTn3270eResponse_keepsFlags (header : Tn3270eHeader)
    (unasked : session.Unasked) :
    KeepsFlags session (finalState (handleTn3270eResponse header session)) := by
  rw [handleTn3270eResponse_other fun request waiting => unasked _ request waiting]
  refine ⟨⟨rfl, rfl, id, fun _ number request found => ?_⟩, rfl⟩
  exact unasked number request (pendingRequests_of_popRequest found)

/-- Whether a payload has TN3270E negotiated that was not. -/
def negotiates (payload : List UInt8) : List UInt8 → Session → Bool
  | [], _ => false
  | command :: body, session =>
      if (headerOf payload (command :: body)).isSome then false
      else if command = deviceType then deviceTypeNegotiates body session.negotiator
      else if command = Tn3270e.send then
        match body with
        | [] => false
        | sendType :: rest =>
            sendNegotiates sendType session.negotiator ||
              negotiates payload rest (session.handleTn3270eSend sendType)
      else if command = is then
        (rawDeviceType body).isSome && session.negotiator.finalizesOnDevice
      else if command = functions then functionsNegotiate body session.negotiator
      else command = request

private theorem responseMode_not_request : ¬ responseMode = request := by decide

private theorem usableArea_not_request : ¬ usableArea = request := by decide

private theorem query_not_request : ¬ query = request := by decide

/-- A payload that is read to its end is behind a SEND, or it is one of the others. -/
theorem parsePayload_flags (payload remaining : List UInt8) {session : Session}
    (unasked : session.Unasked) :
    Keeps session (finalState (parsePayload payload remaining session)) ∧
      (finalState (parsePayload payload remaining session)
        ).negotiator.negotiatedTn3270e =
        (session.negotiator.negotiatedTn3270e ||
          negotiates payload remaining session) := by
  induction length : remaining.length using Nat.strongRecOn
    generalizing remaining session with
  | ind size ih =>
      subst length
      cases remaining with
      | nil => exact ⟨.refl session, (Bool.or_false _).symm⟩
      | cons command body =>
          unfold parsePayload negotiates
          cases found : headerOf payload (command :: body) with
          | some header =>
              have kept := handleTn3270eResponse_keepsFlags header unasked
              exact ⟨kept.toKeeps,
                kept.negotiatedTn3270e.trans (Bool.or_false _).symm⟩
          | none =>
              simp only [Option.isSome_none, Bool.false_eq_true, if_false]
              by_cases device : command = deviceType
              · simp only [if_pos device]
                exact ⟨handleDeviceType_keeps body session,
                  handleDeviceType_negotiated body session⟩
              simp only [if_neg device]
              by_cases sends : command = Tn3270e.send
              · simp only [if_pos sends]
                cases body with
                | nil => exact ⟨.refl session, (Bool.or_false _).symm⟩
                | cons sendType rest =>
                    have kept := handleTn3270eSend_keeps sendType session
                    obtain ⟨later, flag⟩ := @ih rest.length
                      (by simp only [List.length_cons]; omega) rest
                      (session.handleTn3270eSend sendType) (kept.unasked unasked) rfl
                    refine ⟨kept.trans later, flag.trans ?_⟩
                    rw [handleTn3270eSend_negotiated, Bool.or_assoc]
              simp only [if_neg sends]
              by_cases answers : command = is
              · simp only [if_pos answers]
                exact ⟨handleTn3270eIs_keeps body session,
                  handleTn3270eIs_negotiated body session⟩
              simp only [if_neg answers]
              by_cases functional : command = functions
              · simp only [if_pos functional]
                exact ⟨handleFunctions_keeps body session,
                  handleFunctions_negotiated body session⟩
              simp only [if_neg functional]
              by_cases mode : command = responseMode
              · have kept := handleResponseMode_keepsFlags body session
                simp only [mode, responseMode_not_request,
                  decide_false, Bool.or_false]
                exact ⟨kept.toKeeps, kept.negotiatedTn3270e⟩
              simp only [if_neg mode]
              by_cases area : command = usableArea
              · have kept := handleUsableArea_keepsFlags body session
                simp only [area, usableArea_not_request,
                  decide_false, Bool.or_false]
                exact ⟨kept.toKeeps, kept.negotiatedTn3270e⟩
              simp only [if_neg area]
              by_cases asked : command = query
              · have kept := handleQuery_keepsFlags body session
                simp only [asked, query_not_request,
                  decide_false, Bool.or_false]
                exact ⟨kept.toKeeps, kept.negotiatedTn3270e⟩
              simp only [if_neg asked]
              by_cases requests : command = request
              · simp only [if_pos requests, decide_eq_true requests, Bool.or_true]
                exact ⟨receiveRequest_keeps body session, rfl⟩
              · simp only [if_neg requests, decide_eq_false requests, Bool.or_false]
                exact ⟨.refl session, rfl⟩

theorem handleTn3270eSubnegotiation_flags (subPayload : List UInt8)
    (unasked : session.Unasked) :
    Keeps session (finalState (handleTn3270eSubnegotiation subPayload session)) ∧
      (finalState (handleTn3270eSubnegotiation subPayload session)
        ).negotiator.negotiatedTn3270e =
        (session.negotiator.negotiatedTn3270e ||
          decide (subPayload.length ≤ maxSubpayloadBytes) &&
            negotiates subPayload subPayload session) := by
  unfold handleTn3270eSubnegotiation
  by_cases long : maxSubpayloadBytes < subPayload.length
  · rw [if_pos long, decide_eq_false (Nat.not_le.mpr long), Bool.false_and,
      Bool.or_false]
    exact ⟨.refl session, rfl⟩
  · rw [if_neg long, decide_eq_true (Nat.not_lt.mp long), Bool.true_and]
    exact parsePayload_flags subPayload subPayload unasked

theorem markServerSupport_keepsFlags (session : Session) :
    KeepsFlags session session.markServerSupport :=
  ⟨⟨rfl, rfl, id, id⟩, rfl⟩

theorem handleWill_keepsFlags (option : UInt8) (session : Session) :
    KeepsFlags session (session.handleWill option) := by
  unfold handleWill
  dsimp only
  split
  · split
    · exact (send_keepsFlags _ session).trans (markServerSupport_keepsFlags _)
    · exact send_keepsFlags _ session
  · exact send_keepsFlags _ session

theorem sendDetails_keepsFlags (option : UInt8) (session : Session) :
    KeepsFlags session (session.sendDetails option) := by
  unfold sendDetails
  dsimp only
  split
  · exact send_keepsFlags _ session
  · split
    · exact send_keepsFlags _ session
    · exact .refl session

theorem handleDo_keepsFlags (option : UInt8) (session : Session) :
    KeepsFlags session (session.handleDo option) := by
  unfold handleDo
  dsimp only
  split
  · have accepted := (send_keepsFlags (.iac willCode option) session).trans
      (sendDetails_keepsFlags option _)
    split
    · exact accepted.trans (markServerSupport_keepsFlags _)
    · exact accepted
  · exact send_keepsFlags _ session

/-- The signals that release those who wait set the flags. -/
theorem signalAll_negotiated (session : Session) :
    session.signalAll.negotiator.negotiatedTn3270e = true := rfl

theorem signalAll_keeps (session : Session) : Keeps session session.signalAll :=
  ((signalDeviceEvent_keeps session).trans (signalFunctionsEvent_keeps _)).trans
    (signalNegotiationComplete_keeps true _)

theorem fallBackToAscii_keeps (session : Session) :
    Keeps session.setAsciiMode session.fallBackToAscii :=
  (((setNegotiatedFlag_keeps false _).trans (signalDeviceEvent_keeps _)).trans
    (signalFunctionsEvent_keeps _)).trans (signalNegotiationComplete_keeps false _)

/-- Who gives up does not fall back. -/
theorem not_fallsBack {negotiator : Negotiator} (fails : negotiator.FailsForced) :
    ¬ negotiator.FallsBack := by
  rintro ⟨-, fallback⟩
  rw [fails.1] at fallback
  cases fallback

theorem iterationLimit_keeps (session : Session) :
    Keeps session session.iterationLimit := by
  apply Keeps.trans _ (signalAll_keeps _)
  exact ⟨rfl, rfl, id, id⟩

theorem handleDont_negotiated (session : Session) :
    (session.handleDont tn3270e).negotiator.negotiatedTn3270e = true := by
  unfold handleDont
  rw [send_negotiated]
  rfl

theorem handleDont_keeps (option : UInt8) (session : Session) :
    Keeps session (session.handleDont option) := by
  unfold handleDont
  apply Keeps.trans _ (send_keeps _ _)
  split
  · exact (setNegotiatedFlag_keeps false session).trans (signalAll_keeps _)
  · exact .refl session

theorem handleDont_other {option : UInt8} (other : option ≠ tn3270e)
    (session : Session) : KeepsFlags session (session.handleDont option) := by
  unfold handleDont
  rw [if_neg other]
  exact send_keepsFlags _ session

theorem handleWont_other {option : UInt8} (other : option ≠ tn3270e)
    (session : Session) : KeepsFlags session (session.handleWont option) := by
  unfold handleWont
  rw [if_neg other]
  exact send_keepsFlags _ session

theorem handleWont_fallsBack (fallsBack : session.negotiator.FallsBack) :
    (session.handleWont tn3270e).negotiator.negotiatedTn3270e = false ∧
      (session.handleWont tn3270e).negotiator.asciiMode = true ∧
        (session.handleWont tn3270e).asciiMode = true := by
  unfold handleWont refuseTn3270e
  dsimp only
  rw [if_pos rfl, if_pos fallsBack]
  obtain ⟨refused, defined⟩ : ∃ refused, refused =
      session.onNegotiator fun negotiator =>
        { negotiator with serverSupportsTn3270e := false } := ⟨_, rfl⟩
  rw [← defined]
  have kept : Keeps refused.setAsciiMode
      (refused.fallBackToAscii.send (.iac dontCode tn3270e)) :=
    (fallBackToAscii_keeps refused).trans (send_keeps _ _)
  refine ⟨?_, kept.asciiMode, kept.handlerAsciiMode⟩
  rw [send_negotiated]
  rfl

theorem handleWont_failsForced (failsForced : session.negotiator.FailsForced) :
    Keeps session (session.handleWont tn3270e) ∧
      (session.handleWont tn3270e).negotiator.negotiatedTn3270e = true := by
  unfold handleWont refuseTn3270e
  dsimp only
  rw [if_pos rfl, if_neg (not_fallsBack failsForced), if_pos failsForced]
  constructor
  · apply Keeps.trans _ (send_keeps _ _)
    apply Keeps.trans _ (signalAll_keeps _)
    exact ⟨rfl, rfl, id, id⟩
  · rw [send_negotiated]
    exact signalAll_negotiated _

theorem handleWont_stays (stays : ¬ session.negotiator.FallsBack)
    (unforced : ¬ session.negotiator.FailsForced) :
    KeepsFlags session (session.handleWont tn3270e) := by
  unfold handleWont refuseTn3270e
  dsimp only
  rw [if_pos rfl, if_neg stays, if_neg unforced]
  apply KeepsFlags.trans _ (send_keepsFlags _ _)
  exact ⟨⟨rfl, rfl, id, id⟩, rfl⟩

/-- Equal flags stay equal, and no request is made. -/
structure Links (before after : Session) : Prop where
  inSync : before.InSync → after.InSync
  unasked : before.Unasked → after.Unasked

theorem Keeps.links {before after : Session} (kept : Keeps before after) :
    Links before after :=
  ⟨kept.inSync, kept.unasked⟩

theorem Links.trans {first second third : Session} (here : Links first second)
    (later : Links second third) : Links first third :=
  ⟨later.inSync ∘ here.inSync, later.unasked ∘ here.unasked⟩

theorem handleWont_links (option : UInt8) (session : Session) :
    Links session (session.handleWont option) := by
  by_cases offered : option = tn3270e
  · subst offered
    by_cases fallsBack : session.negotiator.FallsBack
    · unfold handleWont refuseTn3270e
      dsimp only
      rw [if_pos rfl, if_pos fallsBack]
      apply Links.trans _ (send_keeps _ _).links
      apply Links.trans _ (fallBackToAscii_keeps _).links
      exact ⟨id, id⟩
    · by_cases failsForced : session.negotiator.FailsForced
      · exact (handleWont_failsForced failsForced).1.links
      · exact (handleWont_stays fallsBack failsForced).toKeeps.links
  · exact (handleWont_other offered session).toKeeps.links

theorem resetNegotiationState_links (session : Session) :
    Links session session.resetNegotiationState :=
  ⟨fun _ => rfl, id⟩

end Session

end Pure3270
