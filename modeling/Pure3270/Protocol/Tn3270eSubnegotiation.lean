import Mathlib.Data.List.DropRight
import Pure3270.Foundations.Tokenizer
import Pure3270.Protocol.TelnetOptions

/-!
# TN3270E subnegotiations

What the negotiator makes of the bytes between IAC SB TN3270E and IAC SE.  A
payload of five bytes is tried as a header first, whatever it starts with; the
command bytes are compared after that, in the order of the source.
-/

namespace Pure3270

open Foundations Telnet

namespace Tn3270e

abbrev deviceType : UInt8 := 0x02
abbrev functions : UInt8 := 0x03
abbrev connect : UInt8 := 0x03
abbrev is : UInt8 := 0x04
abbrev associate : UInt8 := 0x04
abbrev reject : UInt8 := 0x05
abbrev request : UInt8 := 0x07
abbrev send : UInt8 := 0x08
abbrev query : UInt8 := 0x0F
abbrev responseMode : UInt8 := 0x15
abbrev usableArea : UInt8 := 0x16
abbrev sysreqMessageType : UInt8 := 0x1C

/-- IS and SEND of the response mode, the usable area and the query. -/
abbrev modeIs : UInt8 := 0x00
abbrev modeSend : UInt8 := 0x01

/-- `IBM-DYNAMIC`. -/
def ibmDynamic : List UInt8 :=
  [0x49, 0x42, 0x4D, 0x2D, 0x44, 0x59, 0x4E, 0x41, 0x4D, 0x49, 0x43]

/-- `IBM-3278`. -/
def ibm3278 : List UInt8 := [0x49, 0x42, 0x4D, 0x2D, 0x33, 0x32, 0x37, 0x38]

/-- `split(b"\x00", 1)[0].decode("ascii", errors="ignore")`. -/
def asciiName (nameBytes : List UInt8) : List UInt8 :=
  (nameBytes.takeWhile (· ≠ 0x00)).filter (· < 0x80)

/-- The digits of a number. -/
def digits (number : Nat) : List UInt8 :=
  (Nat.toDigits 10 number).map fun digit => .ofNat digit.toNat

/-- `int.from_bytes(functions_data, byteorder="big")`. -/
def functionsNumber (functionsData : List UInt8) : Nat :=
  functionsData.foldl (fun value byte => value * 256 + byte.toNat) 0

/-- One structured field of an IS response: an id, a length and the data. -/
def structuredFieldToken : List UInt8 → Option ((UInt8 × List UInt8) × Nat)
  | 0x0F :: sfId :: length :: rest =>
      if length.toNat ≤ rest.length then
        some ((sfId, rest.take length.toNat), 3 + length.toNat)
      else none
  | _ => none

def structuredFields : Tokenizer UInt8 (UInt8 × List UInt8) where
  token := structuredFieldToken
  consumes := by
    intro input out count found
    unfold structuredFieldToken at found
    split at found
    · split at found
      · cases found
        simp only [List.length_cons]
        omega
      · cases found
    · cases found
  stable := by
    intro input out count more found
    unfold structuredFieldToken at found
    split at found
    · rename_i sfId length rest
      split at found
      · rename_i complete
        cases found
        have still : length.toNat ≤ (rest ++ more).length := by
          rw [List.length_append]
          omega
        simp only [List.cons_append, structuredFieldToken]
        rw [if_pos still, List.take_append_of_le_length complete]
      · cases found
    · cases found

/-- The header that the payload is taken for.  The test of a payload of five
bytes does not look at its first byte. -/
def headerOf (payload remaining : List UInt8) : Option Tn3270eHeader :=
  let whole := if payload.length = 5 then Tn3270eHeader.fromBytes payload else none
  let loose :=
    if 5 ≤ remaining.length ∧ remaining.head? ∉
        [some deviceType, some functions, some send, some is, some request,
          some query] then
      Tn3270eHeader.fromBytes remaining
    else none
  whole.or loose

end Tn3270e

open Tn3270e

namespace Session

def setDeviceType (name : List UInt8) (session : Session) : Session :=
  session.onNegotiator fun negotiator =>
    { negotiator with negotiatedDeviceType := some name }

/-- A device name, unless it is empty. -/
def receiveDeviceName (nameBytes : List UInt8) (session : Session) : Session :=
  let deviceName := asciiName nameBytes
  if deviceName = [] then session
  else
    let named := (session.setDeviceType deviceName).signalDeviceEvent
    if deviceName = ibmDynamic then
      named.send (.subnegotiation tn3270e [query, modeSend, 0x81])
    else named

def receiveConnect (nameBytes : List UInt8) (session : Session) : Session :=
  (session.onNegotiator fun negotiator =>
    { negotiator with
      connectedLuName := some (asciiName nameBytes) }).signalDeviceEvent

def receiveAssociate (nameBytes : List UInt8) (session : Session) : Session :=
  (session.onNegotiator fun negotiator =>
    { negotiator with
      associatedDisplayLu := some (asciiName nameBytes) }).signalDeviceEvent

def receiveReject (reasonBytes : List UInt8) (session : Session) : Session :=
  (session.onNegotiator fun negotiator =>
    { negotiator with
      deviceTypeRejected := true
      rejectionReason := reasonBytes.headD 0 }).signalDeviceEvent

/-- What follows DEVICE-TYPE.  ASSOCIATE has the code of IS, which is compared
first. -/
def handleDeviceType : List UInt8 → Session → Session
  | [], session => session
  | sub :: body, session =>
      if sub = Tn3270e.send ∨ sub = request then session.sendSupportedDeviceTypes
      else if sub = is then session.receiveDeviceName body
      else if sub = connect then session.receiveConnect body
      else if sub = associate then session.receiveAssociate body
      else if sub = reject then session.receiveReject body
      else session.receiveDeviceName (if sub = 0x07 then body else sub :: body)

/-- The functions of a message are recorded; the numbers only if there are any. -/
def recordFunctions (functionsData : List UInt8) (session : Session) : Session :=
  session.onNegotiator fun negotiator =>
    if functionsData = [] then { negotiator with functions := some functionsData }
    else
      { negotiator with
        functions := some functionsData
        negotiatedFunctions := functionsNumber functionsData
        lastNegotiatedFunctions := functionsNumber functionsData }

/-- `_send_functions_request`. -/
def sendFunctionsRequest (session : Session) : Session :=
  session.send (.functionsRequest session.negotiator.functionsData)

/-- The flag is set where it is not set yet. -/
def ensureNegotiated (session : Session) : Session :=
  if session.negotiator.negotiatedTn3270e then session
  else session.setNegotiatedFlag true

/-- FUNCTIONS REQUEST IS. -/
def receiveFunctionsRequest (functionsData : List UInt8) (session : Session) :
    Session :=
  ((session.recordFunctions functionsData).signalFunctionsEvent
    ).sendFunctionsIs.ensureNegotiated

/-- FUNCTIONS IS. -/
def receiveFunctionsIs (functionsData : List UInt8) (session : Session) : Session :=
  (session.recordFunctions functionsData).signalFunctionsEvent

/-- FUNCTIONS SEND.  After the answer the list is recorded once more without its
first byte and requested. -/
def receiveFunctionsSend (functionsData : List UInt8) (session : Session) :
    Session :=
  ((session.receiveFunctionsRequest functionsData).receiveFunctionsIs
    functionsData.tail).sendFunctionsRequest.ensureNegotiated

/-- What follows FUNCTIONS. -/
def handleFunctions : List UInt8 → Session → Session
  | [], session => session
  | sub :: body, session =>
      if sub = request then
        if body.head? = some is then session.receiveFunctionsRequest body.tail
        else session
      else if sub = is then session.receiveFunctionsIs body
      else if sub = Tn3270e.send then session.receiveFunctionsSend body
      else session

/-- `_handle_tn3270e_send`. -/
def handleTn3270eSend (sendType : UInt8) (session : Session) : Session :=
  if sendType = deviceType then session.sendSupportedDeviceTypes
  else if sendType = functions then session.sendFunctionsIs
  else session

/-- `_handle_structured_field`; only the characteristics have an effect. -/
def handleStructuredField (session : Session) (field : UInt8 × List UInt8) :
    Session :=
  match field with
  | (0x81, _ :: model :: luType :: _ :: _ :: _) =>
      session.setDeviceType
        ([0x49, 0x42, 0x4D, 0x2D, 0x33, 0x32, 0x37] ++ digits (luType.toNat / 16) ++
          [0x2D] ++ digits model.toNat)
  | _ => session

/-- The name of a raw device type response, where there is one. -/
def rawDeviceType (responseData : List UInt8) : Option (List UInt8) :=
  if responseData.head? = some 0x0F ∨ ¬ responseData.all (· < 0x80) then none
  else
    let name := responseData.rdropWhile (· = 0x00)
    if name = [] then none else some name

/-- `_handle_tn3270e_is`. -/
def handleTn3270eIs (responseData : List UInt8) (session : Session) : Session :=
  match rawDeviceType responseData with
  | some name =>
      (session.setDeviceType name).signalDeviceEvent.sendFunctionsRequest
  | none =>
      (structuredFields.scan responseData).1.foldl handleStructuredField session

/-- REQUEST without FUNCTIONS in front ends the negotiation. -/
def receiveRequest (requestData : List UInt8) (session : Session) : Session :=
  ((session.onNegotiator fun negotiator =>
      { negotiator with
        negotiatedFunctions := (requestData.headD 0).toNat }).setNegotiatedFlag
    true).signalNegotiationComplete true

/-- `_handle_response_mode_subnegotiation`, behind its first byte. -/
def handleResponseMode : List UInt8 → Session → Session
  | [], session => session
  | command :: body, session =>
      if command = modeSend then
        session.send (.subnegotiation tn3270e [responseMode, modeIs, 0x02])
      else if command = modeIs then
        match body with
        | [] => session
        | mode :: _ =>
            session.onNegotiator fun negotiator =>
              { negotiator with negotiatedResponseMode := mode }
      else session

/-- `_handle_usable_area_subnegotiation`, behind its first byte. -/
def handleUsableArea : List UInt8 → Session → Session
  | [], session => session
  | command :: _, session =>
      if command = modeSend then
        let rows := u16Bytes session.negotiator.screenRows
        let cols := u16Bytes session.negotiator.screenCols
        session.send (.subnegotiation tn3270e
          ([usableArea, modeIs] ++ rows ++ cols ++ rows ++ cols))
      else session

/-- `_parse_query_reply`.  The two bytes it looks at behind the characteristics
need not be there. -/
def parseQueryReply (data : List UInt8) : SessionM Unit :=
  match (data.take (data.length - 2)).findIdx? (· = 0x81) with
  | none => return
  | some i =>
      if i + 4 < data.length then
        if 7 ≤ data.length ∧
            (data[i + 5]? = none ∨
              data[i + 5]? = some 0xF1 ∧ data[i + 6]? = none) then
          throw (.other "index out of range")
        else
          modifyNegotiator fun negotiator =>
            let described := ibm3278 ++ [0x2D, 0x20, 0x32]
            match negotiator.negotiatedDeviceType with
            | none | some [] =>
                { negotiator with negotiatedDeviceType := some described }
            | some name =>
                if ibm3278 <:+: name then negotiator
                else
                  { negotiator with
                    negotiatedDeviceType := some (name ++ [0x20] ++ described) }
      else return

/-- `_handle_query_subnegotiation`, behind its first byte. -/
def handleQuery : List UInt8 → SessionM Unit
  | [] => return
  | command :: body =>
      if command = modeSend then
        modify (Session.send (.subnegotiation tn3270e
          [query, modeIs, 0x0F, 0x81, 0x0A, 0x43, 0x02, 0xF1, 0xF0, 0x0F, 0x82, 0x02,
            0x41]))
      else if command = modeIs then parseQueryReply body
      else return

/-- The loop of `_parse_tn3270e_subnegotiation` on the bytes from its index on.
Only SEND goes on to a further command. -/
def parsePayload (payload : List UInt8) : List UInt8 → SessionM Unit
  | [] => return
  | command :: body =>
      match headerOf payload (command :: body) with
      | some header => handleTn3270eResponse header
      | none =>
          if command = deviceType then modify (handleDeviceType body)
          else if command = Tn3270e.send then
            match body with
            | [] => return
            | sendType :: rest => do
                modify (handleTn3270eSend sendType)
                parsePayload payload rest
          else if command = is then modify (handleTn3270eIs body)
          else if command = functions then modify (handleFunctions body)
          else if command = responseMode then modify (handleResponseMode body)
          else if command = usableArea then modify (handleUsableArea body)
          else if command = query then handleQuery body
          else if command = request then modify (receiveRequest body)
          else return

/-- `_parse_tn3270e_subnegotiation`. -/
def parseTn3270eSubnegotiation : List UInt8 → SessionM Unit
  | [] => return
  | option :: payload =>
      if option = tn3270e then parsePayload payload payload else return

abbrev maxSubpayloadBytes : Nat := 255

/-- `handle_subnegotiation` for the option TN3270E. -/
def handleTn3270eSubnegotiation (subPayload : List UInt8) : SessionM Unit :=
  if maxSubpayloadBytes < subPayload.length then
    throw (.other "Subnegotiation payload too large")
  else parseTn3270eSubnegotiation (tn3270e :: subPayload)

end Session

end Pure3270
