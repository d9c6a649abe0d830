import Mathlib.Data.List.DropRight
import Pure3270.Protocol.DataStreamParser
import Pure3270.Protocol.Negotiator
import Pure3270.Protocol.SequenceNumbers
import Pure3270.Protocol.TelnetStream

/-!
# The handler

What a chunk goes through on its way from the network to the parser: the Telnet
layer, the choice between ASCII and 3270 mode, the TN3270E header, and the
bytes that are taken off before the parser sees the rest.
-/

namespace Pure3270

open Foundations

structure Tn3270Handler where
  parser : DataStreamParser
  session : Session
  telnet : TelnetStream
  sequence : SequenceNumbers
  hasPrinterBuffer : Bool
  pendingPayload : List UInt8
  hasWriter : Bool
  connected : Bool
  inSuspendedMode : Bool
  in3270Mode : Bool
  /-- The Telnet commands sent to the host. -/
  sentCommands : List UInt8
  /-- The calls of `parser.parse` so far. -/
  parseCalls : List (List UInt8 × UInt8)

abbrev HandlerM := EStateM Fault Tn3270Handler

/-- The parts the handler calls that may do to the screen and to the session
whatever they like: the VT100 parser, and the negotiator's reaction to Telnet
commands.  Their exceptions are swallowed by the handler. -/
structure Collaborators where
  vt100Parse : List UInt8 → ScreenBuffer → ScreenBuffer
  handleIacCommand : UInt8 → UInt8 → Session → Session
  handleSubnegotiation : UInt8 → List UInt8 → Session → Session

namespace Tn3270Handler

/-- A connected handler before anything has been received. -/
def init (parser : DataStreamParser) : Tn3270Handler where
  parser
  session :=
    { negotiator := .init .strict, negotiatedTn3270e := false, asciiMode := false }
  telnet := ⟨[], []⟩
  sequence := .init
  hasPrinterBuffer := parser.printer.isSome
  pendingPayload := []
  hasWriter := true
  connected := true
  inSuspendedMode := false
  in3270Mode := false
  sentCommands := []
  parseCalls := []

/-- `rstrip(b"\x19")`. -/
def rstripEor (data : List UInt8) : List UInt8 :=
  data.rdropWhile (· = 0x19)

/-- Blocks of four zero bytes are taken off the front. -/
def stripZeroBlocks : List UInt8 → List UInt8
  | 0x00 :: 0x00 :: 0x00 :: 0x00 :: rest => stripZeroBlocks rest
  | data => data

/-- One leading 0xF5 is taken off. -/
def stripF5 : List UInt8 → List UInt8
  | 0xF5 :: rest => rest
  | data => data

/-- `_get_fixture_header_len`; 3270 mode has the same test inline. -/
def getFixtureHeaderLen (data : List UInt8) (defaultLen : Nat) : Nat :=
  if [0x00, 0x00, 0x00, 0x00, 0xF5] <+: data then 4 else defaultLen

def onSession (m : SessionM α) : HandlerM α := fun handler =>
  match m handler.session with
  | .ok value session => .ok value { handler with session }
  | .error fault session => .error fault { handler with session }

def modifyScreen (f : ScreenBuffer → ScreenBuffer) : HandlerM Unit :=
  modify fun handler =>
    { handler with
      parser := { handler.parser with screen := f handler.parser.screen } }

/-- A call of `parser.parse`.  Where the handler excepts `ParseError` it means the class
of the package's exceptions; the errors of the parser are of another class of this name,
and nothing catches them. -/
def callParse (data : List UInt8) (dataType : UInt8) : HandlerM Unit :=
  fun handler =>
    let parseCalls := handler.parseCalls ++ [(data, dataType)]
    match DataStreamParser.parse data dataType handler.parser with
    | .ok _ parser => .ok () { handler with parser, parseCalls }
    | .error fault parser => .error fault { handler with parser, parseCalls }

/-- The header's sequence number, then the negotiator's reaction to it. -/
def receiveHeader (header : Tn3270eHeader) : HandlerM Unit := do
  modify fun handler =>
    { handler with
      sequence := handler.sequence.receiveSequenceNumber header.seqNumber.toNat }
  onSession (Session.handleTn3270eResponse header)

/-- Printer data and printer status: the parser gets the body as it came. -/
def parsePrinterRecord (processedData : List UInt8) (headerLen : Nat)
    (dataType : UInt8) : HandlerM (Option (List UInt8)) := do
  callParse (stripF5 (processedData.drop headerLen)) dataType
  return some (stripF5 ((rstripEor processedData).drop headerLen))

def parseRecord (processedData : List UInt8) (headerLen : Nat) (dataType : UInt8) :
    HandlerM (Option (List UInt8)) := do
  let payload := rstripEor processedData
  if payload = [] then return none
  else do
    let data := stripF5 (stripZeroBlocks (payload.drop headerLen))
    callParse data dataType
    return some data

/-- The record goes the way of printer data and printer status. -/
def PrinterRecord (header : Tn3270eHeader) (handler : Tn3270Handler) : Prop :=
  (header.dataType = Tn3270eHeader.scsData ∨
    header.dataType = Tn3270eHeader.printerStatusDataType) ∧
      handler.hasPrinterBuffer = true

instance (header : Tn3270eHeader) (handler : Tn3270Handler) :
    Decidable (PrinterRecord header handler) := by
  unfold PrinterRecord
  infer_instance

/-- `_handle_tn3270_mode`.  A header with an unknown data type is not taken off,
but its data type stays. -/
def handleTn3270Mode (processedData : List UInt8) :
    HandlerM (Option (List UInt8)) := do
  match Tn3270eHeader.fromBytes processedData with
  | none => parseRecord processedData 0 Tn3270eHeader.tn3270Data
  | some header =>
      if header.dataType ∉ Tn3270eHeader.tn3270eDataTypes then
        parseRecord processedData 0 header.dataType
      else do
        let headerLen := getFixtureHeaderLen processedData 5
        receiveHeader header
        let handler ← get
        if PrinterRecord header handler then
          parsePrinterRecord processedData headerLen header.dataType
        else parseRecord processedData headerLen header.dataType

/-- The four characters of an escape written out as text. -/
def escapeText : List UInt8 := [0x5C, 0x78, 0x31, 0x62]

/-- `replace(b"\\x1b", b"\x1b")`. -/
def replaceEscapeText : List UInt8 → List UInt8
  | 0x5C :: 0x78 :: 0x31 :: 0x62 :: rest => 0x1B :: replaceEscapeText rest
  | byte :: rest => byte :: replaceEscapeText rest
  | [] => []

def dropSuffix (suffix data : List UInt8) : List UInt8 :=
  if suffix <:+ data then data.take (data.length - suffix.length) else data

/-- The data types that ASCII mode knows; RESPONSE is not among them. -/
def asciiModeTypes : List UInt8 :=
  open Tn3270eHeader in
  [tn3270Data, scsData, printerStatusDataType, bindImage, unbind, nvtData, request,
    sscpLuData, printEoj, snaResponse]

/-- The screen is put into EBCDIC mode unless it is in it. -/
def leaveAsciiScreen : HandlerM Unit :=
  modifyScreen fun screen =>
    if screen.asciiMode then screen.setAsciiMode false else screen

variable (collaborators : Collaborators)

def parseVt100 (data : List UInt8) : HandlerM (Option (List UInt8)) := do
  modifyScreen fun screen =>
    if screen.asciiMode then screen else screen.setAsciiMode true
  modifyScreen
    (collaborators.vt100Parse (dropSuffix [0xFF, 0x19] (replaceEscapeText data)))
  return some (rstripEor data)

/-- A record with a header in ASCII mode.  The header is taken off only where
the test for a leading 0xF5 applies. -/
def parseAsciiHeaderRecord (processedData : List UInt8) (header : Tn3270eHeader) :
    HandlerM (Option (List UInt8)) := do
  let headerLen := getFixtureHeaderLen processedData 0
  receiveHeader header
  leaveAsciiScreen
  callParse (stripF5 (processedData.drop headerLen)) header.dataType
  return some (stripF5 ((rstripEor processedData).drop headerLen))

/-- Text for the VT100 parser; 3270 data after that. -/
def parseAsciiText (processedData : List UInt8) :
    HandlerM (Option (List UInt8)) := do
  let vt100Payload :=
    if [0xFF, 0x19] <:+ processedData then dropSuffix [0xFF, 0x19] processedData
    else dropSuffix [0x19] processedData
  modifyScreen (collaborators.vt100Parse vt100Payload)
  if processedData = [] then return none
  else do
    leaveAsciiScreen
    tryCatch (callParse processedData Tn3270eHeader.tn3270Data) fun _ => pure ()
    return some (rstripEor processedData)

/-- `_handle_ascii_mode`. -/
def handleAsciiMode (processedData : List UInt8) :
    HandlerM (Option (List UInt8)) := do
  if 0x1B ∈ processedData ∨ escapeText <:+: processedData then
    parseVt100 collaborators processedData
  else do
    let handler ← get
    let negotiator := handler.session.negotiator
    let tn3270eActive := negotiator.tn3270eMode || negotiator.negotiatedTn3270e ||
      negotiator.isDataStreamCtlActive
    let header :=
      if tn3270eActive then Tn3270eHeader.fromBytes processedData else none
    match header with
    | none => parseAsciiText collaborators processedData
    | some header =>
        if header.dataType ∈ asciiModeTypes then
          parseAsciiHeaderRecord processedData header
        else parseAsciiText collaborators processedData

/-- `_handle_telnet_command`: AO suspends the session where SYSREQ was agreed,
AYT is answered with NOP, and nothing else has an effect. -/
def handleTelnetCommand (cmd : UInt8) (handler : Tn3270Handler) : Tn3270Handler :=
  if cmd = 0xF5 then
    if handler.session.negotiator.negotiatedFunctions &&& 0x10 ≠ 0 then
      { handler with inSuspendedMode := true, in3270Mode := false }
    else handler
  else if cmd = 0xF6 then
    if handler.hasWriter && handler.connected then
      { handler with sentCommands := handler.sentCommands ++ [0xF1] }
    else handler
  else handler

def reactTo (handler : Tn3270Handler) : TelnetCall → Tn3270Handler
  | .handleIacCommand cmd option =>
      { handler with
        session := collaborators.handleIacCommand cmd option handler.session }
  | .handleSubnegotiation option subPayload =>
      { handler with
        session :=
          collaborators.handleSubnegotiation option subPayload handler.session }
  | .handleTelnetCommand cmd => handler.handleTelnetCommand cmd

/-- `_process_telnet_stream` with the reactions to what it calls. -/
def processTelnetStream (part : List UInt8) : HandlerM (List UInt8 × Bool) :=
  fun handler =>
    let (processed, telnet) := handler.telnet.processTelnetStream part
    let made := telnet.calls.drop handler.telnet.calls.length
    .ok processed (made.foldl (reactTo collaborators) { handler with telnet })

/-- ASCII mode is taken up unless TN3270E has been negotiated. -/
def detectAsciiMode (asciiModeDetected : Bool) : HandlerM Bool := do
  let handler ← get
  if asciiModeDetected && !handler.session.negotiatedTn3270e then
    set { handler with
      session :=
        { handler.session with
          negotiator := { handler.session.negotiator with asciiMode := true }
          asciiMode := true } }
    return true
  else return asciiModeDetected || handler.session.negotiator.asciiMode

/-- One round of the loop of `receive_data`: the payload that is returned, or
`none` where the loop goes on to the next read. -/
def receivePart (part : List UInt8) : HandlerM (Option (List UInt8)) := do
  let (processedData, asciiModeDetected) ← processTelnetStream collaborators part
  let handler ← get
  if processedData = [] ∧ handler.telnet.telnetBuffer ≠ [] then return some []
  else do
    let asciiMode ← detectAsciiMode asciiModeDetected
    if asciiMode then handleAsciiMode collaborators processedData
    else do
      let result ← handleTn3270Mode processedData
      if result.isNone ∧ processedData = [] then return some []
      else return result

/-- The reads of `receive_data`, with the reads that are left.  An empty read
closes the connection; without reads the call times out. -/
def receiveReads : List (List UInt8) → HandlerM (List UInt8 × List (List UInt8))
  | [] => throw (.other "receive_data timeout expired")
  | part :: reads => do
      if part = [] then throw (.other "Connection closed by peer (empty read)")
      else do
        let result ← receivePart collaborators part
        match result with
        | some payload => return (payload, reads)
        | none => receiveReads reads

/-- `receive_data`.  A payload kept from the negotiation goes first. -/
def receiveData (reads : List (List UInt8)) :
    HandlerM (List UInt8 × List (List UInt8)) := do
  let handler ← get
  if handler.pendingPayload = [] then receiveReads collaborators reads
  else do
    set { handler with pendingPayload := [] }
    let result ← receivePart collaborators handler.pendingPayload
    match result with
    | some payload => return (payload, reads)
    | none => receiveReads collaborators reads

end Tn3270Handler

end Pure3270
