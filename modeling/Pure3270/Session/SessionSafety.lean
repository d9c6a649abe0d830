import Pure3270.Foundations.Failures
import Pure3270.Protocol.ParserErrors
import Pure3270.Protocol.Vt100Chunks
import Pure3270.Session.KeyboardLock

/-!
# The safety of a session

The network may send any bytes in any pieces and the user may do anything between two
reads: the screen stays valid and keeps its size.  A read passes through the Telnet
layer, the choice of the mode, the VT100 parser or the parser of the data stream, and
the parse that the session makes of what comes back.  Four kinds of exceptions leave it.
-/

namespace Pure3270

open Foundations

namespace Vt100Parser

/-- A parser of its own for every text, as the handler makes one. -/
def parseOnto (data : List UInt8) (screen : ScreenBuffer) : ScreenBuffer :=
  ((init screen).parse data).screen

/-- The screen stays valid and keeps its size. -/
def KeepsScreen (before after : Vt100Parser) : Prop :=
  ∀ saved, ValidLike saved before.screen → ValidLike saved after.screen

variable {parser : Vt100Parser}

theorem keepsScreen_buffer {buffer : List UInt8}
    (length : buffer.length = parser.screen.buffer.length) :
    KeepsScreen parser { parser with screen := { parser.screen with buffer } } :=
  fun _ valid =>
    ⟨{ valid.1 with buffer_length := length.trans valid.1.buffer_length }, valid.2⟩

theorem keepsScreen_clear (parser : Vt100Parser) :
    KeepsScreen parser { parser with screen := parser.screen.clear } :=
  fun _ valid => ⟨valid.1.clear, valid.2⟩

theorem keepsScreen_storeChar (char : UInt8) (parser : Vt100Parser) :
    KeepsScreen parser { parser with screen := parser.storeChar char } := by
  unfold storeChar
  dsimp only
  split
  · exact keepsScreen_buffer (List.length_set ..)
  · exact fun _ => id

theorem keepsScreen_writeChar (char : UInt8) (parser : Vt100Parser) :
    KeepsScreen parser (parser.writeChar char) := by
  unfold writeChar
  dsimp only
  split
  · exact fun _ => id
  · exact fun _ => id
  · exact fun _ => id
  · exact fun _ => id
  · exact fun _ => id
  · split
    · exact keepsScreen_storeChar char parser
    · exact keepsScreen_storeChar char parser

theorem keepsScreen_blankCells (first last : Nat) (parser : Vt100Parser) :
    KeepsScreen parser { parser with screen := blankCells first last parser.screen } :=
  keepsScreen_buffer (List.length_mapIdx ..)

theorem keepsScreen_eraseDisplay (param : Nat) (parser : Vt100Parser) :
    KeepsScreen parser (parser.eraseDisplay param) := by
  unfold eraseDisplay
  dsimp only
  split
  · exact keepsScreen_blankCells _ _ parser
  · split
    · exact keepsScreen_blankCells _ _ parser
    · exact fun _ => id
  · exact keepsScreen_clear parser
  · exact fun _ => id

theorem keepsScreen_eraseLine (param : Nat) (parser : Vt100Parser) :
    KeepsScreen parser (parser.eraseLine param) := by
  unfold eraseLine
  dsimp only
  split
  · exact keepsScreen_blankCells _ _ parser
  · exact keepsScreen_blankCells _ _ parser
  · exact keepsScreen_blankCells _ _ parser
  · exact fun _ => id

theorem keepsScreen_handleCsiCommand (command : UInt8) (params : List Nat)
    (parser : Vt100Parser) : KeepsScreen parser (parser.handleCsiCommand command params) := by
  unfold handleCsiCommand
  dsimp only
  split
  · exact fun _ => id
  · exact fun _ => id
  · exact fun _ => id
  · exact fun _ => id
  · exact fun _ => id
  · exact fun _ => id
  · exact keepsScreen_eraseDisplay _ parser
  · exact keepsScreen_eraseLine _ parser
  · exact fun _ => id
  · exact fun _ => id
  · exact fun _ => id

theorem keepsScreen_perform (parser : Vt100Parser) (action : Vt100.Action) :
    KeepsScreen parser (parser.perform action) := by
  cases action with
  | writeChar char => exact keepsScreen_writeChar char parser
  | csiCommand command params => exact keepsScreen_handleCsiCommand command params parser
  | reset => exact keepsScreen_clear parser
  | index =>
      unfold perform index
      dsimp only
      split
      · exact fun _ => id
      · exact fun _ => id
  | shiftOut => exact fun _ => id
  | shiftIn => exact fun _ => id
  | designateG0 char => exact fun _ => id
  | designateG1 char => exact fun _ => id
  | saveCursor => exact fun _ => id
  | restoreCursor => exact fun _ => id
  | reverseIndex => exact fun _ => id
  | ignored => exact fun _ => id

theorem parseOnto_keeps {saved screen : ScreenBuffer} (data : List UInt8)
    (valid : ValidLike saved screen) : ValidLike saved (parseOnto data screen) := by
  unfold parseOnto parse
  generalize (Vt100.scanner.scan (Vt100.decodeAsciiIgnore data)).1 = actions
  have start : ValidLike saved (init screen).screen := valid
  generalize init screen = parser at start
  induction actions generalizing parser with
  | nil => exact start
  | cons action actions ih =>
      exact ih (parser.perform action) (keepsScreen_perform parser action saved start)

end Vt100Parser

/-- The negotiator may react as it likes; the screen is for the VT100 parser. -/
def Collaborators.withVt100 (negotiator : Collaborators) : Collaborators :=
  { negotiator with vt100Parse := Vt100Parser.parseOnto }

namespace Tn3270Handler

def timedOut : Fault := .other "receive_data timeout expired"

def connectionClosed : Fault := .other "Connection closed by peer (empty read)"

/-- The screen of the handler stays valid and of the size of this one. -/
def KeepsScreen (saved : ScreenBuffer) (before after : Tn3270Handler) : Prop :=
  ValidLike saved before.parser.screen → ValidLike saved after.parser.screen

instance (saved : ScreenBuffer) : IsPreorder Tn3270Handler (KeepsScreen saved) where
  refl _ := id
  trans _ _ _ left right := right ∘ left

variable {saved : ScreenBuffer} {collaborators : Collaborators}

/-- The errors of the parser that nothing catches: of an erase command that ends its
record, and of the printer. -/
def FromParser (fault : Fault) : Prop :=
  fault = DataStreamParser.incompleteWcc ∨
    ∃ message, fault = DataStreamParser.printerError message

def Raised (fault : Fault) : Prop :=
  fault = timedOut ∨ fault = connectionClosed ∨ fault = Session.negativeResponse ∨
    FromParser fault

theorem callParse_envelope (data : List UInt8) (dataType : UInt8) :
    Envelope (KeepsScreen saved) Raised (callParse data dataType) := by
  intro handler
  have surfaces := DataStreamParser.parse_surfaces data dataType handler.parser
  constructor
  · intro valid
    have kept := DataStreamParser.parse_valid valid.1 data dataType
    have like : ValidLike saved
        (finalState (DataStreamParser.parse data dataType handler.parser)).screen :=
      ⟨kept.2.1, kept.2.2.1.trans valid.2.1, kept.2.2.2.trans valid.2.2⟩
    unfold callParse
    dsimp only
    split
    · rename_i exit parser ran
      rw [ran] at like
      exact like
    · rename_i fault parser ran
      rw [ran] at like
      exact like
  · intro fault after raised
    unfold callParse at raised
    dsimp only at raised
    split at raised
    · cases raised
    · rename_i fault parser ran
      cases raised
      exact .inr (.inr (.inr ((surfaces fault parser ran).imp_right And.right)))

theorem modifyScreen_envelope {f : ScreenBuffer → ScreenBuffer} (handler : Tn3270Handler)
    (keeps : ∀ {screen}, ValidLike saved screen → ValidLike saved (f screen)) :
    EnvelopeAt (KeepsScreen saved) Raised (modifyScreen f) handler :=
  .modify keeps

theorem setAsciiMode_keeps {screen : ScreenBuffer} (asciiMode : Bool)
    (valid : ValidLike saved screen) : ValidLike saved (screen.setAsciiMode asciiMode) :=
  ⟨valid.1.setAsciiMode asciiMode, valid.2⟩

theorem leaveAsciiScreen_envelope (handler : Tn3270Handler) :
    EnvelopeAt (KeepsScreen saved) Raised leaveAsciiScreen handler := by
  apply modifyScreen_envelope
  intro screen valid
  split
  · exact setAsciiMode_keeps false valid
  · exact valid

theorem receiveHeader_envelope (header : Tn3270eHeader) (handler : Tn3270Handler) :
    EnvelopeAt (KeepsScreen saved) Raised (receiveHeader header) handler := by
  refine .bind (.modify id) fun _ after => ?_
  have answers := Session.handleTn3270eResponse_run header after.session
  constructor
  · unfold WithinAt onSession
    rcases answers with ⟨_, session, ran⟩ | ⟨_, session, ran⟩
    · rw [ran]
      exact id
    · rw [ran]
      exact id
  · intro fault final raised
    unfold onSession at raised
    rcases answers with ⟨_, session, ran⟩ | ⟨_, session, ran⟩
    · rw [ran] at raised
      cases raised
      exact .inr (.inr (.inl rfl))
    · rw [ran] at raised
      cases raised

theorem parseRecord_envelope (processedData : List UInt8) (headerLen : Nat) (dataType : UInt8)
    (handler : Tn3270Handler) :
    EnvelopeAt (KeepsScreen saved) Raised (parseRecord processedData headerLen dataType)
      handler := by
  unfold parseRecord
  dsimp only
  split
  · exact .pure none
  · exact .bind (callParse_envelope _ _ handler) fun _ _ => .pure _

theorem parsePrinterRecord_envelope (processedData : List UInt8) (headerLen : Nat)
    (dataType : UInt8) (handler : Tn3270Handler) :
    EnvelopeAt (KeepsScreen saved) Raised
      (parsePrinterRecord processedData headerLen dataType) handler :=
  .bind (callParse_envelope _ _ handler) fun _ _ => .pure _

theorem handleTn3270Mode_envelope (processedData : List UInt8) (handler : Tn3270Handler) :
    EnvelopeAt (KeepsScreen saved) Raised (handleTn3270Mode processedData) handler := by
  unfold handleTn3270Mode
  split
  · exact parseRecord_envelope _ _ _ handler
  · refine .ite (fun _ => parseRecord_envelope _ _ _ handler) fun _ => ?_
    refine .bind (receiveHeader_envelope _ handler) fun _ after => .getBind ?_
    exact .ite (fun _ => parsePrinterRecord_envelope _ _ _ after)
      fun _ => parseRecord_envelope _ _ _ after

theorem vt100Parse_envelope (data : List UInt8) (handler : Tn3270Handler) :
    EnvelopeAt (KeepsScreen saved) Raised
      (modifyScreen (collaborators.withVt100.vt100Parse data)) handler :=
  modifyScreen_envelope handler fun valid => Vt100Parser.parseOnto_keeps data valid

theorem parseVt100_envelope (data : List UInt8) (handler : Tn3270Handler) :
    EnvelopeAt (KeepsScreen saved) Raised (parseVt100 collaborators.withVt100 data)
      handler := by
  refine .bind (modifyScreen_envelope handler ?_) fun _ after => ?_
  · intro screen valid
    split
    · exact valid
    · exact setAsciiMode_keeps true valid
  · exact .bind (vt100Parse_envelope _ after) fun _ _ => .pure _

theorem parseAsciiHeaderRecord_envelope (processedData : List UInt8) (header : Tn3270eHeader)
    (handler : Tn3270Handler) :
    EnvelopeAt (KeepsScreen saved) Raised (parseAsciiHeaderRecord processedData header)
      handler := by
  refine .bind (receiveHeader_envelope header handler) fun _ after => ?_
  refine .bind (leaveAsciiScreen_envelope after) fun _ after => ?_
  exact .bind (callParse_envelope _ _ after) fun _ _ => .pure _

theorem parseAsciiText_envelope (processedData : List UInt8) (handler : Tn3270Handler) :
    EnvelopeAt (KeepsScreen saved) Raised
      (parseAsciiText collaborators.withVt100 processedData) handler := by
  refine .bind (vt100Parse_envelope _ handler) fun _ after => ?_
  refine .ite (fun _ => .pure none) fun _ => ?_
  refine .bind (leaveAsciiScreen_envelope after) fun _ after => ?_
  refine .bind ?_ fun _ _ => .pure _
  exact (callParse_envelope _ _ after).tryCatch fun _ _ _ => .pure ()

theorem handleAsciiMode_envelope (processedData : List UInt8) (handler : Tn3270Handler) :
    EnvelopeAt (KeepsScreen saved) Raised
      (handleAsciiMode collaborators.withVt100 processedData) handler := by
  refine .ite (fun _ => parseVt100_envelope processedData handler) fun _ => .getBind ?_
  dsimp only
  split
  · exact parseAsciiText_envelope processedData handler
  · exact .ite (fun _ => parseAsciiHeaderRecord_envelope processedData _ handler)
      fun _ => parseAsciiText_envelope processedData handler

theorem reactTo_keepsParser (handler : Tn3270Handler) (call : TelnetCall) :
    (reactTo collaborators handler call).parser = handler.parser := by
  cases call with
  | handleIacCommand cmd option => rfl
  | handleSubnegotiation option subPayload => rfl
  | handleTelnetCommand cmd =>
      unfold reactTo handleTelnetCommand
      dsimp only
      split
      · split
        · rfl
        · rfl
      · split
        · split
          · rfl
          · rfl
        · rfl

theorem foldl_reactTo_keeps (calls : List TelnetCall) (handler : Tn3270Handler) :
    (calls.foldl (reactTo collaborators) handler).parser = handler.parser := by
  induction calls generalizing handler with
  | nil => rfl
  | cons call calls ih => exact (ih _).trans (reactTo_keepsParser handler call)

/-- The Telnet layer does not touch the screen. -/
theorem processTelnetStream_envelope (part : List UInt8) (handler : Tn3270Handler) :
    EnvelopeAt (KeepsScreen saved) Raised (processTelnetStream collaborators part)
      handler := by
  constructor
  · intro valid
    unfold processTelnetStream
    dsimp only [finalState_ok]
    rw [foldl_reactTo_keeps]
    exact valid
  · intro fault after raised
    cases raised

theorem detectAsciiMode_envelope (detected : Bool) (handler : Tn3270Handler) :
    EnvelopeAt (KeepsScreen saved) Raised (detectAsciiMode detected) handler := by
  refine .getBind (.ite (fun _ => ?_) fun _ => .pure _)
  exact .bind (.modify id) fun _ _ => .pure _

theorem receivePart_envelope (part : List UInt8) (handler : Tn3270Handler) :
    EnvelopeAt (KeepsScreen saved) Raised (receivePart collaborators.withVt100 part)
      handler := by
  refine .bind (processTelnetStream_envelope part handler) fun taken after => .getBind ?_
  refine .ite (fun _ => .pure _) fun _ => ?_
  refine .bind (detectAsciiMode_envelope _ after) fun asciiMode after => ?_
  refine .ite (fun _ => handleAsciiMode_envelope _ after) fun _ => ?_
  refine .bind (handleTn3270Mode_envelope _ after) fun result after => ?_
  exact .ite (fun _ => .pure _) fun _ => .pure _

theorem receiveReads_envelope (reads : List (List UInt8)) (handler : Tn3270Handler) :
    EnvelopeAt (KeepsScreen saved) Raised (receiveReads collaborators.withVt100 reads)
      handler := by
  induction reads generalizing handler with
  | nil => exact .throw (.inl rfl)
  | cons part reads ih =>
      refine .ite (fun _ => .throw (.inr (.inl rfl))) fun _ => ?_
      refine .bind (receivePart_envelope part handler) fun result after => ?_
      cases result with
      | some payload => exact .pure _
      | none => exact ih after

theorem receiveData_envelope (reads : List (List UInt8)) (handler : Tn3270Handler) :
    EnvelopeAt (KeepsScreen saved) Raised (receiveData collaborators.withVt100 reads)
      handler := by
  refine .getBind (.ite (fun _ => receiveReads_envelope reads handler) fun _ => ?_)
  refine .bind (.modify id) fun _ after => ?_
  refine .bind (receivePart_envelope _ after) fun result after => ?_
  cases result with
  | some payload => exact .pure _
  | none => exact receiveReads_envelope reads after

/-- One call of `receive_data` for each attempt, with what arrives while it lasts.
Another attempt is made after a timeout only; without any the data is empty. -/
def receiveAttempts (collaborators : Collaborators) :
    List (List (List UInt8)) → HandlerM (List UInt8)
  | [] => return []
  | reads :: attempts =>
      tryCatch (Prod.fst <$> receiveData collaborators reads) fun fault =>
        if fault = timedOut then receiveAttempts collaborators attempts else throw fault

/-- `AsyncSession.read`, with its three attempts.  What comes back is parsed as 3270
data once more, and the errors of that parse are ignored. -/
def readThrough (collaborators : Collaborators) (first second third : List (List UInt8)) :
    HandlerM (List UInt8) := do
  let data ← receiveAttempts collaborators [first, second, third]
  tryCatch (callParse data Tn3270eHeader.tn3270Data) fun _ => pure ()
  return data

/-- What a read may raise: the attempts have used up the timeouts. -/
def ReadRaises (fault : Fault) : Prop :=
  fault = connectionClosed ∨ fault = Session.negativeResponse ∨ FromParser fault

theorem receiveAttempts_envelope (attempts : List (List (List UInt8)))
    (handler : Tn3270Handler) :
    EnvelopeAt (KeepsScreen saved) ReadRaises
      (receiveAttempts collaborators.withVt100 attempts) handler := by
  induction attempts generalizing handler with
  | nil => exact .pure []
  | cons reads attempts ih =>
      have body : EnvelopeAt (KeepsScreen saved) Raised
          (Prod.fst <$> receiveData collaborators.withVt100 reads) handler :=
        .bind (receiveData_envelope reads handler) fun _ _ => .pure _
      refine body.tryCatch fun fault after raised => ?_
      by_cases again : fault = timedOut
      · rw [if_pos again]
        exact ih after
      · rw [if_neg again]
        exact .throw (raised.resolve_left again)

theorem readThrough_envelope (first second third : List (List UInt8))
    (handler : Tn3270Handler) :
    EnvelopeAt (KeepsScreen saved) ReadRaises
      (readThrough collaborators.withVt100 first second third) handler := by
  refine .bind (receiveAttempts_envelope _ handler) fun data after => ?_
  refine .bind ?_ fun _ _ => .pure _
  exact (callParse_envelope data _ after).tryCatch fun _ _ _ => .pure ()

end Tn3270Handler

theorem AsyncSession.press_size (session : AsyncSession) (key : Keystroke) :
    (session.press key).screenBuffer.rows = session.screenBuffer.rows ∧
      (session.press key).screenBuffer.cols = session.screenBuffer.cols := by
  cases key with
  | char ch =>
      have frame := session.screenBuffer.insertChar_frame ch session.insertMode
        session.circumventProtection session.screenBuffer.getPosition
      exact ⟨frame.rows, frame.cols⟩
  | deleteField =>
      show session.screenBuffer.deleteField.rows = _ ∧
        session.screenBuffer.deleteField.cols = _
      unfold ScreenBuffer.deleteField
      split
      · exact ⟨rfl, rfl⟩
      · exact ⟨rfl, rfl⟩
  | backSpace => exact ⟨rfl, rfl⟩
  | delete => exact ⟨rfl, rfl⟩
  | eraseEof => exact ⟨rfl, rfl⟩
  | eraseInput => exact ⟨rfl, rfl⟩
  | moveCursor row col => exact ⟨rfl, rfl⟩
  | insert => exact ⟨rfl, rfl⟩
  | circumNot => exact ⟨rfl, rfl⟩

theorem ScreenBuffer.selectLightPen_size (screen : ScreenBuffer) (row col : Nat) :
    (screen.selectLightPen row col).1.rows = screen.rows ∧
      (screen.selectLightPen row col).1.cols = screen.cols := by
  unfold ScreenBuffer.selectLightPen
  dsimp only
  split
  · exact ⟨rfl, rfl⟩
  · split
    · exact ⟨rfl, rfl⟩
    · exact ⟨rfl, rfl⟩

/-- What happens to a connected session.  Elsewhere anything may change but the screen. -/
inductive OnlineEvent where
  | operation (op : UserOperation)
  | read (first second third : List (List UInt8))
  | elsewhere (sender : DataSender)

namespace OnlineSession

variable {pages : Ebcdic.Codepages} {collaborators : Collaborators}

/-- A read leaves the session as it is when it ends, with an exception or not. -/
def read (collaborators : Collaborators) (first second third : List (List UInt8))
    (online : OnlineSession) : OnlineSession :=
  { online with
    sender :=
      { online.sender with
        handler := finalState
          (Tn3270Handler.readThrough collaborators first second third
            online.sender.handler) } }

def sessionStep (pages : Ebcdic.Codepages) (collaborators : Collaborators) :
    OnlineEvent → OnlineSession → OnlineSession
  | .operation op, online => online.operate pages op
  | .read first second third, online => online.read collaborators first second third
  | .elsewhere sender, online =>
      let parser := { sender.handler.parser with screen := online.screen }
      { online with sender := sender.withParser parser }

theorem operate_size {online : OnlineSession} (valid : online.screen.Valid)
    (op : UserOperation) :
    (online.operate pages op).screen.rows = online.screen.rows ∧
      (online.operate pages op).screen.cols = online.screen.cols := by
  have submits : ∀ (after : OnlineSession) (aid : UInt8),
      (after.submit aid).screen.rows = after.screen.rows ∧
        (after.submit aid).screen.cols = after.screen.cols := by
    intro after aid
    rw [submit_screen]
    exact ⟨rfl, rfl⟩
  have here : online.session.screenBuffer.Valid := valid
  cases op with
  | key keyname =>
      show (online.key pages keyname).screen.rows = _ ∧ (online.key pages keyname).screen.cols = _
      unfold key
      split
      · rename_i f found
        rcases AsyncSession.localKeys_spec found here with ⟨_, rfl⟩ | ⟨_, row, col, _, _, moved⟩
        · exact online.session.press_size .backSpace
        · rw [edit_screen, moved]
          exact ⟨rfl, rfl⟩
      · split
        · split
          · rw [sendData_screen]
            exact ⟨rfl, rfl⟩
          · exact submits online _
        · exact submits online _
  | press key => exact online.session.press_size key
  | clear => exact ⟨rfl, rfl⟩
  | submit aid => exact submits online aid
  | selectLightPen row col =>
      have selected := online.screen.selectLightPen_size row col
      show (online.selectLightPen row col).screen.rows = _ ∧
        (online.selectLightPen row col).screen.cols = _
      unfold selectLightPen
      dsimp only
      split
      · exact ⟨(submits _ _).1.trans selected.1, (submits _ _).2.trans selected.2⟩
      · exact selected

theorem sessionStep_keeps {saved : ScreenBuffer} {online : OnlineSession}
    (event : OnlineEvent) (valid : ValidLike saved online.screen) :
    ValidLike saved (sessionStep pages collaborators.withVt100 event online).screen := by
  cases event with
  | operation op =>
      have size : (online.operate pages op).screen.rows = online.screen.rows ∧
          (online.operate pages op).screen.cols = online.screen.cols :=
        operate_size valid.1 op
      exact ⟨operate_valid valid.1 op, size.1.trans valid.2.1, size.2.trans valid.2.2⟩
  | read first second third =>
      exact (Tn3270Handler.readThrough_envelope first second third
        online.sender.handler).within valid
  | elsewhere sender => exact valid

/-- A negotiator that does nothing. -/
def idleNegotiator : Collaborators where
  vt100Parse _ screen := screen
  handleIacCommand _ _ session := session
  handleSubnegotiation _ _ session := session

end OnlineSession

end Pure3270
