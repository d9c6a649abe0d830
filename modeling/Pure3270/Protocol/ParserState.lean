import Pure3270.Foundations.MeasuredLoop
import Pure3270.Emulation.Addressing
import Pure3270.Emulation.ScreenBuffer

/-!
# The state of the data stream parser

A parse runs over one byte string with two positions: the position of the
byte reader and a mirror of it that most handlers keep up to date.  Handlers
are computations on the parser state that may raise; what they changed before
raising stays changed.
-/

namespace Pure3270

open Foundations

/-- What a handler can raise: the parser's own error or any other exception. -/
inductive Fault where
  | parseError (message : String)
  | other (message : String)
  deriving DecidableEq, Repr

structure SnaResponse where
  responseType : UInt8
  flags : Option UInt8
  senseCode : Option Nat
  data : Option (List UInt8)
  deriving DecidableEq, Repr

/-- Calls on the objects attached to the parser. -/
inductive CollaboratorCall where
  | handleBindImage
  | handleSnaResponse (response : SnaResponse)
  | handleIncomingData (data : List UInt8)
  | writeScsData (data : List UInt8)
  | updateStatus (statusCode : UInt8)
  | endJob
  deriving DecidableEq, Repr

/-- An attached printer buffer, reduced to whether writing raises. -/
structure PrinterBuffer where
  writeScsDataRaises : List UInt8 → Option String

structure DataStreamParser where
  screen : ScreenBuffer
  printer : Option PrinterBuffer
  hasNegotiator : Bool
  hasIndFileHandler : Bool
  addressingMode : AddressingMode
  wcc : Option UInt8
  aid : Option UInt8
  /-- The bytes of the current parse. -/
  data : List UInt8
  /-- The mirrored position `_pos`. -/
  pos : Nat
  /-- The position of the byte reader. -/
  parserPos : Nat
  pendingRequest : Bool
  bidPending : Bool
  cancelPending : Bool
  signalData : Option (List UInt8)
  lastFieldStartPos : Option Nat
  calls : List CollaboratorCall

abbrev ParserM := EStateM Fault DataStreamParser

namespace DataStreamParser

def init (screen : ScreenBuffer) (printer : Option PrinterBuffer)
    (hasNegotiator : Bool) (addressingMode : AddressingMode) :
    DataStreamParser where
  screen
  printer
  hasNegotiator
  hasIndFileHandler := false
  addressingMode
  wcc := none
  aid := none
  data := []
  pos := 0
  parserPos := 0
  pendingRequest := false
  bidPending := false
  cancelPending := false
  signalData := none
  lastFieldStartPos := none
  calls := []

def remaining (parser : DataStreamParser) : Nat :=
  parser.data.length - parser.parserPos

def hasMore (parser : DataStreamParser) : Bool :=
  parser.parserPos < parser.data.length

def modifyScreen (f : ScreenBuffer → ScreenBuffer) : ParserM Unit :=
  modify fun parser => { parser with screen := f parser.screen }

def call (made : CollaboratorCall) : ParserM Unit :=
  modify fun parser => { parser with calls := parser.calls ++ [made] }

/-- Copy the reader's position to the mirror. -/
def mirrorPos : ParserM Unit :=
  modify fun parser => { parser with pos := parser.parserPos }

def moveToEnd : ParserM Unit :=
  modify fun parser =>
    { parser with parserPos := parser.data.length, pos := parser.data.length }

/-- `BaseParser.read_byte`: the mirror is left alone. -/
def parserReadByte : ParserM UInt8 := do
  let parser ← get
  match parser.data[parser.parserPos]? with
  | none => throw (.parseError "Unexpected end of data stream")
  | some byte =>
      set { parser with parserPos := parser.parserPos + 1 }
      return byte

/-- `_read_byte`: the mirror follows the reader. -/
def readByte : ParserM UInt8 := do
  let parser ← get
  if parser.data.length ≤ parser.pos then throw (.parseError "Overflow")
  match parser.data[parser.parserPos]? with
  | none => throw (.parseError "Overflow")
  | some byte =>
      set { parser with
        parserPos := parser.parserPos + 1
        pos := parser.parserPos + 1 }
      return byte

/-- Run a read and replace the message of a parse error. -/
def withMessage (message : DataStreamParser → String) (m : ParserM α) :
    ParserM α :=
  tryCatch m fun fault =>
    match fault with
    | .parseError _ => do
        let parser ← get
        throw (.parseError (message parser))
    | .other text => throw (.other text)

def readByteSafe (operation : String) : ParserM UInt8 :=
  withMessage
    (fun parser => s!"Incomplete {operation} order at position {parser.pos}")
    readByte

/-- Run a read and turn a parse error into `none`. -/
def attempt (m : ParserM α) : ParserM (Option α) :=
  tryCatch (do
      let value ← m
      return some value)
    fun fault =>
      match fault with
      | .parseError _ => return none
      | .other text => throw (.other text)

/-- Run a handler and drop whatever it raises. -/
def swallow (m : ParserM Unit) : ParserM Unit :=
  tryCatch m fun _ => pure ()

def validateMinData (operation : String) (minBytes : Nat) : ParserM Unit := do
  let parser ← get
  if parser.remaining < minBytes then
    throw (.parseError
      s!"Incomplete {operation} order: need {minBytes} bytes, have {parser.remaining}")

/-- The position SA and MF apply to: the latest field start, or the cursor
before any field has been started. -/
def resolveFieldStartPosition (parser : DataStreamParser) : Nat × Nat :=
  match parser.lastFieldStartPos with
  | none => parser.screen.getPosition
  | some pos => (pos / parser.screen.cols, pos % parser.screen.cols)

end DataStreamParser

end Pure3270
