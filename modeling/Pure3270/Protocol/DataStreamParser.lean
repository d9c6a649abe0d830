import Mathlib.Data.List.Infix
import Pure3270.Protocol.OrderHandlers

/-!
# The data stream parser

A record that starts with a write command erases the screen, takes its write
control character and then runs orders and data in a loop.  An order that
raises is skipped, or aborts the record and brings a snapshot of the screen
back; which of the two is decided by the text of the error.
-/

namespace Pure3270

open Foundations

/-- What `_snapshot_screen` captures.  Attribute sets are kept in their
dictionary form, and one that has none is kept as an empty dictionary. -/
structure ScreenSnapshot where
  buffer : List UInt8
  attributes : List UInt8
  extended : Nat × Nat → Option (AttributeType → Option Nat)
  fieldStarts : SortedSet
  cursor : Nat × Nat
  asciiMode : Bool
  lightPen : Option (Nat × Nat)

namespace ScreenBuffer

def snapshot (screen : ScreenBuffer) : ScreenSnapshot where
  buffer := screen.buffer
  attributes := screen.attributes
  extended := fun key =>
    (screen.extendedAttributes key).map fun set =>
      set.toDict.getD fun _ => none
  fieldStarts := screen.fieldStarts
  cursor := screen.getPosition
  asciiMode := screen.asciiMode
  lightPen := screen.lightPenSelectedPosition

/-- `_restore_screen`.  Fields are detected again.  Every dictionary a
snapshot holds can be loaded, so the default is never used. -/
def restore (snapshot : ScreenSnapshot) (screen : ScreenBuffer) : ScreenBuffer :=
  detectFields { screen with
    buffer := if snapshot.buffer = [] then screen.buffer else snapshot.buffer
    attributes :=
      if snapshot.attributes = [] then screen.attributes else snapshot.attributes
    extendedAttributes := fun key =>
      (snapshot.extended key).map fun data =>
        (ExtendedAttributeSet.fromDict data).getD ExtendedAttributeSet.empty
    fieldStarts := snapshot.fieldStarts
    cursorRow := snapshot.cursor.1
    cursorCol := snapshot.cursor.2
    asciiMode := snapshot.asciiMode
    lightPenSelectedPosition := snapshot.lightPen }

end ScreenBuffer

/-- `part in text`. -/
def occursIn (part text : String) : Bool := part.toList <:+: text.toList

/-- Errors after which the record is rolled back and the error raised. -/
def isFatalError (errMsg : String) : Bool :=
  ["Incomplete WCC order", "Incomplete AID order",
    "Incomplete DATA_STREAM_CTL order"].any (occursIn · errMsg)

/-- Errors after which the record is rolled back without raising. -/
def isRollbackOnlyError (errMsg : String) : Bool :=
  ["Incomplete SA order", "Incomplete SBA order",
    "Incomplete EUA order"].any (occursIn · errMsg)

/-- Errors that leave `parse` as an exception once they reach its outer
handler. -/
def isCriticalError (errMsg : String) : Bool :=
  ["Incomplete WCC order", "Incomplete AID order",
    "Incomplete DATA_STREAM_CTL order", "Incomplete SA order",
    "Incomplete SBA order"].any (occursIn · errMsg)

/-- How the order loop was left. -/
inductive LoopExit where
  | finished
  | rolledBack
  deriving DecidableEq, Repr

/-- Which way `parse` returned.  `outOfFuel` stands for a loop that would not
end. -/
inductive ParseExit where
  | ignored
  | empty
  | missingWcc
  | finished
  | rolledBack
  | recovered
  | outOfFuel
  deriving DecidableEq, Repr

namespace DataStreamParser

def restoreScreen (snapshot : Option ScreenSnapshot) (errMsg : String) :
    ParserM Unit :=
  match snapshot with
  | none => return
  | some snapshot =>
      if occursIn "Incomplete" errMsg then modifyScreen (·.restore snapshot)
      else return

/-- One byte of the record: an order runs its handler, data is stored.  A null
is passed over and leaves the mirrored position behind. -/
def processByte : ParserM Unit := do
  let byte ← parserReadByte
  match orderHandlers byte with
  | some handler => do
      handler
      mirrorPos
  | none =>
      if byte = 0x00 then return
      else do
        insertData byte
        mirrorPos

/-- The position after an error that is skipped.  At the end of the data the
reader falls back to the mirrored position. -/
def skipOneByte : ParserM Unit :=
  modify fun parser =>
    let next :=
      if parser.parserPos < parser.data.length then parser.parserPos + 1
      else min (parser.pos + 1) parser.data.length
    { parser with parserPos := next, pos := next }

/-- The `except ParseError` clause of the loop. -/
def handleOrderError (snapshot : Option ScreenSnapshot) (fault : Fault) :
    ParserM (Option LoopExit) :=
  match fault with
  | .other text => throw (.other text)
  | .parseError errMsg =>
      if isFatalError errMsg then do
        restoreScreen snapshot errMsg
        moveToEnd
        throw (.parseError errMsg)
      else if isRollbackOnlyError errMsg then do
        restoreScreen snapshot errMsg
        moveToEnd
        return some .rolledBack
      else do
        skipOneByte
        return none

/-- One round of the loop; `none` asks for another one. -/
def parseRound (snapshot : Option ScreenSnapshot) :
    ParserM (Option LoopExit) := do
  let parser ← get
  if !parser.hasMore then return some .finished
  else
    tryCatch (do
        processByte
        return none)
      (handleOrderError snapshot)

/-- More rounds than any record of this length can take. -/
def roundLimit (length : Nat) : Nat := (length + 1) * (length + 1)

def parseLoop (snapshot : Option ScreenSnapshot) : ParserM ParseExit := do
  let parser ← get
  match ← iterate (parseRound snapshot) (roundLimit parser.data.length) with
  | none => return .outOfFuel
  | some .rolledBack => return .rolledBack
  | some .finished => do
      modify fun parser =>
        { parser with pos := max parser.pos parser.data.length }
      return .finished

def isWriteCommand (byte : UInt8) : Bool :=
  byte ∈ [0x01, 0xF1, 0x05]

def isEraseWriteCommand (byte : UInt8) : Bool :=
  byte ∈ [0xF5, 0x0D, 0x6E, 0x7E]

/-- The outer `except` clauses of `parse`. -/
def handleParseError (snapshot : Option ScreenSnapshot) (fault : Fault) :
    ParserM ParseExit :=
  match fault with
  | .parseError errorMsg => do
      restoreScreen snapshot errorMsg
      if isCriticalError errorMsg then do
        moveToEnd
        throw (.parseError errorMsg)
      else do
        skipOneByteOuter
        return .recovered
  | .other text => throw (.parseError s!"Parsing failed: {text}")
where
  skipOneByteOuter : ParserM Unit :=
    modify fun parser =>
      if parser.parserPos < parser.data.length then
        { parser with
          parserPos := parser.parserPos + 1
          pos := parser.parserPos + 1 }
      else { parser with pos := min (parser.pos + 1) parser.data.length }

/-- A record whose first byte is a write command, read by the reader. -/
def parseWrite (command : UInt8) (snapshot : ScreenSnapshot) :
    ParserM ParseExit := do
  handleWrite true
  let parser ← get
  if parser.hasMore then do
    let wcc ← parserReadByte
    handleWccWithByte wcc
    mirrorPos
    parseLoop (some snapshot)
  else if isWriteCommand command then return .missingWcc
  else throw (.parseError "Incomplete WCC order")

def parseRecord : ParserM ParseExit := do
  let parser ← get
  if !parser.hasMore then return .empty
  else do
    let firstByte ← parserReadByte
    if isWriteCommand firstByte || isEraseWriteCommand firstByte then
      tryCatch (parseWrite firstByte parser.screen.snapshot)
        (handleParseError (some parser.screen.snapshot))
    else
      tryCatch (do
          handleWccWithByte firstByte
          mirrorPos
          parseLoop none)
        (handleParseError none)

/-- The `finally` clause of `parse`. -/
def endBulkMode (bulkMode : Bool) : ParserM Unit :=
  if bulkMode then modifyScreen (·.endBulkUpdate) else pure ()

/-- A 3270 record with field detection suspended or not. -/
def parseTn3270 (bulkMode : Bool) : ParserM ParseExit := do
  modifyScreen (·.setAsciiMode false)
  modify fun parser => { parser with wcc := none, aid := none }
  modifyScreen (·.setPosition 0 0)
  if bulkMode then modifyScreen (·.beginBulkUpdate)
  let exit ← tryCatch parseRecord fun fault => do
    endBulkMode bulkMode
    throw fault
  endBulkMode bulkMode
  return exit

end DataStreamParser

namespace ScreenBuffer

/-- The rendering loop of NVT data with its own row and column. -/
def writeNvt : List UInt8 → Nat × Nat → ScreenBuffer → ScreenBuffer
  | [], position, screen => screen.setPosition position.1 position.2
  | byte :: rest, (row, col), screen =>
      if byte = 0x0A then
        writeNvt rest (min (row + 1) (screen.rows - 1), col) screen
      else if byte = 0x0D then writeNvt rest (row, 0) screen
      else
        let written := screen.writeChar byte (some (row, col)) false true false
        if written.cols ≤ col + 1 then
          writeNvt rest (min (row + 1) (written.rows - 1), 0) written
        else writeNvt rest (row, col + 1) written

def handleNvtData (data : List UInt8) (screen : ScreenBuffer) : ScreenBuffer :=
  if data = [] then screen
  else
    ((screen.setAsciiMode true).beginBulkUpdate.writeNvt data
      screen.getPosition).endBulkUpdate

end ScreenBuffer

namespace DataStreamParser

def handleRequest (data : List UInt8) : ParserM Unit := do
  let parser ← get
  match data with
  | [] => return
  | requestFlags :: _ =>
      if requestFlags &&& 0x01 ≠ 0 ∧ parser.printer.isSome then
        call (.updateStatus 0x00)

def bulkThreshold : Nat := 4096

/-- `parse`. -/
def parse (data : List UInt8) (dataType : UInt8) : ParserM ParseExit := do
  modify fun parser => { parser with data, parserPos := 0, pos := 0 }
  let parser ← get
  if dataType = 0x01 ∧ parser.printer.isSome then do
    swallow (writeToPrinter data)
    modify fun parser => { parser with pos := data.length }
    return .ignored
  else if dataType = 0x07 then return .ignored
  else if dataType = 0x08 then do
    if parser.printer.isSome then call .endJob
    return .ignored
  else if dataType = 0x03 then do
    handleBindSf
    return .ignored
  else if dataType = 0x09 then do
    handleSnaResponseSf data
    return .ignored
  else if dataType = 0x04 then return .ignored
  else if dataType = 0x05 then do
    modifyScreen (·.handleNvtData data)
    return .ignored
  else if dataType = 0x02 then return .ignored
  else if dataType = 0x06 then do
    handleRequest data
    return .ignored
  else parseTn3270 (bulkThreshold < data.length)

end DataStreamParser

end Pure3270
