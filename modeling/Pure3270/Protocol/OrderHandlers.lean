import Pure3270.Protocol.ParserState

/-!
# Order handlers

One computation for each order of a write data stream.  The reader stands on
the first operand byte when a handler runs.  Orders that carry an address
decode it in the same way and turn it into a position on the screen.
-/

namespace Pure3270

open Foundations

namespace ScreenBuffer

/-- Store a byte at the cursor and move on; at the last position the row is
kept and the column goes back to zero. -/
def insertByte (byte : UInt8) (screen : ScreenBuffer) : ScreenBuffer :=
  let stored := { screen with
    buffer := screen.buffer.set screen.cursorAddress byte }
  let col := screen.cursorCol + 1
  if screen.cols ≤ col then
    let row := screen.cursorRow + 1
    stored.setPosition (if screen.rows ≤ row then screen.rows - 1 else row) 0
  else stored.setPosition screen.cursorRow col

/-- The position an address names, moved onto the screen. -/
def targetOf (address : Nat) (mode : AddressingMode) (screen : ScreenBuffer) :
    Option (Nat × Nat) :=
  (AddressCalculator.addressToCoords (AddressCalculator.clampAddress address mode)
    screen.cols mode).map fun coords =>
      (min coords.1 (screen.rows - 1), min coords.2 (screen.cols - 1))

/-- How many cells lie from the cursor up to a target, wrapping at the end of
the screen. -/
def cellsUpTo (target : Nat × Nat) (screen : ScreenBuffer) : Nat :=
  let currentPos := screen.cursorAddress
  let targetPos := target.1 * screen.cols + target.2
  if currentPos ≤ targetPos then targetPos - currentPos
  else screen.rows * screen.cols - currentPos + targetPos

/-- The position after another one, the last being followed by the first. -/
def nextCell (position : Nat × Nat) (screen : ScreenBuffer) : Nat × Nat :=
  if screen.cols ≤ position.2 + 1 then
    (if screen.rows ≤ position.1 + 1 then 0 else position.1 + 1, 0)
  else (position.1, position.2 + 1)

/-- One cell of an erase: cells of protected fields are passed over. -/
def eraseUnprotectedCell (position : Nat × Nat) (screen : ScreenBuffer) :
    ScreenBuffer :=
  match screen.getFieldAtPosition position.1 position.2 with
  | some field =>
      if field.isProtected then screen
      else screen.writeChar 0x40 (some position) false true false
  | none => screen.writeChar 0x40 (some position) false true false

def eraseUnprotected : Nat → Nat × Nat → ScreenBuffer → ScreenBuffer
  | 0, _, screen => screen
  | count + 1, position, screen =>
      let erased := screen.eraseUnprotectedCell position
      eraseUnprotected count (erased.nextCell position) erased

/-- One attribute pair of SFE: the base attribute or an extended one. -/
def applySfePair (attrType attrValue : UInt8) (screen : ScreenBuffer) :
    ScreenBuffer :=
  if attrType = 0xC0 then screen.setAttribute attrValue none
  else if attrType ∈ [0x41, 0x42, 0x43, 0x44, 0x45, 0xC1, 0xC2] then
    screen.setExtendedAttributeSfe attrType attrValue none
  else screen

def fillSpaces (screen : ScreenBuffer) : ScreenBuffer :=
  { screen with buffer := List.replicate screen.buffer.length 0x40 }

end ScreenBuffer

namespace DataStreamParser

def insertData (byte : UInt8) : ParserM Unit := do
  if byte = 0x00 then return
  let parser ← get
  let screen := parser.screen
  if screen.cursorRow < screen.rows ∧ screen.cursorCol < screen.cols then
    if screen.cursorAddress < screen.rows * screen.cols then
      modifyScreen (·.insertByte byte)
    else throw (.parseError "Buffer overflow")
  else
    throw (.parseError
      s!"Position out of bounds: ({screen.cursorRow}, {screen.cursorCol})")

/-- The two address bytes of SBA, RA and EUA. -/
def readAddress : ParserM Nat := do
  let high ← readByte
  let low ← readByte
  let parser ← get
  return decodeAddress parser.addressingMode high low

def handleSba : ParserM Unit := do
  let parser ← get
  if parser.remaining < 2 then
    throw (.parseError
      s!"Incomplete SBA order: need 2 address bytes, have {parser.remaining}")
  let address ← readAddress
  let parser ← get
  match parser.screen.targetOf address parser.addressingMode with
  | none => return
  | some (row, col) =>
      modifyScreen (·.setPosition row col)
      mirrorPos

def handleSf : ParserM Unit := do
  validateMinData "SF" 1
  let attr ← readByteSafe "SF"
  let parser ← get
  let (row, col) := parser.screen.getPosition
  let pos := row * parser.screen.cols + col
  modifyScreen (·.setAttribute attr none)
  modifyScreen fun screen =>
    { screen with fieldStarts := screen.fieldStarts.insert pos }
  modify fun parser => { parser with lastFieldStartPos := some pos }
  modifyScreen (·.setPosition row (col + 1))
  mirrorPos

/-- The attribute pairs of MF: as many as the rest of the record holds. -/
def modifyFieldPairs (target : Nat × Nat) : Nat → ParserM Unit
  | 0 => return
  | fuel + 1 => do
      let parser ← get
      if parser.data.length ≤ parser.pos + 1 then return
      let attrType ← readByte
      let attrValue ← readByte
      modifyScreen (·.setExtendedAttributeSfe attrType attrValue (some target))
      modifyFieldPairs target fuel

def handleMf : ParserM Unit := do
  validateMinData "MF" 2
  let parser ← get
  modifyFieldPairs parser.resolveFieldStartPosition parser.data.length

def handleRa : ParserM Unit := do
  validateMinData "RA" 3
  let before ← get
  let address ← readAddress
  let charToRepeat ← readByteSafe "RA"
  match before.screen.targetOf address before.addressingMode with
  | none => return
  | some target =>
      times (before.screen.cellsUpTo target) (insertData charToRepeat)
      modifyScreen (·.setPosition target.1 target.2)

def handleEua : ParserM Unit := do
  validateMinData "EUA" 2
  let before ← get
  let address ← readAddress
  match before.screen.targetOf address before.addressingMode with
  | none => return
  | some target =>
      modifyScreen fun screen =>
        screen.eraseUnprotected (before.screen.cellsUpTo target)
          before.screen.getPosition
      modifyScreen (·.setPosition target.1 target.2)

/-- The byte a graphic escape stores: the first byte of the UTF-8 form of the
character that the escape table gives, or the byte itself. -/
def geCharByte (graphicByte : UInt8) : UInt8 :=
  if graphicByte = 0x47 ∨ graphicByte = 0x48 then 0xC3
  else if 0x40 ≤ graphicByte ∧ graphicByte ≤ 0x7F then 0xE2
  else if graphicByte = 0x0B then 0xE2
  else if graphicByte = 0x35 ∨ graphicByte = 0xB5 then 0xC2
  else graphicByte

def handleGe : ParserM Unit := do
  validateMinData "GE" 1
  let graphicByte ← readByte
  insertData (geCharByte graphicByte)

def handleIc : ParserM Unit :=
  modifyScreen (·.moveCursorToFirstInputField)

def handlePt : ParserM Unit :=
  modifyScreen (·.programTab)

/-- The control codes that are passed to the printer. -/
def isPrinterControl (code : UInt8) : Bool :=
  code ∈ [0x09, 0x0A, 0x0C, 0x0D, 0x0B, 0x84, 0x08, 0x0E, 0x0F]

def writeToPrinter (data : List UInt8) : ParserM Unit := do
  let parser ← get
  match parser.printer with
  | none => return
  | some printer =>
      call (.writeScsData data)
      match printer.writeScsDataRaises data with
      | none => return
      | some message => throw (.other message)

def handleScs : ParserM Unit := do
  let parser ← get
  if !parser.hasMore then throw (.parseError "Incomplete SCS order")
  let code ← readByte
  if isPrinterControl code then writeToPrinter [code]

/-- The pairs of an in-stream SFE order.  The answer says whether a base
attribute was among them; a truncated list just ends. -/
def readSfePairs : Nat → Bool → ParserM Bool
  | 0, baseAttrSet => return baseAttrSet
  | numPairs + 1, baseAttrSet => do
      let parser ← get
      if parser.remaining < 2 then return baseAttrSet
      let attrType ← withMessage (fun _ => "Incomplete SFE order attr_type") readByte
      let attrValue ← withMessage (fun _ => "Incomplete SFE order attr_value") readByte
      modifyScreen (·.applySfePair attrType attrValue)
      readSfePairs numPairs (baseAttrSet || attrType == 0xC0)

/-- SFE as an order: a pair count, then the pairs. -/
def handleSfe : ParserM Unit := do
  let before ← get
  let (row, col) := before.screen.getPosition
  if !before.hasMore then return
  let length ← withMessage (fun _ => "Incomplete SFE order length") readByte
  let baseAttrSet ← readSfePairs length.toNat false
  if baseAttrSet then modifyScreen (·.setPosition row (col + 1))

/-- SFE as the payload of a structured field: pairs to the end, no movement. -/
def handleSfePayload : List UInt8 → ParserM Unit
  | attrType :: attrValue :: rest => do
      modifyScreen (·.applySfePair attrType attrValue)
      handleSfePayload rest
  | _ => return

def handleSa : ParserM Unit := do
  let parser ← get
  if parser.remaining < 2 then throw (.parseError "Incomplete SA order")
  let attrType ← readByte
  let attrValue ← readByte
  let parser ← get
  modifyScreen
    (·.setExtendedAttributeSfe attrType attrValue (some parser.resolveFieldStartPosition))

def handleDataStreamCtl (ctlCode : UInt8) : ParserM Unit :=
  match ctlCode with
  | 0x03 => modifyScreen (·.setAsciiMode true)
  | 0x04 => modify fun parser => { parser with pendingRequest := true }
  | 0x05 => modify fun parser => { parser with bidPending := true }
  | 0x08 => modify fun parser =>
      { parser with
        cancelPending := true
        bidPending := false
        pendingRequest := false }
  | 0x09 => modify fun parser => { parser with signalData := some [0x6C] }
  | _ => return

/-- `0x40` is a space unless the next byte is the one recognised control
code. -/
def handleDataStreamCtlOrder : ParserM Unit := do
  let parser ← get
  match parser.data[parser.parserPos]? with
  | none => insertData 0x40
  | some nextByte =>
      if nextByte = 0x01 then
        let ctl ← parserReadByte
        handleDataStreamCtl ctl
      else insertData 0x40

/-- The two bytes of a big-endian number. -/
def u16 (high low : UInt8) : Nat := high.toNat <<< 8 ||| low.toNat

def parseSnaResponse (data : List UInt8) : SnaResponse :=
  match data with
  | [] => ⟨0, none, none, none⟩
  | [responseType] => ⟨responseType, none, none, none⟩
  | [responseType, flags] => ⟨responseType, some flags, none, none⟩
  | [responseType, flags, byte] => ⟨responseType, some flags, none, some [byte]⟩
  | responseType :: flags :: high :: low :: rest =>
      ⟨responseType, some flags, some (u16 high low),
        if rest = [] then none else some rest⟩

def handleBindSf : ParserM Unit := do
  let parser ← get
  if parser.hasNegotiator then call .handleBindImage

def handleSnaResponseSf (data : List UInt8) : ParserM Unit := do
  let parser ← get
  if parser.hasNegotiator then call (.handleSnaResponse (parseSnaResponse data))

def handlePrinterStatusSf (data : List UInt8) : ParserM Unit := do
  let parser ← get
  match data with
  | [] => return
  | statusCode :: _ =>
      if parser.printer.isSome then call (.updateStatus statusCode)

def handleIndfileSf (data : List UInt8) : ParserM Unit := do
  let parser ← get
  if data ≠ [] ∧ parser.hasIndFileHandler then call (.handleIncomingData data)

/-- The structured field handlers.  Those left out only write log messages. -/
def sfHandlers (sfType : UInt8) (data : List UInt8) : ParserM Unit :=
  match sfType with
  | 0x03 => handleBindSf
  | 0x28 => handleSfePayload data
  | 0x01 => handleSnaResponseSf data
  | 0x02 => handlePrinterStatusSf data
  | 0xD0 => handleIndfileSf data
  | _ => return

/-- Where a structured field that starts at `start` with its length bytes
ends: two length bytes when the first is zero, one otherwise. -/
def structuredFieldEnd (data : List UInt8) (start : Nat) : Nat :=
  let afterType := fun pos => if pos < data.length then pos + 1 else pos
  match data[start]?, data[start + 1]? with
  | some 0x00, some low =>
      let pos := afterType (start + 2)
      pos + min (data.length - pos) (u16 0x00 low - 1)
  | some length, _ =>
      let pos := afterType (start + 1)
      pos + min (data.length - pos) length.toNat
  | none, _ => start

def skipStructuredField : ParserM Unit :=
  modify fun parser =>
    let start :=
      if parser.data[parser.parserPos]? = some 0x88 then parser.parserPos + 1
      else parser.parserPos
    let finish := structuredFieldEnd parser.data start
    { parser with parserPos := finish, pos := finish }

/-- The field body: its type, then as many data bytes as announced and left. -/
def readStructuredFieldBody (length : Nat) : ParserM Unit := do
  match ← attempt readByte with
  | none => return
  | some sfType =>
      let parser ← get
      let dataLen := min (length - 1) parser.remaining
      set { parser with parserPos := parser.parserPos + dataLen }
      swallow (sfHandlers sfType ((parser.data.drop parser.parserPos).take dataLen))

/-- `_handle_structured_field_tolerant`. -/
def handleStructuredField : ParserM Unit := do
  let parser ← get
  if parser.data[parser.parserPos]? = some 0x88 then
    match ← attempt readByte with
    | none => return
    | some _ => readHeader
  else readHeader
where
  readHeader : ParserM Unit := do
    let parser ← get
    if parser.remaining < 3 then skipStructuredField
    else
      match ← attempt readByte with
      | none => skipStructuredField
      | some lengthHigh =>
          match ← attempt readByte with
          | none => skipStructuredField
          | some lengthLow =>
              let length := u16 lengthHigh lengthLow
              let parser ← get
              if parser.remaining + 1000 < length then skipStructuredField
              else if parser.remaining < 1 then skipStructuredField
              else readStructuredFieldBody length

def handleWccWithByte (wcc : UInt8) : ParserM Unit := do
  modify fun parser => { parser with wcc := some wcc }
  if wcc &&& 0x40 ≠ 0 then modifyScreen (·.setKeyboardLock false)
  modifyScreen (·.setPosition 0 0)

def handleWrite (clear : Bool) : ParserM Unit := do
  if clear then modifyScreen (·.clear)
  modifyScreen (·.setPosition 0 0)
  let parser ← get
  if clear && parser.data ≠ [] && parser.data.all (· = 0x40) then
    modifyScreen (·.fillSpaces)

/-- The in-stream orders; every other byte is data. -/
def orderHandlers (byte : UInt8) : Option (ParserM Unit) :=
  match byte with
  | 0x11 => some handleSba
  | 0x1D => some handleSf
  | 0x2C => some handleMf
  | 0x3C => some handleRa
  | 0x12 => some handleEua
  | 0x08 => some handleGe
  | 0x13 => some handleIc
  | 0x05 => some handlePt
  | 0x29 => some handleSfe
  | 0x28 => some handleSa
  | 0x88 => some handleStructuredField
  | 0x40 => some handleDataStreamCtlOrder
  | 0x04 => some handleScs
  | _ => none

end DataStreamParser

end Pure3270
