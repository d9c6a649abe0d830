import Pure3270.Emulation.Ebcdic
import Pure3270.Emulation.ScreenBuffer
import Pure3270.Protocol.DataStreamParser

/-!
# Further operations of the screen buffer

What the session and its users call besides the operations of the parser:
repeated and named attributes, whole data streams, the light pen, and reading
the modified fields.
-/

namespace Pure3270

open Foundations

namespace Field

/-- `_replace(selected=True)`. -/
def replaceSelected (field : Field) : Field :=
  init { field.toFieldParams with
    bypass := false
    hidden := false
    codepage := "cp037"
    selected := true }

/-- `get_content`: the content under the code page of the field. -/
def getContent (pages : Ebcdic.Codepages) (field : Field) : List Char :=
  Ebcdic.decode (pages.table field.codepage) field.content

end Field

namespace ScreenBuffer

/-- Start and text of the fields that are marked as modified. -/
def readModifiedFields (pages : Ebcdic.Codepages) (screen : ScreenBuffer) :
    List ((Nat × Nat) × List Char) :=
  (screen.fields.filter (·.modified)).map fun field =>
    (field.start, field.getContent pages)

/-- `reset_mdt_flags`: the loop over the fields is guarded by the presence of
an attribute `_fields`, which the buffer does not have. -/
def resetMdtFlags (screen : ScreenBuffer) : ScreenBuffer := screen

/-- `set_extended_attribute`.  The position becomes a field start.  Every name
without an attribute class is treated like the ones listed. -/
def setExtendedAttribute (row col : Nat) (attrType : AttributeType) (value : Nat)
    (screen : ScreenBuffer) : ScreenBuffer :=
  if row < screen.rows ∧ col < screen.cols then
    let set := (screen.extendedAttributes (row, col)).getD ExtendedAttributeSet.empty
    let marked := { screen with
      extendedAttributes := fun other =>
        if other = (row, col) then some (set.setAttribute attrType value)
        else screen.extendedAttributes other
      fieldStarts := screen.fieldStarts.insert (row * screen.cols + col) }
    if marked.suspendFieldDetection = 0 then marked.detectFields else marked
  else screen

/-- The loop of `repeat_attribute`. -/
def repeatCells (attr : UInt8) : Nat → ScreenBuffer → ScreenBuffer
  | 0, screen => screen
  | count + 1, screen =>
      repeatCells attr count ((screen.setAttribute attr none).advanceCursor 1)

def repeatAttribute (attr : UInt8) (count : Nat) (screen : ScreenBuffer) :
    ScreenBuffer :=
  (screen.beginBulkUpdate.repeatCells attr count).endBulkUpdate

/-- `select_light_pen`, with the AID it answers.  Fields are detected first, so
that the field found is one of the list; a question mark at the position turns
into a greater sign. -/
def selectLightPen (row col : Nat) (screen : ScreenBuffer) :
    ScreenBuffer × Option UInt8 :=
  let detected := screen.detectFields
  match detected.getFieldAtPosition row col with
  | none => (detected, none)
  | some field =>
      if field.lightPen ≠ 0 then
        let pos := row * detected.cols + col
        ({ detected with
            fields := detected.fields.replaceF fun other =>
              if other = field then some field.replaceSelected else none
            lightPenSelectedPosition := some (row, col)
            buffer :=
              if detected.buffer[pos]? = some 0x3F then
                detected.buffer.set pos 0x3E
              else detected.buffer },
          some 0x7D)
      else (detected, none)

/-- The bytes that `update_from_stream` takes for plain text. -/
def isSimpleByte (byte : UInt8) : Bool :=
  byte = 0 || (32 ≤ byte && byte ≤ 126) ||
    byte ∈ [0x40, 0xC1, 0xC2, 0xC3, 0xC4, 0xC5]

/-- One data byte of the fallback parser.  The row is not kept on the screen. -/
def fallbackData (byte : UInt8) (screen : ScreenBuffer) : ScreenBuffer :=
  if screen.cursorRow < screen.rows ∧ screen.cursorCol < screen.cols then
    let wraps := screen.cols ≤ screen.cursorCol + 1
    { screen with
      buffer := screen.buffer.set screen.cursorAddress byte
      cursorCol := if wraps then 0 else screen.cursorCol + 1
      cursorRow := if wraps then screen.cursorRow + 1 else screen.cursorRow }
  else screen

/-- `_parse_with_fallback`. -/
def parseWithFallback : List UInt8 → ScreenBuffer → ScreenBuffer
  | [], screen => screen
  | order :: rest, screen =>
      if order = 0x05 then
        match rest with
        | [] => screen
        | _ :: rest => parseWithFallback rest screen
      else if order = 0x11 then
        match rest with
        | high :: low :: rest =>
            let address := decodeAddress .mode12Bit high low
            parseWithFallback rest
              (screen.setPosition (address / screen.cols) (address % screen.cols))
        | rest => parseWithFallback rest screen
      else if order = 0x1D then
        match rest with
        | [] => screen
        | attr :: rest =>
            let started := screen.setAttribute attr none
            parseWithFallback rest { started with
              fieldStarts := started.fieldStarts.insert screen.cursorAddress }
      else if order = 0x0D then parseWithFallback rest screen
      else parseWithFallback rest (screen.fallbackData order)

/-- `update_from_stream`: text goes to the start of the buffer, anything else
through a parser of its own, with the fallback parser behind it. -/
def updateFromStream (data : List UInt8) (screen : ScreenBuffer) : ScreenBuffer :=
  if data = [] then screen
  else
    let cleared := { screen with fieldStarts := SortedSet.empty }
    let updated :=
      if data.all isSimpleByte ∧ data.length ≤ screen.size then
        { cleared with
          buffer := data ++ cleared.buffer.drop data.length
          fieldStarts := cleared.fieldStarts.insert 0 }
      else
        match DataStreamParser.parse data 0x00
          (DataStreamParser.init cleared none false .mode12Bit) with
        | .ok _ parser => parser.screen
        | .error _ parser => parser.screen.parseWithFallback data
    updated.detectFields

/-- A call of a public method that changes the buffer or its cursor. -/
inductive ScreenOperation where
  | writeChar (byte : UInt8) (position : Option (Nat × Nat))
      (isProtected circumventProtection markFieldStart : Bool)
  | setAttribute (attr : UInt8) (position : Option (Nat × Nat))
  | setExtendedAttribute (row col : Nat) (attrType : AttributeType) (value : Nat)
  | beginBulkUpdate
  | endBulkUpdate
  | selectLightPen (row col : Nat)
  | setPosition (row col : Nat)
  | moveCursorToFirstInputField
  | moveCursorToNextInputField
  deriving DecidableEq

def operate : ScreenOperation → ScreenBuffer → ScreenBuffer
  | .writeChar byte position isProtected circumventProtection markFieldStart =>
      writeChar byte position isProtected circumventProtection markFieldStart
  | .setAttribute attr position => setAttribute attr position
  | .setExtendedAttribute row col attrType value =>
      setExtendedAttribute row col attrType value
  | .beginBulkUpdate => beginBulkUpdate
  | .endBulkUpdate => endBulkUpdate
  | .selectLightPen row col => fun screen => (screen.selectLightPen row col).1
  | .setPosition row col => setPosition row col
  | .moveCursorToFirstInputField => moveCursorToFirstInputField
  | .moveCursorToNextInputField => moveCursorToNextInputField

end ScreenBuffer

end Pure3270
