import Mathlib.Data.List.Basic
import Mathlib.Data.List.Sort
import Pure3270.Foundations.SortedSet
import Pure3270.Emulation.FieldAttributes

/-!
# The screen buffer

The state of a 3270 screen and the operations the data stream parser calls on
it.  Positions are pairs of a row and a column; the arrays are indexed by the
linear position `row * cols + col`, the attribute array with three bytes a
position.
-/

namespace Pure3270

open Foundations

/-- Tuple comparison of positions. -/
def Position.le (first second : Nat × Nat) : Prop :=
  first.1 < second.1 ∨ first.1 = second.1 ∧ first.2 ≤ second.2

instance (first second : Nat × Nat) : Decidable (Position.le first second) :=
  inferInstanceAs (Decidable (_ ∨ _))

theorem Position.le_total {first second : Nat × Nat}
    (notBelow : ¬ Position.le first second) : Position.le second first := by
  unfold Position.le at *
  omega

/-- The keyword arguments of the `Field` constructor with their defaults. -/
structure FieldParams where
  start : Nat × Nat
  finish : Nat × Nat
  isProtected : Bool := false
  numeric : Bool := false
  bypass : Bool := false
  hidden : Bool := false
  modified : Bool := false
  selected : Bool := false
  intensity : Nat := 0
  color : Nat := 0
  background : Nat := 0
  validation : Nat := 0
  outlining : Nat := 0
  characterSet : Nat := 0
  sfeHighlight : Nat := 0
  lightPen : Nat := 0
  content : List UInt8 := []
  codepage : String := "cp037"
  deriving DecidableEq

/-- A field of the screen; its start never lies after its end. -/
structure Field extends FieldParams where
  ordered : Position.le start finish
  deriving DecidableEq

namespace Field

/-- `Field.__init__`: a pair given in the wrong order is swapped. -/
def init (params : FieldParams) : Field :=
  if ordered : Position.le params.start params.finish then
    { params with ordered }
  else
    { params with
      start := params.finish
      finish := params.start
      ordered := Position.le_total ordered }

/-- `_replace(content=…, modified=True)`.  The parameters that `_replace` does
not copy fall back to their defaults. -/
def replaceContent (content : List UInt8) (field : Field) : Field :=
  init { field.toFieldParams with
    bypass := false
    hidden := false
    codepage := "cp037"
    modified := true
    content }

def startIndex (cols : Nat) (field : Field) : Nat :=
  field.start.1 * cols + field.start.2

def endIndex (cols : Nat) (field : Field) : Nat :=
  field.finish.1 * cols + field.finish.2

end Field

structure ScreenBuffer where
  rows : Nat
  cols : Nat
  rows_pos : 0 < rows
  cols_pos : 0 < cols
  codepage : String
  asciiMode : Bool
  buffer : List UInt8
  attributes : List UInt8
  extendedAttributes : Nat × Nat → Option ExtendedAttributeSet
  fields : List Field
  cursorRow : Nat
  cursorCol : Nat
  lightPenSelectedPosition : Option (Nat × Nat)
  suspendFieldDetection : Nat
  fieldStarts : SortedSet
  /-- Row and start column of the fields a VT100 parser registers. -/
  asciiFields : List (Nat × Nat)
  fieldPositionCache : Nat → Option Field
  inputFieldsCache : List Field
  navigationCacheValid : Bool
  keyboardLocked : Bool

namespace ScreenBuffer

def size (screen : ScreenBuffer) : Nat := screen.rows * screen.cols

def init (rows cols : Nat) (rows_pos : 0 < rows) (cols_pos : 0 < cols)
    (initValue : UInt8) (codepage : String) : ScreenBuffer where
  rows
  cols
  rows_pos
  cols_pos
  codepage
  asciiMode := false
  buffer := List.replicate (rows * cols) initValue
  attributes := List.replicate (rows * cols * 3) 0
  extendedAttributes := fun _ => none
  fields := []
  cursorRow := 0
  cursorCol := 0
  lightPenSelectedPosition := none
  suspendFieldDetection := 0
  fieldStarts := SortedSet.empty
  asciiFields := []
  fieldPositionCache := fun _ => none
  inputFieldsCache := []
  navigationCacheValid := false
  keyboardLocked := false

def setAsciiMode (asciiMode : Bool) (screen : ScreenBuffer) : ScreenBuffer :=
  { screen with asciiMode }

def setKeyboardLock (locked : Bool) (screen : ScreenBuffer) : ScreenBuffer :=
  { screen with keyboardLocked := locked }

def getPosition (screen : ScreenBuffer) : Nat × Nat :=
  (screen.cursorRow, screen.cursorCol)

/-- The linear address of the cursor. -/
def cursorAddress (screen : ScreenBuffer) : Nat :=
  screen.cursorRow * screen.cols + screen.cursorCol

/-- `set_position` in its default mode: a position outside is clamped, one
inside is its own clamp. -/
def setPosition (row col : Nat) (screen : ScreenBuffer) : ScreenBuffer :=
  { screen with
    cursorRow := min (screen.rows - 1) row
    cursorCol := min (screen.cols - 1) col }

def calculateCoords (index : Nat) (screen : ScreenBuffer) : Nat × Nat :=
  (index / screen.cols, index % screen.cols)

/-- `getattr(v, "value", 0)` applied to what `ExtendedAttributeSet.get`
returned: that is already an integer, which has no such attribute. -/
def valueAttribute (_ : Option Nat) : Nat := 0

/-- Intensity and light-pen flag in bits 3 and 2 of an attribute byte. -/
def decodeIntensity (basicAttr : UInt8) : Nat × Nat :=
  if (basicAttr &&& 0x0C) >>> 2 = 0 then (0, 0)
  else if (basicAttr &&& 0x0C) >>> 2 = 1 then (1, 1)
  else if (basicAttr &&& 0x0C) >>> 2 = 2 then (2, 1)
  else (3, 0)

/-- The flags an attribute byte gives the field it starts. -/
def decodeBasicAttr (basicAttr : UInt8) (params : FieldParams) : FieldParams :=
  { params with
    isProtected := basicAttr &&& 0x40 ≠ 0
    modified := basicAttr &&& 0x20 ≠ 0
    numeric := basicAttr &&& 0x20 ≠ 0
    intensity := (decodeIntensity basicAttr).1
    lightPen := (decodeIntensity basicAttr).2
    hidden := (decodeIntensity basicAttr).1 = 3
    bypass := basicAttr &&& 0x01 ≠ 0 }

/-- The values an attribute set gives the field at its position.  An empty set
is false and gives nothing. -/
def applyExtended (extended : Option ExtendedAttributeSet)
    (params : FieldParams) : FieldParams :=
  match extended with
  | none => params
  | some set =>
      if set.isEmpty then params
      else
        let sfeHighlight := valueAttribute (set.get .highlight)
        { params with
          color := valueAttribute (set.get .color)
          background := valueAttribute (set.get .background)
          sfeHighlight
          validation := valueAttribute (set.get .validation)
          outlining := valueAttribute (set.get .outlining)
          characterSet := valueAttribute (set.get .characterSet)
          lightPen := valueAttribute (set.get .lightPen)
          intensity := if sfeHighlight ≠ 0 then 1 else params.intensity }

/-- The bytes of the buffer from one index through another. -/
def slice (first last : Nat) (bytes : List UInt8) : List UInt8 :=
  (bytes.drop first).take (last + 1 - first)

def createFieldFromRange (startIdx endIdx : Nat) (screen : ScreenBuffer) :
    Option Field :=
  if endIdx < startIdx then none
  else
    let start := screen.calculateCoords startIdx
    let params : FieldParams := {
      start
      finish := screen.calculateCoords endIdx
      content := slice startIdx endIdx screen.buffer }
    let params :=
      match screen.attributes[startIdx * 3]? with
      | some basicAttr => decodeBasicAttr basicAttr params
      | none => params
    some (Field.init (applyExtended (screen.extendedAttributes start) params))

/-- The field list that detection computes from the field starts. -/
def detectedFields (screen : ScreenBuffer) : List Field :=
  (ranges (screen.size - 1) screen.fieldStarts.toList).filterMap
    fun range => screen.createFieldFromRange range.1 range.2

def containsIndex (cols pos : Nat) (field : Field) : Bool :=
  field.startIndex cols ≤ pos && pos ≤ field.endIndex cols

/-- Fields in the order of their start index; equal starts keep their order. -/
def sortByStart (cols : Nat) (fields : List Field) : List Field :=
  fields.insertionSort fun left right =>
    left.startIndex cols ≤ right.startIndex cols

/-- `_detect_fields` with `_build_field_caches`.  Of several fields over one
position the last one stays in the position cache.  Without field starts the
list and the caches are emptied and the validity flag keeps its value. -/
def detectFields (screen : ScreenBuffer) : ScreenBuffer :=
  { screen with
    fields := screen.detectedFields
    fieldPositionCache := fun pos =>
      screen.detectedFields.reverse.find? (containsIndex screen.cols pos)
    inputFieldsCache :=
      sortByStart screen.cols
        (screen.detectedFields.filter fun field => !field.isProtected)
    navigationCacheValid :=
      if screen.fieldStarts.toList = [] then screen.navigationCacheValid else true }

def beginBulkUpdate (screen : ScreenBuffer) : ScreenBuffer :=
  { screen with suspendFieldDetection := screen.suspendFieldDetection + 1 }

def endBulkUpdate (screen : ScreenBuffer) : ScreenBuffer :=
  let resumed := { screen with
    suspendFieldDetection := screen.suspendFieldDetection - 1 }
  if resumed.suspendFieldDetection = 0 then resumed.detectFields else resumed

/-- The byte an erased position holds. -/
def blank (screen : ScreenBuffer) : UInt8 :=
  if screen.asciiMode then 0x20 else 0x40

def clear (screen : ScreenBuffer) : ScreenBuffer :=
  (detectFields { screen with
    buffer := List.replicate screen.size screen.blank
    attributes := List.replicate screen.attributes.length 0
    extendedAttributes := fun _ => none
    fieldStarts := SortedSet.empty
    lightPenSelectedPosition := none
    fields := [] }).setPosition 0 0

/-- The position test of `_update_field_content`: any column of the rows a
field spans, the columns being compared for single-row fields only. -/
def coversPosition (row col : Nat) (field : Field) : Bool :=
  field.start.1 ≤ row && row ≤ field.finish.1 &&
    (field.start.1 ≠ field.finish.1 ||
      (field.start.2 ≤ col && col ≤ field.finish.2))

/-- The refreshed field, if the field covers the position. -/
def refreshField (row col : Nat) (screen : ScreenBuffer) (field : Field) :
    Option Field :=
  if coversPosition row col field then
    let startIdx := field.startIndex screen.cols
    let endIdx := min (field.endIndex screen.cols) (screen.size - 1)
    if endIdx < startIdx then none
    else some (field.replaceContent (slice startIdx endIdx screen.buffer))
  else none

/-- `_update_field_content`, with the answer whether a field was found. -/
def updateFieldContent (row col : Nat) (screen : ScreenBuffer) :
    ScreenBuffer × Bool :=
  if (screen.fields.findSome? (screen.refreshField row col)).isSome then
    ({ screen with fields := screen.fields.replaceF (screen.refreshField row col) },
      true)
  else (screen, false)

/-- How far writing at the position moves the cursor: two columns under a
double-byte character set. -/
def advanceAt (row col : Nat) (screen : ScreenBuffer) : Nat :=
  match screen.extendedAttributes (row, col) with
  | none => 1
  | some set =>
      match set.getAttribute .characterSet with
      | some (.object value) => if isDbcs value then 2 else 1
      | _ => 1

def advanceCursor (advance : Nat) (screen : ScreenBuffer) : ScreenBuffer :=
  let wraps := screen.cols ≤ screen.cursorCol + advance
  { screen with
    cursorCol := if wraps then 0 else screen.cursorCol + advance
    cursorRow :=
      if ¬ wraps then screen.cursorRow
      else if screen.rows ≤ screen.cursorRow + 1 then 0
      else screen.cursorRow + 1 }

/-- Store a byte and its attribute slot. -/
def storeChar (byte : UInt8) (pos : Nat) (isProtected : Bool)
    (screen : ScreenBuffer) : ScreenBuffer :=
  let existing := (screen.attributes[pos * 3]?).getD 0
  let flags := existing ||| (if isProtected then 0x40 else 0)
  { screen with
    buffer := screen.buffer.set pos byte
    attributes :=
      ((screen.attributes.set (pos * 3) flags).set (pos * 3 + 1) 0xF0).set
        (pos * 3 + 2) 0xF0 }

def isProtectedCell (pos : Nat) (screen : ScreenBuffer) : Bool :=
  (screen.attributes[pos * 3]?).getD 0 &&& 0x40 ≠ 0

/-- `write_char`.  An explicit position moves the cursor, the cursor position
does not. -/
def writeChar (byte : UInt8) (position : Option (Nat × Nat))
    (isProtected circumventProtection markFieldStart : Bool)
    (screen : ScreenBuffer) : ScreenBuffer :=
  let row := (position.getD screen.getPosition).1
  let col := (position.getD screen.getPosition).2
  let pos := row * screen.cols + col
  if ¬ (row < screen.rows ∧ col < screen.cols) then screen
  else if screen.buffer.length ≤ pos then screen
  else if screen.attributes.length ≤ pos * 3 + 2 then screen
  else if screen.isProtectedCell pos && !circumventProtection then screen
  else
    let stored := screen.storeChar byte pos isProtected
    let marked :=
      if markFieldStart then
        { stored with fieldStarts := stored.fieldStarts.insert pos }
      else stored
    let moved :=
      if position.isSome then marked.advanceCursor (marked.advanceAt row col)
      else marked
    match moved.updateFieldContent row col with
    | (updated, true) => { updated with navigationCacheValid := false }
    | (updated, false) =>
        if updated.suspendFieldDetection = 0 ∧ (col = 0 ∨ updated.fields = []) then
          updated.detectFields
        else updated

/-- Store an attribute byte and mark a field start. -/
def storeAttribute (attr : UInt8) (pos : Nat) (screen : ScreenBuffer) :
    ScreenBuffer :=
  { screen with
    buffer := screen.buffer.set pos attr
    attributes := screen.attributes.set (pos * 3) attr
    fieldStarts := screen.fieldStarts.insert pos
    navigationCacheValid := false }

/-- `set_attribute` at a position, by default the cursor. -/
def setAttribute (attr : UInt8) (position : Option (Nat × Nat))
    (screen : ScreenBuffer) : ScreenBuffer :=
  let target := position.getD screen.getPosition
  let pos := target.1 * screen.cols + target.2
  if pos < screen.size then
    if screen.suspendFieldDetection = 0 then
      (screen.storeAttribute attr pos).detectFields
    else screen.storeAttribute attr pos
  else screen

/-- `set_extended_attribute_sfe` at a position, by default the cursor.
Unknown types are ignored. -/
def setExtendedAttributeSfe (attrType attrValue : UInt8)
    (position : Option (Nat × Nat)) (screen : ScreenBuffer) : ScreenBuffer :=
  let target := position.getD screen.getPosition
  match attrMap attrType with
  | none => screen
  | some key =>
      let set := (screen.extendedAttributes target).getD ExtendedAttributeSet.empty
      { screen with
        extendedAttributes := fun other =>
          if other = target then some (set.setAttribute key attrValue.toNat)
          else screen.extendedAttributes other }

def getFieldAtPosition (row col : Nat) (screen : ScreenBuffer) : Option Field :=
  if row < screen.rows ∧ col < screen.cols then
    let pos := row * screen.cols + col
    let cached :=
      if screen.navigationCacheValid then screen.fieldPositionCache pos else none
    match cached with
    | some field => some field
    | none => screen.fields.find? (containsIndex screen.cols pos)
  else none

def moveCursorTo (position : Nat × Nat) (screen : ScreenBuffer) : ScreenBuffer :=
  { screen with cursorRow := position.1, cursorCol := position.2 }

def firstInputField (screen : ScreenBuffer) : Option Field :=
  match screen.navigationCacheValid, screen.inputFieldsCache with
  | true, field :: _ => some field
  | _, _ => screen.fields.find? fun field => !field.isProtected

def moveCursorToFirstInputField (screen : ScreenBuffer) : ScreenBuffer :=
  match screen.firstInputField with
  | some field => screen.moveCursorTo field.start
  | none => screen

def sortedAsciiFields (screen : ScreenBuffer) : List (Nat × Nat) :=
  screen.asciiFields.insertionSort fun left right =>
    left.1 * screen.cols + left.2 ≤ right.1 * screen.cols + right.2

/-- Where tabbing goes: the next unprotected field, else the next ASCII field,
else the first unprotected field, else the first ASCII field. -/
def nextInputPosition (screen : ScreenBuffer) : Option (Nat × Nat) :=
  let current := screen.cursorAddress
  let fields := sortByStart screen.cols screen.fields
  let nextField := fields.find? fun field =>
    !field.isProtected && current < field.startIndex screen.cols
  let nextAscii := screen.sortedAsciiFields.find? fun position =>
    current < position.1 * screen.cols + position.2
  let firstField := fields.find? fun field => !field.isProtected
  match nextField, nextAscii, firstField, screen.sortedAsciiFields with
  | some field, _, _, _ => some field.start
  | none, some position, _, _ => some position
  | none, none, some field, _ => some field.start
  | none, none, none, position :: _ => some position
  | none, none, none, [] => none

def moveCursorToNextInputField (screen : ScreenBuffer) : ScreenBuffer :=
  match screen.nextInputPosition with
  | some position => screen.moveCursorTo position
  | none => screen

def programTab (screen : ScreenBuffer) : ScreenBuffer :=
  screen.moveCursorToNextInputField

end ScreenBuffer

end Pure3270
