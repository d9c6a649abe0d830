import Pure3270.Foundations.CellRuns
import Pure3270.Foundations.Runs
import Pure3270.Emulation.Ebcdic
import Pure3270.Emulation.FieldSpans
import Pure3270.Protocol.ParserSafety

/-!
# Local editing

The editing operations of a session that need no host.  Some of them go
through `write_char`, the others change the bytes of the buffer or the fields
of the list directly.
-/

namespace Pure3270

open Foundations

namespace Field

/-- `erase_input` on one field. -/
def eraseInput (field : Field) : Field :=
  if field.isProtected then { field with modified := false, ordered := field.ordered }
  else
    { field with
      content := List.replicate field.content.length 0x40
      modified := true
      ordered := field.ordered }

end Field

/-- The local state of a session. -/
structure AsyncSession where
  screenBuffer : ScreenBuffer
  insertMode : Bool
  circumventProtection : Bool

namespace ScreenBuffer

/-- Change the bytes alone. -/
def editBuffer (edit : List UInt8 → List UInt8) (screen : ScreenBuffer) :
    ScreenBuffer :=
  { screen with buffer := edit screen.buffer }

/-- The position before another one; the first one is its own. -/
def leftOf (position : Nat × Nat) (screen : ScreenBuffer) : Nat × Nat :=
  if 0 < position.2 then (position.1, position.2 - 1)
  else if 0 < position.1 then (position.1 - 1, screen.cols - 1)
  else position

/-- The position after another one; behind the last row comes the last row. -/
def rightOf (position : Nat × Nat) (screen : ScreenBuffer) : Nat × Nat :=
  if screen.cols ≤ position.2 + 1 then (min (screen.rows - 1) (position.1 + 1), 0)
  else (position.1, position.2 + 1)

/-- In insert mode the rest of the row moves right. -/
def makeRoom (insertMode : Bool) (position : Nat × Nat) (screen : ScreenBuffer) :
    ScreenBuffer :=
  if insertMode then
    screen.editBuffer
      (shiftUp (position.1 * screen.cols + position.2) (screen.cols - 1 - position.2))
  else screen

/-- One character of `insert_text`. -/
def insertChar (ch : Char) (insertMode circumventProtection : Bool)
    (position : Nat × Nat) (screen : ScreenBuffer) : ScreenBuffer :=
  let next := screen.rightOf position
  ((screen.makeRoom insertMode position).writeChar (Ebcdic.encodeChar ch)
    (some position) false circumventProtection false).setPosition next.1 next.2

/-- The loop of `insert_text`, with its own row and column. -/
def insertChars (insertMode circumventProtection : Bool) :
    List Char → Nat × Nat → ScreenBuffer → ScreenBuffer
  | [], _, screen => screen
  | ch :: text, position, screen =>
      insertChars insertMode circumventProtection text (screen.rightOf position)
        (screen.insertChar ch insertMode circumventProtection position)

/-- `key("BackSpace")`. -/
def backSpace (screen : ScreenBuffer) : ScreenBuffer :=
  let position := screen.leftOf screen.getPosition
  (screen.setPosition position.1 position.2).editBuffer
    (·.set (position.1 * screen.cols + position.2) 0x40)

/-- The rest of the row moves left, its last cell is erased. -/
def delete (screen : ScreenBuffer) : ScreenBuffer :=
  screen.editBuffer fun bytes =>
    (shiftDown screen.cursorAddress (screen.cols - 1 - screen.cursorCol) bytes).set
      (screen.cursorRow * screen.cols + (screen.cols - 1)) 0x40

/-- The cells from the cursor to the end of its row are erased. -/
def eraseEof (screen : ScreenBuffer) : ScreenBuffer :=
  screen.editBuffer
    (fillRun 0x40 screen.cursorAddress (screen.cols - screen.cursorCol))

def eraseInput (screen : ScreenBuffer) : ScreenBuffer :=
  { screen with fields := screen.fields.map Field.eraseInput }

/-- The cells of the field at the cursor, its attribute included, are erased. -/
def deleteField (screen : ScreenBuffer) : ScreenBuffer :=
  match screen.getFieldAtPosition screen.cursorRow screen.cursorCol with
  | none => screen
  | some field =>
      screen.editBuffer (fillRun 0x40 (field.startIndex screen.cols)
        (field.endIndex screen.cols + 1 - field.startIndex screen.cols))

end ScreenBuffer

namespace AsyncSession

def withScreen (f : ScreenBuffer → ScreenBuffer) (session : AsyncSession) :
    AsyncSession :=
  { session with screenBuffer := f session.screenBuffer }

def insertText (text : List Char) (session : AsyncSession) : AsyncSession :=
  session.withScreen fun screen =>
    screen.insertChars session.insertMode session.circumventProtection text
      screen.getPosition

end AsyncSession

/-- A keystroke of local editing: one character of a text, or an operation. -/
inductive Keystroke where
  | char (ch : Char)
  | backSpace
  | delete
  | eraseEof
  | eraseInput
  | deleteField
  | moveCursor (row col : Nat)
  | insert
  | circumNot
  deriving DecidableEq

namespace AsyncSession

def press : Keystroke → AsyncSession → AsyncSession
  | .char ch, session =>
      session.withScreen fun screen =>
        screen.insertChar ch session.insertMode session.circumventProtection
          screen.getPosition
  | .backSpace, session => session.withScreen (·.backSpace)
  | .delete, session => session.withScreen (·.delete)
  | .eraseEof, session => session.withScreen (·.eraseEof)
  | .eraseInput, session => session.withScreen (·.eraseInput)
  | .deleteField, session => session.withScreen (·.deleteField)
  | .moveCursor row col, session => session.withScreen (·.setPosition row col)
  | .insert, session => { session with insertMode := !session.insertMode }
  | .circumNot, session =>
      { session with circumventProtection := !session.circumventProtection }

end AsyncSession

namespace ScreenBuffer

theorem rightOf_inside {screen : ScreenBuffer} {position : Nat × Nat}
    (inside : position.1 < screen.rows ∧ position.2 < screen.cols) :
    (screen.rightOf position).1 < screen.rows ∧
      (screen.rightOf position).2 < screen.cols := by
  have rows_pos := screen.rows_pos
  have cols_pos := screen.cols_pos
  unfold rightOf
  split
  · exact ⟨by simp only; omega, cols_pos⟩
  · exact ⟨inside.1, by simp only; omega⟩

theorem leftOf_inside {screen : ScreenBuffer} {position : Nat × Nat}
    (inside : position.1 < screen.rows ∧ position.2 < screen.cols) :
    (screen.leftOf position).1 < screen.rows ∧
      (screen.leftOf position).2 < screen.cols := by
  have cols_pos := screen.cols_pos
  unfold leftOf
  split
  · exact ⟨inside.1, by simp only; omega⟩
  · split
    · exact ⟨by simp only; omega, by simp only; omega⟩
    · exact inside

theorem getPosition_setPosition {screen : ScreenBuffer} {row col : Nat}
    (rowInside : row < screen.rows) (colInside : col < screen.cols) :
    (screen.setPosition row col).getPosition = (row, col) := by
  have sameRow : min (screen.rows - 1) row = row := Nat.min_eq_right (by omega)
  have sameCol : min (screen.cols - 1) col = col := Nat.min_eq_right (by omega)
  unfold setPosition getPosition
  rw [sameRow, sameCol]

theorem Valid.editBuffer {screen : ScreenBuffer} (valid : screen.Valid)
    {edit : List UInt8 → List UInt8}
    (length : (edit screen.buffer).length = screen.buffer.length) :
    (screen.editBuffer edit).Valid :=
  { valid with buffer_length := length.trans valid.buffer_length }

theorem Valid.makeRoom {screen : ScreenBuffer} (valid : screen.Valid)
    (insertMode : Bool) (position : Nat × Nat) :
    (screen.makeRoom insertMode position).Valid := by
  unfold ScreenBuffer.makeRoom
  split
  · exact valid.editBuffer (length_shiftUp _ _ _)
  · exact valid

theorem makeRoom_frame (insertMode : Bool) (position : Nat × Nat)
    (screen : ScreenBuffer) : SameFrame screen (screen.makeRoom insertMode position) := by
  unfold makeRoom
  split
  · exact ⟨rfl, rfl, rfl, rfl, rfl, rfl, rfl, rfl⟩
  · exact refl_of SameFrame screen

theorem insertChar_frame (ch : Char) (insertMode circumventProtection : Bool)
    (position : Nat × Nat) (screen : ScreenBuffer) :
    SameFrame screen
      (screen.insertChar ch insertMode circumventProtection position) := by
  refine trans_of SameFrame (trans_of SameFrame
    (screen.makeRoom_frame insertMode position)
    (writeChar_frame (Ebcdic.encodeChar ch) (some position) false
      circumventProtection false _)) ?_
  exact ⟨rfl, rfl, rfl, rfl, rfl, rfl, rfl, rfl⟩

theorem Valid.insertChar {screen : ScreenBuffer} (valid : screen.Valid) (ch : Char)
    (insertMode circumventProtection : Bool) (position : Nat × Nat) :
    (screen.insertChar ch insertMode circumventProtection position).Valid :=
  ((valid.makeRoom insertMode position).writeChar _ _ _ _ _).setPosition _ _

theorem Valid.backSpace {screen : ScreenBuffer} (valid : screen.Valid) :
    screen.backSpace.Valid := by
  have moved := valid.setPosition (screen.leftOf screen.getPosition).1
    (screen.leftOf screen.getPosition).2
  unfold ScreenBuffer.backSpace
  exact moved.editBuffer (by rw [List.length_set])

theorem Valid.delete {screen : ScreenBuffer} (valid : screen.Valid) :
    screen.delete.Valid :=
  valid.editBuffer (by rw [List.length_set, length_shiftDown])

theorem Valid.deleteField {screen : ScreenBuffer} (valid : screen.Valid) :
    screen.deleteField.Valid := by
  unfold ScreenBuffer.deleteField
  split
  · exact valid
  · exact valid.editBuffer (length_fillRun _ _ _ _)

theorem inBounds_eraseInput {rows cols : Nat} {field : Field}
    (inside : field.InBounds rows cols) : field.eraseInput.InBounds rows cols := by
  unfold Field.eraseInput
  split <;> exact inside

theorem Valid.eraseInput {screen : ScreenBuffer} (valid : screen.Valid) :
    screen.eraseInput.Valid :=
  { valid with
    fields_inBounds := by
      intro field member
      obtain ⟨old, earlier, rfl⟩ := List.mem_map.mp member
      exact inBounds_eraseInput (valid.fields_inBounds old earlier) }

end ScreenBuffer

namespace AsyncSession

theorem press_valid {session : AsyncSession} (valid : session.screenBuffer.Valid)
    (key : Keystroke) : (session.press key).screenBuffer.Valid := by
  cases key with
  | char ch => exact valid.insertChar ch _ _ _
  | backSpace => exact valid.backSpace
  | delete => exact valid.delete
  | eraseEof => exact valid.editBuffer (length_fillRun _ _ _ _)
  | eraseInput => exact valid.eraseInput
  | deleteField => exact valid.deleteField
  | moveCursor row col => exact valid.setPosition row col
  | insert => exact valid
  | circumNot => exact valid

theorem insertChar_getPosition {screen : ScreenBuffer}
    (valid : screen.Valid) (ch : Char) (insertMode circumventProtection : Bool) :
    (screen.insertChar ch insertMode circumventProtection
      screen.getPosition).getPosition = screen.rightOf screen.getPosition := by
  have inside := @ScreenBuffer.rightOf_inside screen screen.getPosition
    ⟨valid.cursorRow_lt, valid.cursorCol_lt⟩
  have frame := screen.insertChar_frame ch insertMode circumventProtection
    screen.getPosition
  have rows := frame.rows
  have cols := frame.cols
  exact ScreenBuffer.getPosition_setPosition
    (lt_of_lt_of_eq inside.1 rows.symm) (lt_of_lt_of_eq inside.2 cols.symm)

/-- `insert_text` presses one key for each character. -/
theorem insertText_eq_run {session : AsyncSession}
    (valid : session.screenBuffer.Valid) (text : List Char) :
    session.insertText text = run press (text.map .char) session := by
  induction text generalizing session with
  | nil => rfl
  | cons ch text ih =>
      have moved := insertChar_getPosition valid ch session.insertMode
        session.circumventProtection
      rw [List.map_cons, run, ← ih (press_valid valid (.char ch))]
      unfold insertText withScreen
      simp only [press, withScreen, moved, ScreenBuffer.insertChars]

/-- The byte that a keystroke stores in a cell, if it stores any there. -/
def stores (key : Keystroke) (session : AsyncSession) (pos : Nat) : Option UInt8 :=
  let screen := session.screenBuffer
  let cursor := screen.cursorAddress
  let rowEnd := screen.cursorRow * screen.cols + screen.cols
  match key with
  | .char ch =>
      if pos = cursor then
        if screen.Accepts screen.cursorRow screen.cursorCol
            session.circumventProtection then
          some (Ebcdic.encodeChar ch)
        else none
      else if session.insertMode ∧ cursor < pos ∧ pos < rowEnd then
        screen.buffer[pos - 1]?
      else none
  | .backSpace =>
      let target := screen.leftOf screen.getPosition
      if pos = target.1 * screen.cols + target.2 then some 0x40 else none
  | .delete =>
      if cursor ≤ pos ∧ pos + 1 < rowEnd then screen.buffer[pos + 1]?
      else if pos + 1 = rowEnd then some 0x40
      else none
  | .eraseEof => if cursor ≤ pos ∧ pos < rowEnd then some 0x40 else none
  | .deleteField =>
      match screen.getFieldAtPosition screen.cursorRow screen.cursorCol with
      | none => none
      | some field =>
          if ScreenBuffer.containsIndex screen.cols pos field then some 0x40 else none
  | _ => none

end AsyncSession

namespace ScreenBuffer

variable {screen : ScreenBuffer} {pos : Nat}

theorem Valid.rowEnd_le (valid : screen.Valid) :
    screen.cursorRow * screen.cols + screen.cols ≤ screen.size := by
  have rows : (screen.cursorRow + 1) * screen.cols ≤ screen.rows * screen.cols :=
    Nat.mul_le_mul_right screen.cols valid.cursorRow_lt
  rw [Nat.add_mul, Nat.one_mul] at rows
  exact rows

section MakeRoom

variable {insertMode : Bool}

@[simp] theorem makeRoom_cols {position : Nat × Nat} :
    (screen.makeRoom insertMode position).cols = screen.cols :=
  (screen.makeRoom_frame insertMode position).cols

@[simp] theorem makeRoom_fields {position : Nat × Nat} :
    (screen.makeRoom insertMode position).fields = screen.fields := by
  cases insertMode <;> rfl

@[simp] theorem length_makeRoom {position : Nat × Nat} :
    (screen.makeRoom insertMode position).buffer.length = screen.buffer.length := by
  cases insertMode with
  | false => rfl
  | true => exact length_shiftUp _ _ _

theorem makeRoom_accepts {position : Nat × Nat} {row col : Nat}
    {circumventProtection : Bool} :
    (screen.makeRoom insertMode position).Accepts row col circumventProtection ↔
      screen.Accepts row col circumventProtection := by
  unfold Accepts
  rw [length_makeRoom]
  cases insertMode <;> rfl

theorem makeRoom_cell (valid : screen.Valid) :
    (screen.makeRoom insertMode screen.getPosition).buffer[pos]? =
      if insertMode ∧ screen.cursorAddress < pos ∧
          pos < screen.cursorRow * screen.cols + screen.cols then
        screen.buffer[pos - 1]?
      else screen.buffer[pos]? := by
  have inside := valid.rowEnd_le
  have length := valid.buffer_length
  have col := valid.cursorCol_lt
  have address : screen.cursorAddress =
    screen.cursorRow * screen.cols + screen.cursorCol := rfl
  cases insertMode with
  | false => simp [makeRoom]
  | true =>
      have moved := @getElem?_shiftUp _ screen.buffer screen.cursorAddress
        (screen.cols - 1 - screen.cursorCol) pos (by omega)
      refine moved.trans (if_congr ?_ rfl rfl)
      simp only [true_and]
      omega

end MakeRoom

theorem insertChar_buffer (ch : Char) (insertMode circumventProtection : Bool) :
    (screen.insertChar ch insertMode circumventProtection
        screen.getPosition).buffer =
      if screen.Accepts screen.cursorRow screen.cursorCol circumventProtection then
        (screen.makeRoom insertMode screen.getPosition).buffer.set
          screen.cursorAddress (Ebcdic.encodeChar ch)
      else (screen.makeRoom insertMode screen.getPosition).buffer := by
  have stored := writeChar_buffer (Ebcdic.encodeChar ch) (some screen.getPosition)
    false circumventProtection false (screen.makeRoom insertMode screen.getPosition)
  simp only [Option.getD_some, makeRoom_accepts, makeRoom_cols] at stored
  exact stored

theorem insertChar_cell (valid : screen.Valid) (ch : Char)
    (insertMode circumventProtection : Bool) :
    (screen.insertChar ch insertMode circumventProtection
        screen.getPosition).buffer[pos]? =
      (AsyncSession.stores (.char ch)
        ⟨screen, insertMode, circumventProtection⟩ pos).or screen.buffer[pos]? := by
  have inside : screen.cursorAddress < screen.buffer.length := by
    rw [valid.buffer_length]
    exact valid.cursorAddress_lt
  have rowEnd := valid.rowEnd_le
  rw [← valid.buffer_length] at rowEnd
  have room := @makeRoom_cell screen pos insertMode valid
  rw [insertChar_buffer]
  unfold AsyncSession.stores
  dsimp only
  by_cases here : pos = screen.cursorAddress
  · subst here
    rw [if_neg (by omega)] at room
    rw [if_pos rfl]
    by_cases accepted : screen.Accepts screen.cursorRow screen.cursorCol
        circumventProtection
    · rw [if_pos accepted, if_pos accepted, Option.some_or, List.getElem?_set_self]
      rw [length_makeRoom]
      exact inside
    · rw [if_neg accepted, if_neg accepted, room, Option.none_or]
  · rw [if_neg here]
    have unset : (if screen.Accepts screen.cursorRow screen.cursorCol
        circumventProtection then
          (screen.makeRoom insertMode screen.getPosition).buffer.set
            screen.cursorAddress (Ebcdic.encodeChar ch)
        else (screen.makeRoom insertMode screen.getPosition).buffer)[pos]? =
        (screen.makeRoom insertMode screen.getPosition).buffer[pos]? := by
      split
      · rw [List.getElem?_set_ne (Ne.symm here)]
      · rfl
    rw [unset, room]
    split
    · rename_i moved
      have below : pos - 1 < screen.buffer.length := by omega
      rw [List.getElem?_eq_getElem below, Option.some_or]
    · rw [Option.none_or]

theorem backSpace_cell (valid : screen.Valid) (insertMode circumventProtection : Bool) :
    screen.backSpace.buffer[pos]? =
      (AsyncSession.stores .backSpace
        ⟨screen, insertMode, circumventProtection⟩ pos).or screen.buffer[pos]? := by
  have target := @leftOf_inside screen screen.getPosition
    ⟨valid.cursorRow_lt, valid.cursorCol_lt⟩
  have below := address_lt target.1 target.2
  show (screen.buffer.set _ _)[pos]? = _
  unfold AsyncSession.stores
  dsimp only
  by_cases here : pos = (screen.leftOf screen.getPosition).1 * screen.cols +
      (screen.leftOf screen.getPosition).2
  · rw [if_pos here, here, Option.some_or, List.getElem?_set_self]
    rw [valid.buffer_length]
    exact below
  · rw [if_neg here, Option.none_or, List.getElem?_set_ne (Ne.symm here)]

theorem delete_cell (valid : screen.Valid) (insertMode circumventProtection : Bool) :
    screen.delete.buffer[pos]? =
      (AsyncSession.stores .delete
        ⟨screen, insertMode, circumventProtection⟩ pos).or screen.buffer[pos]? := by
  have rowEnd := valid.rowEnd_le
  rw [← valid.buffer_length] at rowEnd
  have col := valid.cursorCol_lt
  have address : screen.cursorAddress =
    screen.cursorRow * screen.cols + screen.cursorCol := rfl
  have moved := @getElem?_shiftDown _ screen.buffer screen.cursorAddress
    (screen.cols - 1 - screen.cursorCol) pos (by omega)
  show ((shiftDown screen.cursorAddress (screen.cols - 1 - screen.cursorCol)
    screen.buffer).set _ _)[pos]? = _
  unfold AsyncSession.stores
  dsimp only
  by_cases last : pos + 1 = screen.cursorRow * screen.cols + screen.cols
  · rw [if_neg (by omega), if_pos last, Option.some_or]
    have here : screen.cursorRow * screen.cols + (screen.cols - 1) = pos := by omega
    rw [here, List.getElem?_set_self]
    rw [length_shiftDown]
    omega
  · rw [List.getElem?_set_ne (by omega), moved]
    by_cases behind : screen.cursorAddress ≤ pos ∧
        pos + 1 < screen.cursorRow * screen.cols + screen.cols
    · have below : pos + 1 < screen.buffer.length := by omega
      rw [if_pos (by omega), if_pos behind, List.getElem?_eq_getElem below,
        Option.some_or]
    · rw [if_neg (by omega), if_neg behind, if_neg last, Option.none_or]

theorem fillRun_cell {first count : Nat} (inside : first + count ≤ screen.buffer.length) :
    (fillRun 0x40 first count screen.buffer)[pos]? =
      (if first ≤ pos ∧ pos < first + count then some 0x40 else none).or
        screen.buffer[pos]? := by
  rw [getElem?_fillRun inside]
  split <;> rfl

theorem eraseEof_cell (valid : screen.Valid) (insertMode circumventProtection : Bool) :
    screen.eraseEof.buffer[pos]? =
      (AsyncSession.stores .eraseEof
        ⟨screen, insertMode, circumventProtection⟩ pos).or screen.buffer[pos]? := by
  have rowEnd := valid.rowEnd_le
  rw [← valid.buffer_length] at rowEnd
  have col := valid.cursorCol_lt
  have address : screen.cursorAddress =
    screen.cursorRow * screen.cols + screen.cursorCol := rfl
  refine (fillRun_cell (by omega)).trans ?_
  unfold AsyncSession.stores
  dsimp only
  congr 1
  exact if_congr (by omega) rfl rfl

theorem deleteField_cell (valid : screen.Valid)
    (insertMode circumventProtection : Bool) :
    screen.deleteField.buffer[pos]? =
      (AsyncSession.stores .deleteField
        ⟨screen, insertMode, circumventProtection⟩ pos).or screen.buffer[pos]? := by
  unfold AsyncSession.stores
  dsimp only
  unfold deleteField
  cases found : screen.getFieldAtPosition screen.cursorRow screen.cursorCol with
  | none => rw [Option.none_or]
  | some field =>
      have inside := getFieldAtPosition_inBounds valid.sound found
      have ordered := Field.startIndex_le_endIndex inside
      have below : field.endIndex screen.cols < screen.size := Field.endIndex_lt inside
      rw [← valid.buffer_length] at below
      refine (fillRun_cell (by omega)).trans ?_
      congr 1
      refine if_congr ?_ rfl rfl
      simp only [containsIndex, Bool.and_eq_true, decide_eq_true_eq]
      omega

end ScreenBuffer

namespace AsyncSession

/-- The byte of a cell after a keystroke. -/
def byteAfter (key : Keystroke) (session : AsyncSession) (pos : Nat) : Option UInt8 :=
  (session.stores key pos).or session.screenBuffer.buffer[pos]?

/-- A keystroke stores what it stores and leaves the other cells alone. -/
theorem press_byteAfter {session : AsyncSession} (valid : session.screenBuffer.Valid)
    (key : Keystroke) (pos : Nat) :
    (session.press key).screenBuffer.buffer[pos]? = session.byteAfter key pos := by
  unfold byteAfter
  cases key with
  | char ch => exact ScreenBuffer.insertChar_cell valid ch _ _
  | backSpace => exact ScreenBuffer.backSpace_cell valid _ _
  | delete => exact ScreenBuffer.delete_cell valid _ _
  | eraseEof => exact ScreenBuffer.eraseEof_cell valid _ _
  | deleteField => exact ScreenBuffer.deleteField_cell valid _ _
  | eraseInput => rfl
  | moveCursor row col => rfl
  | insert => rfl
  | circumNot => rfl

theorem press_fieldStarts (session : AsyncSession) (key : Keystroke) :
    (session.press key).screenBuffer.fieldStarts =
      session.screenBuffer.fieldStarts := by
  cases key with
  | char ch =>
      show (ScreenBuffer.writeChar _ _ _ _ _ _).fieldStarts = _
      rw [ScreenBuffer.writeChar_fieldStarts, if_neg (by simp)]
      cases session.insertMode <;> rfl
  | deleteField =>
      show session.screenBuffer.deleteField.fieldStarts = _
      unfold ScreenBuffer.deleteField
      split <;> rfl
  | backSpace => rfl
  | delete => rfl
  | eraseEof => rfl
  | eraseInput => rfl
  | moveCursor row col => rfl
  | insert => rfl
  | circumNot => rfl

/-- A session on a small screen that the host has written a record to. -/
def afterRecord (record : List UInt8) : AsyncSession where
  screenBuffer :=
    (finalState (DataStreamParser.parse record 0x00
      (DataStreamParser.smallParser 0 0))).screen
  insertMode := false
  circumventProtection := false

theorem afterRecord_valid (record : List UInt8) :
    (afterRecord record).screenBuffer.Valid :=
  (DataStreamParser.parse_valid (DataStreamParser.smallParser_valid 0 0) record 0x00).2.1

/-- A protected field over two cells and an input field behind it. -/
def formRecord : List UInt8 :=
  [0xF5, 0xC3, 0x1D, 0x60, 0xC1, 0x1D, 0x00]

end AsyncSession

end Pure3270
