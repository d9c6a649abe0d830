import Mathlib.Data.Nat.ModEq
import Pure3270.Emulation.ExtendedPosition
import Pure3270.Emulation.FieldSpans
import Pure3270.Emulation.FieldWrites
import Pure3270.Emulation.Tabbing
import Pure3270.Foundations.Runs
import Pure3270.Protocol.HandlerSteps

/-!
# The extended screen buffer

A screen buffer with an addressing mode keeps a second cursor, as a position of that
mode.  Its own operations set both cursors; those it inherits know the cursor of the
screen alone.
-/

namespace Pure3270

open Foundations AddressCalculator

/-- The exceptions of a call. -/
inductive BufferError where
  | valueError (message : String)
  | indexError (message : String)
  deriving DecidableEq

/-- `ScreenBuffer.set_position` in all of its modes. -/
def ScreenBuffer.placeCursor (row col : Nat) (wrap strict : Bool) (screen : ScreenBuffer) :
    ScreenBuffer × Option BufferError :=
  let rows := screen.rows
  let cols := screen.cols
  if wrap then
    ({ screen with
        cursorRow := min (rows - 1) (if cols ≤ col then row + 1 else row)
        cursorCol := if cols ≤ col then 0 else col }, none)
  else if strict then
    if rows ≤ row ∨ cols ≤ col then
      (screen, some (.indexError
        s!"Position ({row}, {col}) is out of bounds for screen size ({rows}, {cols})"))
    else ({ screen with cursorRow := row, cursorCol := col }, none)
  else (screen.setPosition row col, none)

/-- A screen with a second cursor, whose mode is that of the buffer. -/
structure ExtendedScreenBuffer where
  screen : ScreenBuffer
  extendedCursor : ExtendedPosition

namespace ExtendedScreenBuffer

def addressingMode (buffer : ExtendedScreenBuffer) : AddressingMode :=
  buffer.extendedCursor.addressingMode

/-- The constructor, for a screen with cells.  It has no parameter for the code page. -/
def init (rows cols : Nat) (rows_pos : 0 < rows) (cols_pos : 0 < cols) (initValue : UInt8)
    (mode : AddressingMode) : Except String ExtendedScreenBuffer :=
  let totalPositions := rows * cols
  let maxPositions := getMaxPositions mode
  let modeValue := mode.value
  if validateAddress (totalPositions - 1) mode then do
    let extendedCursor ← ExtendedPosition.init 0 0 cols cols_pos mode
    .ok {
      screen := ScreenBuffer.init rows cols rows_pos cols_pos initValue "cp037"
      extendedCursor }
  else
    .error s!"Screen size {rows}x{cols} ({totalPositions} positions) exceeds {modeValue} addressing limits ({maxPositions} positions)"

def getPositionAddress (buffer : ExtendedScreenBuffer) : Nat :=
  buffer.extendedCursor.linearAddress

/-- What an inherited method does to the buffer. -/
def onScreen (f : ScreenBuffer → ScreenBuffer) (buffer : ExtendedScreenBuffer) :
    ExtendedScreenBuffer :=
  { buffer with screen := f buffer.screen }

/-- `set_position`.  The extended cursor is assigned before the position is checked against
the size of the screen. -/
def setPosition (row col : Int) (wrap strict : Bool) (buffer : ExtendedScreenBuffer) :
    ExtendedScreenBuffer × Option BufferError :=
  match ExtendedPosition.init row col buffer.screen.cols buffer.screen.cols_pos
      buffer.addressingMode with
  | .error message => (buffer, some (.valueError message))
  | .ok extendedCursor =>
      let (screen, failure) := buffer.screen.placeCursor row.toNat col.toNat wrap strict
      ({ screen, extendedCursor }, failure)

def setPositionFromAddress (address : Int) (buffer : ExtendedScreenBuffer) :
    ExtendedScreenBuffer × Option BufferError :=
  match buffer.extendedCursor.setFromAddress address with
  | .error message => (buffer, some (.valueError message))
  | .ok extendedCursor =>
      ({ screen := buffer.screen.setPosition extendedCursor.row extendedCursor.col
         extendedCursor }, none)

/-- The inherited `write_char`.  A position outside the screen is not written to. -/
def writeChar (byte : UInt8) (position : Option (Int × Int))
    (isProtected circumventProtection markFieldStart : Bool)
    (buffer : ExtendedScreenBuffer) : ExtendedScreenBuffer :=
  match position with
  | none =>
      buffer.onScreen
        (·.writeChar byte none isProtected circumventProtection markFieldStart)
  | some (row, col) =>
      if row < 0 ∨ col < 0 then buffer
      else
        buffer.onScreen (·.writeChar byte (some (row.toNat, col.toNat)) isProtected
          circumventProtection markFieldStart)

def writeCharAtAddress (byte : UInt8) (address : Int) (isProtected circumventProtection : Bool)
    (buffer : ExtendedScreenBuffer) : ExtendedScreenBuffer × Option BufferError :=
  let modeValue := buffer.addressingMode.value
  match integerToCoords address buffer.screen.cols buffer.addressingMode with
  | none => (buffer, some (.valueError s!"Invalid address {address} for {modeValue} mode"))
  | some (row, col) =>
      (buffer.writeChar byte (some (row, col)) isProtected circumventProtection false, none)

/-- `clear`, which ends with the `set_position` of this class. -/
def clear (buffer : ExtendedScreenBuffer) : ExtendedScreenBuffer :=
  (setPosition 0 0 false false (buffer.onScreen (·.clear))).1

end ExtendedScreenBuffer

/-- A call that may move a cursor. -/
inductive ExtendedOperation where
  | setPosition (row col : Int) (wrap strict : Bool)
  | setPositionFromAddress (address : Int)
  | writeChar (byte : UInt8) (position : Option (Int × Int))
      (isProtected circumventProtection markFieldStart : Bool)
  | writeCharAtAddress (byte : UInt8) (address : Int)
      (isProtected circumventProtection : Bool)
  | repeatAttribute (attr : UInt8) (count : Int)
  | tab
  | clear
  deriving DecidableEq

namespace ExtendedScreenBuffer

/-- The buffer after a call, and the exception that the call raises. -/
def operate : ExtendedOperation → ExtendedScreenBuffer →
    ExtendedScreenBuffer × Option BufferError
  | .setPosition row col wrap strict, buffer => buffer.setPosition row col wrap strict
  | .setPositionFromAddress address, buffer => buffer.setPositionFromAddress address
  | .writeChar byte position isProtected circumventProtection markFieldStart, buffer =>
      (buffer.writeChar byte position isProtected circumventProtection markFieldStart, none)
  | .writeCharAtAddress byte address isProtected circumventProtection, buffer =>
      buffer.writeCharAtAddress byte address isProtected circumventProtection
  | .repeatAttribute attr count, buffer =>
      (buffer.onScreen (·.repeatAttribute attr count.toNat), none)
  | .tab, buffer => (buffer.onScreen (·.programTab), none)
  | .clear, buffer => (buffer.clear, none)

def step (operation : ExtendedOperation) (buffer : ExtendedScreenBuffer) :
    ExtendedScreenBuffer :=
  (buffer.operate operation).1

/-- Both cursors are one, and so is the address that is asked for. -/
structure Synced (buffer : ExtendedScreenBuffer) : Prop where
  coordinates : buffer.extendedCursor.coordinates = buffer.screen.getPosition
  address : buffer.getPositionAddress = buffer.screen.cursorAddress

/-- A call that raises leaves both cursors as they were. -/
def Atomic (operation : ExtendedOperation) (buffer : ExtendedScreenBuffer) : Prop :=
  (buffer.operate operation).2 ≠ none →
    (buffer.step operation).extendedCursor = buffer.extendedCursor ∧
      (buffer.step operation).screen.getPosition = buffer.screen.getPosition

/-- An advance that ends where it began: the one row of the screen starts over. -/
def Circles (advance : Nat) (screen : ScreenBuffer) : Prop :=
  screen.rows = 1 ∧ screen.cursorCol = 0 ∧ screen.cols ≤ advance

/-- The write at a position stores nothing, or the cursor comes back. -/
def WritesInPlace (row col : Nat) (circumventProtection : Bool) (screen : ScreenBuffer) : Prop :=
  ¬ screen.Accepts row col circumventProtection ∨ Circles (screen.advanceAt row col) screen

/-- The calls that keep two equal cursors equal: a position is rejected by the addressing
mode or lies on the screen, and an inherited call leaves the cursor where it is. -/
def Harmless : ExtendedOperation → ExtendedScreenBuffer → Prop
  | .setPosition row col _ _, buffer =>
      (row < 0 ∨ col < 0) ∨
        getMaxPositions buffer.addressingMode ≤ row.toNat * buffer.screen.cols + col.toNat ∨
        (row.toNat < buffer.screen.rows ∧ col.toNat < buffer.screen.cols)
  | .setPositionFromAddress address, buffer =>
      address < 0 ∨ getMaxPositions buffer.addressingMode ≤ address.toNat ∨
        address.toNat < buffer.screen.size
  | .writeChar _ none _ _ _, _ => True
  | .writeChar _ (some (row, col)) _ circumventProtection _, buffer =>
      (row < 0 ∨ col < 0) ∨ WritesInPlace row.toNat col.toNat circumventProtection buffer.screen
  | .writeCharAtAddress _ address _ circumventProtection, buffer =>
      (address < 0 ∨ getMaxPositions buffer.addressingMode ≤ address.toNat) ∨
        WritesInPlace (address.toNat / buffer.screen.cols) (address.toNat % buffer.screen.cols)
          circumventProtection buffer.screen
  | .repeatAttribute _ count, buffer => buffer.screen.size ∣ count.toNat
  | .tab, buffer => buffer.screen.TabStays
  | .clear, _ => True

/-- What a buffer keeps from its construction on. -/
structure WellFormed (buffer : ExtendedScreenBuffer) : Prop where
  valid : buffer.screen.Valid
  cols : buffer.extendedCursor.cols = buffer.screen.cols
  fits : buffer.screen.size ≤ getMaxPositions buffer.addressingMode

end ExtendedScreenBuffer

namespace ScreenBuffer

theorem refreshFields_getPosition (row col : Nat) (screen : ScreenBuffer) :
    (screen.refreshFields row col).getPosition = screen.getPosition := by
  obtain ⟨_, _, _, _, same⟩ := refreshFields_lists row col screen
  rw [same]
  rfl

/-- A write at the cursor does not move it. -/
theorem writeChar_none_getPosition (byte : UInt8)
    (isProtected circumventProtection markFieldStart : Bool) (screen : ScreenBuffer) :
    (screen.writeChar byte none isProtected circumventProtection
      markFieldStart).getPosition = screen.getPosition := by
  rw [writeChar_eq]
  split
  · rw [refreshFields_getPosition]
    unfold typed
    simp only [Option.isSome_none, Bool.false_eq_true, if_false]
    split <;> rfl
  · rfl

theorem writeChar_some_getPosition (byte : UInt8) (row col : Nat)
    (isProtected circumventProtection markFieldStart : Bool) (screen : ScreenBuffer) :
    (screen.writeChar byte (some (row, col)) isProtected circumventProtection
      markFieldStart).getPosition =
      if screen.Accepts row col circumventProtection then
        (screen.advanceCursor (screen.advanceAt row col)).getPosition
      else screen.getPosition := by
  rw [writeChar_eq]
  dsimp only [Option.getD_some]
  split
  · rw [refreshFields_getPosition]
    unfold typed
    simp only [Option.isSome_some, if_true]
    split <;> rfl
  · rfl

theorem advanceAt_pos (row col : Nat) (screen : ScreenBuffer) : 0 < screen.advanceAt row col := by
  unfold advanceAt
  split
  · exact Nat.one_pos
  · split
    · split
      · exact Nat.two_pos
      · exact Nat.one_pos
    · exact Nat.one_pos

theorem advanceCursor_stays_iff {screen : ScreenBuffer} (valid : screen.Valid) {advance : Nat}
    (moves : 0 < advance) :
    (screen.advanceCursor advance).getPosition = screen.getPosition ↔
      ExtendedScreenBuffer.Circles advance screen := by
  have rows_pos := screen.rows_pos
  have row := valid.cursorRow_lt
  have col := valid.cursorCol_lt
  unfold ExtendedScreenBuffer.Circles getPosition advanceCursor
  rw [Prod.mk.injEq]
  dsimp only
  by_cases wraps : screen.cols ≤ screen.cursorCol + advance
  · rw [if_pos wraps, if_neg (not_not.mpr wraps)]
    split <;> omega
  · rw [if_neg wraps, if_pos wraps]
    omega

/-- One step goes to the next address, and from the last one to the first. -/
theorem advanceCursor_cursorAddress {screen : ScreenBuffer} (valid : screen.Valid) :
    (screen.advanceCursor 1).cursorAddress = (screen.cursorAddress + 1) % screen.size := by
  have row := valid.cursorRow_lt
  have col := valid.cursorCol_lt
  have inside := valid.cursorAddress_lt
  have rowEnd : (screen.cursorRow + 1) * screen.cols =
      screen.cursorRow * screen.cols + screen.cols := Nat.succ_mul ..
  unfold cursorAddress at inside ⊢
  unfold advanceCursor
  dsimp only
  by_cases wraps : screen.cols ≤ screen.cursorCol + 1
  · rw [if_pos wraps, if_neg (not_not.mpr wraps), Nat.add_zero]
    have atEnd : screen.cursorRow * screen.cols + screen.cursorCol + 1 =
        (screen.cursorRow + 1) * screen.cols := by omega
    rw [atEnd]
    split
    · rename_i last
      have whole : screen.size = (screen.cursorRow + 1) * screen.cols :=
        congrArg (· * screen.cols) (by omega)
      rw [whole, Nat.mod_self, Nat.zero_mul]
    · rename_i below
      exact (Nat.mod_eq_of_lt (Nat.mul_lt_mul_of_pos_right (by omega) screen.cols_pos)).symm
  · rw [if_neg wraps, if_pos wraps]
    have below := address_lt row (Nat.lt_of_not_le wraps)
    rw [Nat.add_assoc]
    exact (Nat.mod_eq_of_lt below).symm

theorem setAttribute_getPosition (attr : UInt8) (position : Option (Nat × Nat))
    (screen : ScreenBuffer) :
    (screen.setAttribute attr position).getPosition = screen.getPosition := by
  unfold setAttribute
  dsimp only
  split
  · split <;> rfl
  · rfl

theorem setAttribute_cols (attr : UInt8) (position : Option (Nat × Nat))
    (screen : ScreenBuffer) : (screen.setAttribute attr position).cols = screen.cols :=
  (screen.setAttribute_frame attr position).cols

theorem setAttribute_size (attr : UInt8) (position : Option (Nat × Nat))
    (screen : ScreenBuffer) : (screen.setAttribute attr position).size = screen.size :=
  congrArg₂ (· * ·) (screen.setAttribute_frame attr position).rows
    (screen.setAttribute_frame attr position).cols

theorem Valid.repeatCells {screen : ScreenBuffer} (valid : screen.Valid) (attr : UInt8)
    (count : Nat) : (screen.repeatCells attr count).Valid := by
  induction count generalizing screen with
  | zero => exact valid
  | succ count ih => exact ih ((valid.setAttribute attr none).advanceCursor 1)

theorem Valid.repeatAttribute {screen : ScreenBuffer} (valid : screen.Valid) (attr : UInt8)
    (count : Nat) : (screen.repeatAttribute attr count).Valid :=
  (valid.beginBulkUpdate.repeatCells attr count).endBulkUpdate

theorem repeatCells_cols (attr : UInt8) (count : Nat) (screen : ScreenBuffer) :
    (screen.repeatCells attr count).rows = screen.rows ∧
      (screen.repeatCells attr count).cols = screen.cols := by
  induction count generalizing screen with
  | zero => exact ⟨rfl, rfl⟩
  | succ count ih =>
      have frame := screen.setAttribute_frame attr none
      have later := ih ((screen.setAttribute attr none).advanceCursor 1)
      exact ⟨later.1.trans frame.rows, later.2.trans frame.cols⟩

/-- Repeating an attribute takes as many steps as there are repetitions. -/
theorem repeatCells_cursorAddress {screen : ScreenBuffer} (valid : screen.Valid) (attr : UInt8)
    (count : Nat) :
    (screen.repeatCells attr count).cursorAddress =
      (screen.cursorAddress + count) % screen.size := by
  induction count generalizing screen with
  | zero => exact (Nat.mod_eq_of_lt valid.cursorAddress_lt).symm
  | succ count ih =>
      have set := valid.setAttribute attr none
      have size : ((screen.setAttribute attr none).advanceCursor 1).size = screen.size :=
        screen.setAttribute_size attr none
      have start : (screen.setAttribute attr none).cursorAddress = screen.cursorAddress := by
        have same := screen.setAttribute_getPosition attr none
        unfold cursorAddress
        rw [screen.setAttribute_cols attr none]
        exact congrArg screen.addressOf same
      rw [repeatCells, ih (set.advanceCursor 1), size, advanceCursor_cursorAddress set,
        screen.setAttribute_size attr none, start, Nat.mod_add_mod]
      congr 1
      omega

theorem endBulkUpdate_getPosition (screen : ScreenBuffer) :
    screen.endBulkUpdate.getPosition = screen.getPosition := by
  unfold endBulkUpdate
  dsimp only
  split <;> rfl

theorem endBulkUpdate_shape (screen : ScreenBuffer) :
    screen.endBulkUpdate.rows = screen.rows ∧ screen.endBulkUpdate.cols = screen.cols := by
  unfold endBulkUpdate
  dsimp only
  split
  · exact ⟨rfl, rfl⟩
  · exact ⟨rfl, rfl⟩

/-- The repetitions end at the cursor exactly if they go around the screen. -/
theorem repeatAttribute_stays_iff {screen : ScreenBuffer} (valid : screen.Valid) (attr : UInt8)
    (count : Nat) :
    (screen.repeatAttribute attr count).getPosition = screen.getPosition ↔
      screen.size ∣ count := by
  have begun : screen.beginBulkUpdate.Valid := valid.beginBulkUpdate
  have address := repeatCells_cursorAddress begun attr count
  have cols := (screen.beginBulkUpdate.repeatCells_cols attr count).2
  have inside := (begun.repeatCells attr count).cursorCol_lt
  rw [cols] at inside
  have whole : (screen.cursorAddress + count) % screen.size = screen.cursorAddress ↔
      screen.size ∣ count := by
    have before := Nat.mod_eq_of_lt valid.cursorAddress_lt
    have congruent := @Nat.modEq_iff_dvd' screen.size screen.cursorAddress
      (screen.cursorAddress + count) (Nat.le_add_right _ _)
    rw [Nat.add_sub_cancel_left] at congruent
    rw [← congruent]
    unfold Nat.ModEq
    rw [before]
    exact eq_comm
  show (screen.beginBulkUpdate.repeatCells attr count).endBulkUpdate.getPosition = _ ↔ _
  rw [endBulkUpdate_getPosition, ← whole]
  have here : (screen.beginBulkUpdate.repeatCells attr count).cursorAddress =
      screen.addressOf (screen.beginBulkUpdate.repeatCells attr count).getPosition := by
    unfold cursorAddress
    rw [cols]
    rfl
  constructor
  · intro same
    rw [same] at here
    exact address.symm.trans here
  · intro same
    exact addressOf_inj inside valid.cursorCol_lt (here.symm.trans (address.trans same))

/-- A tab goes nowhere exactly if there is nothing to tab to but the cursor. -/
theorem programTab_stays_iff {screen : ScreenBuffer} (valid : screen.Valid) :
    screen.programTab.getPosition = screen.getPosition ↔ screen.TabStays := by
  rw [← nextInputPosition_stays_iff valid]
  unfold programTab moveCursorToNextInputField
  cases screen.nextInputPosition with
  | none =>
      constructor
      · intro _ _ found
        cases found
      · intro _
        rfl
  | some position =>
      constructor
      · intro stays other found
        cases found
        exact stays
      · intro stays
        exact stays position rfl

theorem Valid.placeCursor {screen : ScreenBuffer} (valid : screen.Valid) (row col : Nat)
    (wrap strict : Bool) : (screen.placeCursor row col wrap strict).1.Valid := by
  have rows_pos := screen.rows_pos
  have cols_pos := screen.cols_pos
  unfold ScreenBuffer.placeCursor
  dsimp only
  split
  · exact { valid with
      cursorRow_lt := by dsimp only; omega
      cursorCol_lt := by dsimp only; split <;> omega }
  · split
    · split
      · exact valid
      · exact { valid with
          cursorRow_lt := by dsimp only; omega
          cursorCol_lt := by dsimp only; omega }
    · exact valid.setPosition row col

theorem placeCursor_shape (row col : Nat) (wrap strict : Bool) (screen : ScreenBuffer) :
    (screen.placeCursor row col wrap strict).1.rows = screen.rows ∧
      (screen.placeCursor row col wrap strict).1.cols = screen.cols := by
  unfold placeCursor
  dsimp only
  split
  · exact ⟨rfl, rfl⟩
  · split
    · split <;> exact ⟨rfl, rfl⟩
    · exact ⟨rfl, rfl⟩

/-- A position on the screen is taken in every mode. -/
theorem placeCursor_inside {row col : Nat} {screen : ScreenBuffer} (inRow : row < screen.rows)
    (inCol : col < screen.cols) (wrap strict : Bool) :
    screen.placeCursor row col wrap strict =
      ({ screen with cursorRow := row, cursorCol := col }, none) := by
  have sameRow : min (screen.rows - 1) row = row := Nat.min_eq_right (by omega)
  have sameCol : min (screen.cols - 1) col = col := Nat.min_eq_right (by omega)
  have noCol : ¬ screen.cols ≤ col := Nat.not_le.mpr inCol
  have inside : ¬ (screen.rows ≤ row ∨ screen.cols ≤ col) := by omega
  unfold placeCursor setPosition
  dsimp only
  rw [if_neg noCol, if_neg noCol, if_neg inside, sameRow, sameCol]
  cases wrap with
  | true => rfl
  | false => cases strict <;> rfl

theorem placeCursor_getPosition_iff {screen : ScreenBuffer} (valid : screen.Valid)
    (row col : Nat) (wrap strict : Bool) :
    (screen.placeCursor row col wrap strict).1.getPosition = (row, col) ↔
      row < screen.rows ∧ col < screen.cols := by
  constructor
  · intro same
    obtain ⟨sameRow, sameCol⟩ := Prod.mk.inj same
    have placed := valid.placeCursor row col wrap strict
    have shape := screen.placeCursor_shape row col wrap strict
    have inRow := placed.cursorRow_lt
    have inCol := placed.cursorCol_lt
    rw [sameRow, shape.1] at inRow
    rw [sameCol, shape.2] at inCol
    exact ⟨inRow, inCol⟩
  · rintro ⟨inRow, inCol⟩
    rw [placeCursor_inside inRow inCol]
    rfl

end ScreenBuffer

namespace ExtendedPosition

variable {row col : Int} {cols : Nat} {cols_pos : 0 < cols} {mode : AddressingMode}

/-- What the constructor accepts. -/
theorem init_ok {position : ExtendedPosition}
    (made : init row col cols cols_pos mode = .ok position) :
    ¬ (row < 0 ∨ col < 0) ∧ row.toNat * cols + col.toNat < getMaxPositions mode ∧
      position.coordinates = (row.toNat, col.toNat) ∧ position.cols = cols ∧
      position.addressingMode = mode := by
  unfold init at made
  dsimp only at made
  split at made
  · cases made
  · rename_i natural
    split at made
    · rename_i valid
      cases made
      exact ⟨natural, validateAddress_iff.mp valid, rfl, rfl, rfl⟩
    · cases made

theorem init_error {message : String}
    (failed : init row col cols cols_pos mode = .error message) :
    (row < 0 ∨ col < 0) ∨ getMaxPositions mode ≤ row.toNat * cols + col.toNat := by
  unfold init at failed
  dsimp only at failed
  split at failed
  · rename_i negative
    exact .inl negative
  · split at failed
    · cases failed
    · rename_i invalid
      refine .inr (Nat.le_of_not_lt fun below => ?_)
      exact invalid (validateAddress_iff.mpr below)

end ExtendedPosition

namespace AddressCalculator

variable {address : Int} {mode : AddressingMode}

theorem validateInteger_iff :
    validateInteger address mode = true ↔
      ¬ (address < 0 ∨ getMaxPositions mode ≤ address.toNat) := by
  unfold validateInteger
  rw [Bool.and_eq_true, decide_eq_true_eq, validateAddress_iff]
  omega

end AddressCalculator

namespace ExtendedScreenBuffer

variable {buffer : ExtendedScreenBuffer}

theorem synced_iff (formed : buffer.WellFormed) :
    buffer.Synced ↔ buffer.extendedCursor.coordinates = buffer.screen.getPosition := by
  refine ⟨fun synced => synced.coordinates, fun same => ⟨same, ?_⟩⟩
  obtain ⟨row, col⟩ := Prod.mk.inj same
  unfold getPositionAddress ScreenBuffer.cursorAddress
  rw [ExtendedPosition.linearAddress_eq, formed.cols, row, col]

theorem init_wellFormed {rows cols : Nat} {rows_pos : 0 < rows} {cols_pos : 0 < cols}
    {initValue : UInt8} {mode : AddressingMode}
    (made : init rows cols rows_pos cols_pos initValue mode = .ok buffer) :
    buffer.WellFormed ∧ buffer.Synced := by
  unfold init ExtendedPosition.init at made
  dsimp only at made
  split at made
  · rename_i fits
    split at made
    · rename_i negative
      exact absurd negative (by decide)
    · split at made
      · cases made
        have below := validateAddress_iff.mp fits
        have positive : 0 < rows * cols := Nat.mul_pos rows_pos cols_pos
        have size : (ScreenBuffer.init rows cols rows_pos cols_pos initValue "cp037").size =
            rows * cols := rfl
        have formed : WellFormed {
            screen := ScreenBuffer.init rows cols rows_pos cols_pos initValue "cp037"
            extendedCursor := ⟨(0 : Int).toNat, (0 : Int).toNat, cols, mode, cols_pos, ‹_›⟩ } :=
          ⟨ScreenBuffer.valid_init rows cols _ _ initValue "cp037", rfl, by
            show rows * cols ≤ getMaxPositions mode
            omega⟩
        exact ⟨formed, (synced_iff formed).mpr rfl⟩
      · cases made
  · cases made

/-- An inherited call that keeps the size of the screen. -/
theorem WellFormed.onScreen (formed : buffer.WellFormed) {f : ScreenBuffer → ScreenBuffer}
    (valid : (f buffer.screen).Valid) (rows : (f buffer.screen).rows = buffer.screen.rows)
    (cols : (f buffer.screen).cols = buffer.screen.cols) : (buffer.onScreen f).WellFormed where
  valid := valid
  cols := formed.cols.trans cols.symm
  fits := by
    have size : (f buffer.screen).size = buffer.screen.size := congrArg₂ (· * ·) rows cols
    show (f buffer.screen).size ≤ _
    rw [size]
    exact formed.fits

theorem WellFormed.writeChar (formed : buffer.WellFormed) (byte : UInt8)
    (position : Option (Int × Int)) (isProtected circumventProtection markFieldStart : Bool) :
    (buffer.writeChar byte position isProtected circumventProtection
      markFieldStart).WellFormed := by
  have written : ∀ target : Option (Nat × Nat), (buffer.onScreen (·.writeChar byte target
      isProtected circumventProtection markFieldStart)).WellFormed := fun target =>
    have frame := buffer.screen.writeChar_frame byte target isProtected
      circumventProtection markFieldStart
    formed.onScreen (formed.valid.writeChar byte target isProtected circumventProtection
      markFieldStart) frame.rows frame.cols
  unfold ExtendedScreenBuffer.writeChar
  split
  · exact written none
  · split
    · exact formed
    · exact written _

theorem WellFormed.moved (formed : buffer.WellFormed) {screen : ScreenBuffer}
    {position : ExtendedPosition} (valid : screen.Valid)
    (rows : screen.rows = buffer.screen.rows) (cols : screen.cols = buffer.screen.cols)
    (columns : position.cols = buffer.screen.cols)
    (mode : position.addressingMode = buffer.addressingMode) :
    WellFormed { screen, extendedCursor := position } where
  valid := valid
  cols := columns.trans cols.symm
  fits := by
    have size : screen.size = buffer.screen.size := congrArg₂ (· * ·) rows cols
    show screen.size ≤ getMaxPositions position.addressingMode
    rw [size, mode]
    exact formed.fits

theorem WellFormed.setPosition (formed : buffer.WellFormed) (row col : Int)
    (wrap strict : Bool) : (buffer.setPosition row col wrap strict).1.WellFormed := by
  unfold ExtendedScreenBuffer.setPosition
  split
  · exact formed
  · rename_i position made
    obtain ⟨_, _, _, columns, mode⟩ := ExtendedPosition.init_ok made
    have shape := buffer.screen.placeCursor_shape row.toNat col.toNat wrap strict
    exact formed.moved (formed.valid.placeCursor row.toNat col.toNat wrap strict) shape.1 shape.2
      columns mode

theorem WellFormed.clear (formed : buffer.WellFormed) : buffer.clear.WellFormed :=
  WellFormed.setPosition (formed.onScreen formed.valid.clear rfl rfl) 0 0 false false

theorem WellFormed.setPositionFromAddress (formed : buffer.WellFormed) (address : Int) :
    (buffer.setPositionFromAddress address).1.WellFormed := by
  unfold ExtendedScreenBuffer.setPositionFromAddress
  split
  · exact formed
  · rename_i position made
    unfold ExtendedPosition.setFromAddress at made
    dsimp only at made
    split at made
    · cases made
      exact formed.moved (formed.valid.setPosition _ _) rfl rfl formed.cols rfl
    · cases made

theorem WellFormed.step (formed : buffer.WellFormed) (operation : ExtendedOperation) :
    (buffer.step operation).WellFormed := by
  cases operation with
  | setPosition row col wrap strict => exact formed.setPosition row col wrap strict
  | setPositionFromAddress address => exact formed.setPositionFromAddress address
  | writeChar byte position isProtected circumventProtection markFieldStart =>
      exact formed.writeChar byte position isProtected circumventProtection markFieldStart
  | writeCharAtAddress byte address isProtected circumventProtection =>
      show (buffer.writeCharAtAddress byte address isProtected circumventProtection).1.WellFormed
      unfold ExtendedScreenBuffer.writeCharAtAddress
      dsimp only
      split
      · exact formed
      · rename_i row col _
        exact formed.writeChar byte (some (row, col)) isProtected circumventProtection false
  | repeatAttribute attr count =>
      have cells := buffer.screen.beginBulkUpdate.repeatCells_cols attr count.toNat
      have ended :=
        (buffer.screen.beginBulkUpdate.repeatCells attr count.toNat).endBulkUpdate_shape
      exact formed.onScreen (formed.valid.repeatAttribute attr count.toNat)
        (ended.1.trans cells.1) (ended.2.trans cells.2)
  | tab =>
      refine formed.onScreen formed.valid.programTab ?_ ?_
      · unfold ScreenBuffer.programTab ScreenBuffer.moveCursorToNextInputField
        split <;> rfl
      · unfold ScreenBuffer.programTab ScreenBuffer.moveCursorToNextInputField
        split <;> rfl
  | clear => exact formed.clear

/-- An inherited call keeps them equal exactly if it does not move the cursor. -/
theorem synced_onScreen_iff {f : ScreenBuffer → ScreenBuffer} (synced : buffer.Synced)
    (formed : (buffer.onScreen f).WellFormed) :
    (buffer.onScreen f).Synced ↔
      (f buffer.screen).getPosition = buffer.screen.getPosition := by
  rw [synced_iff formed, ← synced.coordinates]
  exact eq_comm

theorem setPosition_synced_iff (formed : buffer.WellFormed) (synced : buffer.Synced)
    (row col : Int) (wrap strict : Bool) :
    (buffer.setPosition row col wrap strict).1.Synced ↔
      Harmless (.setPosition row col wrap strict) buffer := by
  have after := formed.setPosition row col wrap strict
  rw [synced_iff after]
  unfold ExtendedScreenBuffer.setPosition Harmless
  split
  · rename_i message failed
    constructor
    · intro _
      exact (or_assoc.mp (.inl (ExtendedPosition.init_error failed)))
    · intro _
      exact synced.coordinates
  · rename_i position made
    obtain ⟨natural, below, coordinates, _, _⟩ := ExtendedPosition.init_ok made
    have placed := ScreenBuffer.placeCursor_getPosition_iff formed.valid row.toNat col.toNat
      wrap strict
    show position.coordinates = _ ↔ _
    rw [coordinates]
    constructor
    · intro same
      exact .inr (.inr (placed.mp same.symm))
    · rintro (negative | beyond | inside)
      · exact absurd negative natural
      · exact absurd below (Nat.not_lt.mpr beyond)
      · exact (placed.mpr inside).symm

theorem setPosition_atomic {row col : Int} {wrap strict : Bool}
    (harmless : Harmless (.setPosition row col wrap strict) buffer) :
    Atomic (.setPosition row col wrap strict) buffer := by
  have unchanged : (buffer.setPosition row col wrap strict).2 = none ∨
      (buffer.setPosition row col wrap strict).1 = buffer := by
    unfold ExtendedScreenBuffer.setPosition
    split
    · exact .inr rfl
    · rename_i position made
      obtain ⟨natural, below, _⟩ := ExtendedPosition.init_ok made
      have inside := (Or.resolve_left harmless natural).resolve_left (Nat.not_le.mpr below)
      rw [ScreenBuffer.placeCursor_inside inside.1 inside.2]
      exact .inl rfl
  intro raised
  have same : buffer.step (.setPosition row col wrap strict) = buffer :=
    unchanged.resolve_left raised
  rw [same]
  exact ⟨rfl, rfl⟩

theorem setPositionFromAddress_synced_iff (formed : buffer.WellFormed)
    (synced : buffer.Synced) (address : Int) :
    (buffer.setPositionFromAddress address).1.Synced ↔
      Harmless (.setPositionFromAddress address) buffer := by
  have after := formed.setPositionFromAddress address
  rw [synced_iff after]
  unfold ExtendedScreenBuffer.setPositionFromAddress ExtendedPosition.setFromAddress
  dsimp only
  by_cases named : validateInteger address buffer.addressingMode = true
  · have natural := validateInteger_iff.mp named
    have placed := ScreenBuffer.placeCursor_getPosition_iff formed.valid
      (address.toNat / buffer.screen.cols) (address.toNat % buffer.screen.cols) false false
    have inside : address.toNat / buffer.screen.cols < buffer.screen.rows ↔
        address.toNat < buffer.screen.size :=
      Nat.div_lt_iff_lt_mul buffer.screen.cols_pos
    have column := Nat.mod_lt address.toNat buffer.screen.cols_pos
    unfold addressingMode at named
    rw [dif_pos named]
    dsimp only [ExtendedPosition.coordinates]
    rw [formed.cols]
    constructor
    · intro same
      exact .inr (.inr (inside.mp (placed.mp same.symm).1))
    · rintro (negative | beyond | below)
      · exact absurd (.inl negative) natural
      · exact absurd (.inr beyond) natural
      · exact (placed.mpr ⟨inside.mpr below, column⟩).symm
  · have refused : address < 0 ∨ getMaxPositions buffer.addressingMode ≤ address.toNat := by
      by_contra natural
      exact named (validateInteger_iff.mpr natural)
    unfold addressingMode at named
    rw [dif_neg named]
    constructor
    · intro _
      exact or_assoc.mp (.inl refused)
    · intro _
      exact synced.coordinates

/-- A write at a position keeps the cursors equal exactly if the cursor ends where it was. -/
theorem writeChar_synced_iff (formed : buffer.WellFormed) (synced : buffer.Synced)
    (byte : UInt8) (row col : Int) (isProtected circumventProtection markFieldStart : Bool) :
    (buffer.writeChar byte (some (row, col)) isProtected circumventProtection
      markFieldStart).Synced ↔
      (row < 0 ∨ col < 0) ∨
        WritesInPlace row.toNat col.toNat circumventProtection buffer.screen := by
  have after := formed.writeChar byte (some (row, col)) isProtected circumventProtection
    markFieldStart
  unfold ExtendedScreenBuffer.writeChar at after ⊢
  dsimp only at after ⊢
  by_cases negative : row < 0 ∨ col < 0
  · rw [if_pos negative]
    exact ⟨fun _ => .inl negative, fun _ => synced⟩
  · rw [if_neg negative] at after ⊢
    rw [synced_onScreen_iff synced after, ScreenBuffer.writeChar_some_getPosition,
      or_iff_right negative]
    unfold WritesInPlace
    by_cases accepted : buffer.screen.Accepts row.toNat col.toNat circumventProtection
    · rw [if_pos accepted, or_iff_right (not_not.mpr accepted)]
      exact ScreenBuffer.advanceCursor_stays_iff formed.valid
        (buffer.screen.advanceAt_pos row.toNat col.toNat)
    · rw [if_neg accepted]
      exact ⟨fun _ => .inl accepted, fun _ => rfl⟩

theorem writeCharAtAddress_synced_iff (formed : buffer.WellFormed) (synced : buffer.Synced)
    (byte : UInt8) (address : Int) (isProtected circumventProtection : Bool) :
    (buffer.writeCharAtAddress byte address isProtected circumventProtection).1.Synced ↔
      Harmless (.writeCharAtAddress byte address isProtected circumventProtection) buffer := by
  unfold ExtendedScreenBuffer.writeCharAtAddress integerToCoords
  dsimp only
  by_cases named : validateInteger address buffer.addressingMode = true
  · have natural := validateInteger_iff.mp named
    rw [if_pos named]
    dsimp only
    rw [writeChar_synced_iff formed synced]
    have row : ¬ (((address.toNat / buffer.screen.cols : Nat) : Int) < 0 ∨
        ((address.toNat % buffer.screen.cols : Nat) : Int) < 0) := fun negative =>
      negative.elim (Int.not_lt.mpr (Int.natCast_nonneg _))
        (Int.not_lt.mpr (Int.natCast_nonneg _))
    rw [or_iff_right row, Int.toNat_natCast, Int.toNat_natCast]
    exact (or_iff_right natural).symm
  · rw [if_neg named]
    have refused : address < 0 ∨ getMaxPositions buffer.addressingMode ≤ address.toNat := by
      by_contra natural
      exact named (validateInteger_iff.mpr natural)
    exact ⟨fun _ => .inl refused, fun _ => synced⟩

theorem clear_synced (formed : buffer.WellFormed) : buffer.clear.Synced := by
  rw [synced_iff formed.clear]
  unfold ExtendedScreenBuffer.clear ExtendedScreenBuffer.setPosition
  split
  · rename_i message failed
    have positive := formed.fits.trans_lt' buffer.screen.size_pos
    rcases ExtendedPosition.init_error failed with negative | beyond
    · exact absurd negative (by decide)
    · rw [Int.toNat_zero, Nat.zero_mul] at beyond
      exact absurd positive (Nat.not_lt.mpr beyond)
  · rename_i position made
    obtain ⟨_, _, coordinates, _⟩ := ExtendedPosition.init_ok made
    refine coordinates.trans (Eq.symm ?_)
    exact (ScreenBuffer.placeCursor_getPosition_iff formed.valid.clear 0 0 false false).mpr
      ⟨buffer.screen.rows_pos, buffer.screen.cols_pos⟩

theorem step_synced_iff (operation : ExtendedOperation) (formed : buffer.WellFormed)
    (synced : buffer.Synced) :
    (buffer.step operation).Synced ↔ Harmless operation buffer := by
  have after := formed.step operation
  cases operation with
  | setPosition row col wrap strict =>
      exact setPosition_synced_iff formed synced row col wrap strict
  | setPositionFromAddress address =>
      exact setPositionFromAddress_synced_iff formed synced address
  | writeChar byte position isProtected circumventProtection markFieldStart =>
      cases position with
      | none =>
          refine iff_of_true ?_ trivial
          exact (synced_onScreen_iff synced after).mpr
            (ScreenBuffer.writeChar_none_getPosition byte isProtected circumventProtection
              markFieldStart buffer.screen)
      | some position =>
          exact writeChar_synced_iff formed synced byte position.1 position.2 isProtected
            circumventProtection markFieldStart
  | writeCharAtAddress byte address isProtected circumventProtection =>
      exact writeCharAtAddress_synced_iff formed synced byte address isProtected
        circumventProtection
  | repeatAttribute attr count =>
      exact (synced_onScreen_iff synced after).trans
        (ScreenBuffer.repeatAttribute_stays_iff formed.valid attr count.toNat)
  | tab =>
      exact (synced_onScreen_iff synced after).trans
        (ScreenBuffer.programTab_stays_iff formed.valid)
  | clear => exact iff_of_true (clear_synced formed) trivial

/-- A harmless call that raises has changed nothing. -/
theorem atomic_of_harmless {operation : ExtendedOperation}
    (harmless : Harmless operation buffer) : Atomic operation buffer := by
  cases operation with
  | setPosition row col wrap strict => exact setPosition_atomic harmless
  | setPositionFromAddress address =>
      intro raised
      unfold step
      simp only [operate, ExtendedScreenBuffer.setPositionFromAddress] at raised ⊢
      split at raised
      · exact ⟨rfl, rfl⟩
      · exact absurd rfl raised
  | writeCharAtAddress byte address isProtected circumventProtection =>
      intro raised
      unfold step
      simp only [operate, ExtendedScreenBuffer.writeCharAtAddress] at raised ⊢
      split at raised
      · exact ⟨rfl, rfl⟩
      · exact absurd rfl raised
  | writeChar => exact fun raised => absurd rfl raised
  | repeatAttribute => exact fun raised => absurd rfl raised
  | tab => exact fun raised => absurd rfl raised
  | clear => exact fun raised => absurd rfl raised

/-- Throughout a run both cursors are equal and a call that raises leaves them alone, exactly
if every call of the run is harmless. -/
theorem always_synced_iff (formed : buffer.WellFormed) (synced : buffer.Synced)
    (operations : List ExtendedOperation) :
    (Always step Synced operations buffer ∧ Along step Atomic operations buffer) ↔
      Along step Harmless operations buffer := by
  have keeps : ∀ operation {state : ExtendedScreenBuffer}, state.WellFormed →
      (state.step operation).WellFormed := fun operation _ formed => formed.step operation
  have exactly : ∀ operation {state : ExtendedScreenBuffer}, state.WellFormed → state.Synced →
      ((state.step operation).Synced ↔ Harmless operation state) :=
    fun operation _ formed synced => step_synced_iff operation formed synced
  rw [always_iff_along keeps exactly formed synced]
  exact ⟨fun both => both.1, fun harmless => ⟨harmless, harmless.mono atomic_of_harmless⟩⟩

/-- A position on the screen and a clear on a small buffer. -/
theorem always_synced_small :
    let screen := (DataStreamParser.smallParser 0 0).screen
    ∃ buffer, init 2 3 screen.rows_pos screen.cols_pos 0x40 .mode12Bit = .ok buffer ∧
      Always step Synced [.setPosition 1 2 false true, .clear] buffer ∧
      Along step Atomic [.setPosition 1 2 false true, .clear] buffer := by
  intro screen
  obtain ⟨buffer, made⟩ : ∃ buffer,
      init 2 3 screen.rows_pos screen.cols_pos 0x40 .mode12Bit = .ok buffer := ⟨_, rfl⟩
  obtain ⟨formed, synced⟩ := init_wellFormed made
  refine ⟨buffer, made, (always_synced_iff formed synced _).mpr ?_⟩
  cases made
  exact ⟨.inr (.inr ⟨by decide, by decide⟩), trivial, trivial⟩

/-- A character at an explicit position moves one of the cursors. -/
theorem not_always_synced_writeChar :
    let screen := (DataStreamParser.smallParser 0 0).screen
    ∃ buffer, init 2 3 screen.rows_pos screen.cols_pos 0x40 .mode12Bit = .ok buffer ∧
      ¬ Always step Synced [.writeChar 0xC1 (some (0, 0)) false false false] buffer := by
  refine ⟨_, rfl, fun always => ?_⟩
  have apart := always.2.coordinates
  revert apart
  decide +kernel

end ExtendedScreenBuffer

end Pure3270
