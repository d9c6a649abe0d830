import Pure3270.Foundations.Residues
import Pure3270.Protocol.AddressLaw

/-!
# Repeat to Address

The count of RA is that of a circular range, but its cells are stored as data is:
nulls are passed over, and behind the last cell comes the first one of the last
row.
-/

namespace Pure3270

open Foundations

/-- The cell for the data byte after `count` others, from `start` on. -/
def dataPlace (rows cols start count : Nat) : Nat :=
  if start + count < rows * cols then start + count
  else (rows - 1) * cols + (start + count - rows * cols) % cols

section Places

variable {rows cols start count pos : Nat}

theorem lastRow_add (positive : 0 < rows) : (rows - 1) * cols + cols = rows * cols := by
  obtain ⟨others, rfl⟩ := Nat.exists_eq_succ_of_ne_zero (Nat.ne_zero_of_lt positive)
  exact (Nat.succ_mul others cols).symm

theorem dataPlace_succ (rowsPositive : 0 < rows) (colsPositive : 0 < cols) :
    dataPlace rows cols start (count + 1) =
      if dataPlace rows cols start count + 1 < rows * cols
      then dataPlace rows cols start count + 1 else (rows - 1) * cols := by
  have whole := @lastRow_add rows cols rowsPositive
  unfold dataPlace
  by_cases inside : start + count < rows * cols
  · rw [if_pos inside, Nat.add_assoc]
    by_cases next : start + (count + 1) < rows * cols
    · rw [if_pos next, if_pos next]
    · have last : start + (count + 1) - rows * cols = 0 := by omega
      rw [if_neg next, if_neg next, last, Nat.zero_mod, Nat.add_zero]
  · have column := Nat.mod_lt (start + count - rows * cols) colsPositive
    have later : start + (count + 1) - rows * cols = start + count - rows * cols + 1 := by
      omega
    rw [if_neg inside, if_neg (by omega), later, Nat.add_mod]
    by_cases room : (start + count - rows * cols) % cols + 1 < cols
    · rw [if_pos (by omega), Nat.mod_eq_of_lt (by omega : 1 < cols),
        Nat.mod_eq_of_lt room]
      rfl
    · rw [if_neg (by omega)]
      have ends : (start + count - rows * cols) % cols + 1 = cols := by omega
      rw [Nat.add_mod_mod, ends, Nat.mod_self]
      rfl

/-- What a number of data bytes reaches: the cells from the start on, and from the
start of the last row the cells for the bytes behind the end. -/
theorem exists_dataPlace_iff (rowsPositive : 0 < rows) (startInside : start < rows * cols)
    (inside : pos < rows * cols) :
    (∃ step < count, dataPlace rows cols start step = pos) ↔
      (start ≤ pos ∧ pos < start + count) ∨
        ((rows - 1) * cols ≤ pos ∧
          pos + rows * cols < (rows - 1) * cols + (start + count)) := by
  have whole := @lastRow_add rows cols rowsPositive
  constructor
  · rintro ⟨step, before, here⟩
    unfold dataPlace at here
    split at here
    · omega
    · have shorter := Nat.mod_le (start + step - rows * cols) cols
      omega
  · rintro (⟨after, before⟩ | ⟨lastRow, before⟩)
    · refine ⟨pos - start, by omega, ?_⟩
      unfold dataPlace
      rw [if_pos (by omega)]
      omega
    · refine ⟨rows * cols - start + (pos - (rows - 1) * cols), by omega, ?_⟩
      have beyond : start + (rows * cols - start + (pos - (rows - 1) * cols)) -
          rows * cols = pos - (rows - 1) * cols := by omega
      unfold dataPlace
      rw [if_neg (by omega), beyond, Nat.mod_eq_of_lt (by omega)]
      omega

end Places

namespace ScreenBuffer

variable {screen : ScreenBuffer} {byte : UInt8}

/-- The last of several bytes is stored behind the others. -/
theorem repeatData_succ (byte : UInt8) (count : Nat) (screen : ScreenBuffer) :
    screen.repeatData byte (count + 1) = (screen.repeatData byte count).storeData byte := by
  induction count generalizing screen with
  | zero => rfl
  | succ count ih => exact ih (screen.storeData byte)

/-- Repeated data: the cells it reaches hold the byte, and the others are as they
were. -/
theorem repeatData_spec (valid : screen.Valid) (stored : byte ≠ 0x00) (count : Nat) :
    (screen.repeatData byte count).Valid ∧
      SameFrame screen (screen.repeatData byte count) ∧
      (screen.repeatData byte count).cursorAddress =
        dataPlace screen.rows screen.cols screen.cursorAddress count ∧
      ∀ pos < screen.size, (screen.repeatData byte count).buffer[pos]? =
        if ∃ step < count,
            dataPlace screen.rows screen.cols screen.cursorAddress step = pos
        then some byte else screen.buffer[pos]? := by
  induction count with
  | zero =>
      have start : screen.cursorAddress < screen.rows * screen.cols :=
        valid.cursorAddress_lt
      refine ⟨valid, refl_of SameFrame screen, ?_, fun pos _ => ?_⟩
      · unfold dataPlace
        rw [Nat.add_zero, if_pos start]
        rfl
      · rw [if_neg (by rintro ⟨_, impossible, _⟩; cases impossible)]
        rfl
  | succ count ih =>
      obtain ⟨keptValid, frame, place, cells⟩ := ih
      have added : screen.repeatData byte (count + 1) =
          (screen.repeatData byte count).insertByte byte := by
        rw [repeatData_succ]
        exact if_neg stored
      have step := ScreenStep.insertByte byte keptValid.cursorRow_lt keptValid.cursorCol_lt
      rw [added]
      refine ⟨keptValid.insertByte byte, trans_of SameFrame frame step.frame, ?_,
        fun pos inside => ?_⟩
      · rw [cursorAddress_insertByte keptValid, place, frame.rows, frame.cols,
          dataPlace_succ screen.rows_pos screen.cols_pos]
      · have held : pos < (screen.repeatData byte count).buffer.length := by
          rw [keptValid.buffer_length, size, frame.rows, frame.cols]
          exact inside
        rw [insertByte_buffer, List.getElem?_set, place, cells pos inside]
        by_cases here : dataPlace screen.rows screen.cols screen.cursorAddress count = pos
        · rw [if_pos here, here, if_pos held,
            if_pos ⟨count, Nat.lt_succ_self count, here⟩]
        · rw [if_neg here]
          refine if_congr ⟨?_, ?_⟩ rfl rfl
          · rintro ⟨step, before, there⟩
            exact ⟨step, Nat.lt_succ_of_lt before, there⟩
          · rintro ⟨step, before, there⟩
            have other : step ≠ count := fun same => here (same ▸ there)
            exact ⟨step, by omega, there⟩

theorem repeatData_null (count : Nat) (screen : ScreenBuffer) :
    screen.repeatData 0x00 count = screen := by
  induction count with
  | zero => rfl
  | succ count ih => exact ih

/-- The cells that RA is to fill: from the buffer address up to the target, or all
of them when the two are the same. -/
def RepeatRange (start target pos : Nat) : Prop :=
  start = target ∨ UpTo start target pos

/-- The cells that RA fills: none for a null, and behind the end of the screen as
many as are left from the start of the last row. -/
def RepeatWrites (rows cols start target : Nat) (byte : UInt8) (pos : Nat) : Prop :=
  byte ≠ 0x00 ∧
    if start ≤ target then start ≤ pos ∧ pos < target
    else start ≤ pos ∨ ((rows - 1) * cols ≤ pos ∧ pos < (rows - 1) * cols + target)

instance (start target pos : Nat) : Decidable (RepeatRange start target pos) :=
  inferInstanceAs (Decidable (_ ∨ _))

instance (rows cols start target : Nat) (byte : UInt8) (pos : Nat) :
    Decidable (RepeatWrites rows cols start target byte pos) := by
  unfold RepeatWrites
  infer_instance

/-- Repeat to Address: the byte is in exactly the cells of the range, the others
are as they were, and the buffer address is the target. -/
structure Repeats (byte : UInt8) (target : Nat) (before after : ScreenBuffer) : Prop where
  cells : ∀ pos < before.size, after.buffer[pos]? =
    if RepeatRange before.cursorAddress target pos then some byte else before.buffer[pos]?
  size : after.buffer.length = before.buffer.length
  address : after.cursorAddress = target

/-- The mode can name the target, and where RA fills other cells than those of the
range they hold the byte already. -/
def RepeatFits (mode : AddressingMode) (byte : UInt8) (target : Nat)
    (screen : ScreenBuffer) : Prop :=
  target < AddressCalculator.getMaxPositions mode ∧
    ∀ pos < screen.size,
      ¬ (RepeatRange screen.cursorAddress target pos ↔
        RepeatWrites screen.rows screen.cols screen.cursorAddress target byte pos) →
      screen.buffer[pos]? = some byte

instance (mode : AddressingMode) (byte : UInt8) (target : Nat) (screen : ScreenBuffer) :
    Decidable (screen.RepeatFits mode byte target) :=
  inferInstanceAs (Decidable (_ ∧ _))

/-- Forward and with a byte other than null, RA fills its range. -/
theorem repeatFits_forward {mode : AddressingMode} {target : Nat}
    (named : target < AddressCalculator.getMaxPositions mode) (stored : byte ≠ 0x00)
    (forward : screen.cursorAddress < target) : screen.RepeatFits mode byte target := by
  refine ⟨named, fun pos _ differs => (differs ?_).elim⟩
  unfold RepeatRange RepeatWrites UpTo
  rw [if_pos forward.le, if_pos forward.le]
  constructor
  · rintro (same | within)
    · omega
    · exact ⟨stored, within⟩
  · exact fun ⟨_, within⟩ => .inr within

/-- The cells that hold the byte after the repetition. -/
theorem repeatData_cells (valid : screen.Valid) {target : Nat}
    (targetInside : target < screen.size) {pos : Nat} (inside : pos < screen.size) :
    (screen.repeatData byte (stepsUpTo screen.size screen.cursorAddress
        target)).buffer[pos]? =
      if RepeatWrites screen.rows screen.cols screen.cursorAddress target byte pos
      then some byte else screen.buffer[pos]? := by
  by_cases null : byte = 0x00
  · rw [if_neg (fun writes => writes.1 null), null, repeatData_null]
  · have start : screen.cursorAddress < screen.rows * screen.cols := valid.cursorAddress_lt
    have whole := @lastRow_add screen.rows screen.cols screen.rows_pos
    have size : screen.size = screen.rows * screen.cols := rfl
    rw [(repeatData_spec valid null _).2.2.2 pos inside]
    refine if_congr ?_ rfl rfl
    rw [exists_dataPlace_iff screen.rows_pos start inside]
    unfold RepeatWrites stepsUpTo
    rw [and_iff_right null]
    by_cases forward : screen.cursorAddress ≤ target
    · rw [if_pos forward, if_pos forward]
      omega
    · rw [if_neg forward, if_neg forward]
      omega

theorem targetPosition_inside {mode : AddressingMode} {target : Nat}
    (named : target < AddressCalculator.getMaxPositions mode)
    (inside : target < screen.size) :
    screen.targetPosition target mode = (target / screen.cols, target % screen.cols) := by
  have column := Nat.mod_lt target screen.cols_pos
  have row : target / screen.cols < screen.rows :=
    Nat.div_lt_of_lt_mul (by rwa [size, Nat.mul_comm] at inside)
  have whole : AddressCalculator.clampAddress target mode = target := by
    unfold AddressCalculator.clampAddress
    rw [if_pos (AddressCalculator.validateAddress_iff.mpr named)]
  unfold targetPosition
  rw [whole, Nat.min_eq_left (by omega), Nat.min_eq_left (by omega)]

theorem targetPosition_beyond {mode : AddressingMode} {target : Nat}
    (beyond : ¬ target < AddressCalculator.getMaxPositions mode)
    (inside : target < screen.size) :
    (screen.targetPosition target mode).1 * screen.cols +
      (screen.targetPosition target mode).2 ≠ target := by
  have positive : 0 < AddressCalculator.getMaxPositions mode := by
    cases mode <;> exact Nat.succ_pos _
  have clamped : AddressCalculator.clampAddress target mode =
      AddressCalculator.getMaxPositions mode - 1 := by
    unfold AddressCalculator.clampAddress
    rw [if_neg (fun valid => beyond (AddressCalculator.validateAddress_iff.mp valid))]
    omega
  have last : screen.targetPosition target mode =
      screen.targetPosition (AddressCalculator.getMaxPositions mode - 1) mode := by
    unfold targetPosition
    rw [clamped]
    unfold AddressCalculator.clampAddress
    rw [if_pos (AddressCalculator.validateAddress_iff.mpr (by omega))]
  rw [last, targetPosition_inside (by omega) (by omega), Nat.div_add_mod']
  omega

theorem cursorAddress_moved {mode : AddressingMode} {address : Nat}
    {before after : ScreenBuffer} (sameRows : after.rows = before.rows)
    (sameCols : after.cols = before.cols) :
    (after.setPosition (before.targetPosition address mode).1
        (before.targetPosition address mode).2).cursorAddress =
      (before.targetPosition address mode).1 * before.cols +
        (before.targetPosition address mode).2 := by
  have rows := before.rows_pos
  have cols := before.cols_pos
  rw [cursorAddress_setPosition, sameRows, sameCols]
  unfold targetPosition
  rw [Nat.min_eq_right (by omega : min _ (before.rows - 1) ≤ before.rows - 1),
    Nat.min_eq_right (by omega : min _ (before.cols - 1) ≤ before.cols - 1)]

/-- The count of an order with a target that the mode can name. -/
theorem cellsUpTo_targetPosition {mode : AddressingMode} {target : Nat}
    (named : target < AddressCalculator.getMaxPositions mode)
    (inside : target < screen.size) :
    screen.cellsUpTo (screen.targetPosition target mode) =
      stepsUpTo screen.size screen.cursorAddress target := by
  unfold cellsUpTo
  rw [targetPosition_inside named inside]
  simp only [Nat.div_add_mod']
  rfl

theorem repeatData_keeps (valid : screen.Valid) (byte : UInt8) (count : Nat) :
    (screen.repeatData byte count).Valid ∧
      SameFrame screen (screen.repeatData byte count) := by
  by_cases null : byte = 0x00
  · rw [null, repeatData_null]
    exact ⟨valid, refl_of SameFrame screen⟩
  · obtain ⟨keptValid, frame, -, -⟩ := repeatData_spec valid null count
    exact ⟨keptValid, frame⟩

theorem onScreen_ra {mode : AddressingMode} {high low : UInt8} {fieldStart : Nat × Nat}
    {target : Nat} (decoded : decodeAddress mode high low = target)
    (valid : screen.Valid) (inside : target < screen.size)
    (named : target < AddressCalculator.getMaxPositions mode) :
    (∀ pos < screen.size,
        ((Item.ra high low byte).onScreen mode fieldStart screen).buffer[pos]? =
          if RepeatWrites screen.rows screen.cols screen.cursorAddress target byte pos
          then some byte else screen.buffer[pos]?) ∧
      ((Item.ra high low byte).onScreen mode fieldStart screen).cursorAddress = target := by
  subst decoded
  constructor
  · intro pos posInside
    show (screen.repeatData byte (screen.cellsUpTo _)).buffer[pos]? = _
    rw [cellsUpTo_targetPosition named inside]
    exact repeatData_cells valid inside posInside
  · have frame := (repeatData_keeps valid byte
      (screen.cellsUpTo (screen.targetPosition (decodeAddress mode high low) mode))).2
    refine (cursorAddress_moved frame.rows frame.cols).trans ?_
    rw [targetPosition_inside named inside]
    exact Nat.div_add_mod' _ _

/-- RA is the repetition of its range exactly when the mode can name the target
and the cells that are wrongly filled or left out hold the byte already. -/
theorem onScreen_ra_repeats_iff {mode : AddressingMode} {high low : UInt8}
    {fieldStart : Nat × Nat} (valid : screen.Valid)
    (inside : decodeAddress mode high low < screen.size) :
    Repeats byte (decodeAddress mode high low) screen
        ((Item.ra high low byte).onScreen mode fieldStart screen) ↔
      screen.RepeatFits mode byte (decodeAddress mode high low) := by
  by_cases named : decodeAddress mode high low < AddressCalculator.getMaxPositions mode
  · obtain ⟨cells, address⟩ := @onScreen_ra screen byte mode high low fieldStart _ rfl
      valid inside named
    constructor
    · intro repeats
      refine ⟨named, fun pos posInside differs => ?_⟩
      have written := cells pos posInside
      rw [repeats.cells pos posInside] at written
      by_cases asked : RepeatRange screen.cursorAddress (decodeAddress mode high low) pos
      · rw [if_pos asked, if_neg fun writes => differs ⟨fun _ => writes, fun _ => asked⟩]
          at written
        exact written.symm
      · by_cases writes : RepeatWrites screen.rows screen.cols screen.cursorAddress
            (decodeAddress mode high low) byte pos
        · rw [if_neg asked, if_pos writes] at written
          exact written
        · exact (differs (iff_of_false asked writes)).elim
    · rintro ⟨-, held⟩
      refine ⟨fun pos posInside => ?_, ?_, address⟩
      · rw [cells pos posInside]
        by_cases agree : RepeatRange screen.cursorAddress (decodeAddress mode high low) pos ↔
            RepeatWrites screen.rows screen.cols screen.cursorAddress
              (decodeAddress mode high low) byte pos
        · exact if_congr agree.symm rfl rfl
        · rw [held pos posInside agree, ite_self, ite_self]
      · obtain ⟨keptValid, frame⟩ := repeatData_keeps valid byte
          (screen.cellsUpTo (screen.targetPosition (decodeAddress mode high low) mode))
        show (screen.repeatData byte _).buffer.length = _
        rw [keptValid.buffer_length, valid.buffer_length]
        unfold size
        rw [frame.rows, frame.cols]
  · constructor
    · intro repeats
      have frame := (repeatData_keeps valid byte
        (screen.cellsUpTo (screen.targetPosition (decodeAddress mode high low) mode))).2
      have address := @cursorAddress_moved mode (decodeAddress mode high low) screen _
        frame.rows frame.cols
      exact (targetPosition_beyond named inside (address.symm.trans repeats.address)).elim
    · exact fun fits => (named fits.1).elim

end ScreenBuffer

namespace DataStreamParser

open ScreenBuffer

/-- The handler of RA does what is asked of it exactly when the mode can name the
target and the cells that are wrongly filled or left out hold the byte already. -/
theorem handleRa_repeats_iff {parser : DataStreamParser} {high low byte : UInt8}
    {bytes : List UInt8} (valid : parser.screen.Valid)
    (here : parser.At (high :: low :: byte :: bytes))
    (mirrored : parser.pos ≤ parser.parserPos)
    (inside : decodeAddress parser.addressingMode high low < parser.screen.size) :
    (∃ after, handleRa parser = .ok () after ∧
        Repeats byte (decodeAddress parser.addressingMode high low) parser.screen
          after.screen) ↔
      parser.screen.RepeatFits parser.addressingMode byte
        (decodeAddress parser.addressingMode high low) := by
  rw [handleRa_at valid here mirrored,
    ← @onScreen_ra_repeats_iff _ _ _ _ _ parser.resolveFieldStartPosition valid inside]
  constructor
  · rintro ⟨after, same, repeats⟩
    cases same
    exact repeats
  · exact fun repeats => ⟨_, rfl, repeats⟩

/-- Three cells of a small screen. -/
theorem handleRa_repeats_small :
    ∃ after, handleRa { smallParser 0 1 with data := [0x00, 0x04, 0xC1] } = .ok () after ∧
      Repeats 0xC1 4 (smallParser 0 1).screen after.screen :=
  (@handleRa_repeats_iff { smallParser 0 1 with data := [0x00, 0x04, 0xC1] } 0x00 0x04
    0xC1 [] (smallParser_valid 0 1) ⟨[], rfl⟩ (Nat.le_refl 0) (by decide)).mpr (by decide)

/-- From the last row back to the first one: the cells are filled from the start
of the last row. -/
theorem not_handleRa_repeats :
    ¬ ∀ (parser : DataStreamParser) (high low byte : UInt8) (bytes : List UInt8),
      parser.screen.Valid → parser.At (high :: low :: byte :: bytes) →
        parser.pos ≤ parser.parserPos →
          decodeAddress parser.addressingMode high low < parser.screen.size →
            ∃ after, handleRa parser = .ok () after ∧
              Repeats byte (decodeAddress parser.addressingMode high low) parser.screen
                after.screen := by
  intro claimed
  let parser : DataStreamParser := { smallParser 1 2 with data := [0x00, 0x02, 0xC1] }
  have valid : parser.screen.Valid := smallParser_valid 1 2
  have here : parser.At [0x00, 0x02, 0xC1] := ⟨[], rfl⟩
  obtain ⟨after, ran, repeats⟩ := claimed parser 0x00 0x02 0xC1 [] valid here
    (Nat.le_refl 0) (by decide)
  rw [handleRa_at valid here (Nat.le_refl 0)] at ran
  cases ran
  exact absurd (repeats.cells 0 (by decide)) (by decide)

end DataStreamParser

end Pure3270
