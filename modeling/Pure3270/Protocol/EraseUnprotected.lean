import Pure3270.Emulation.FieldLayout
import Pure3270.Emulation.Tabbing
import Pure3270.Protocol.RepeatToAddress
import Pure3270.Protocol.WriteRecords

/-!
# Erase Unprotected to Address

EUA looks up the field of each cell and writes a space unless the field is
protected.  The attribute of a field is the first cell of its range, so that the
attributes of unprotected fields are erased with their characters.
-/

namespace Pure3270

open Foundations

namespace ScreenBuffer

variable {screen : ScreenBuffer} {position : Nat × Nat}

/-- A position on the screen. -/
def OnScreen (position : Nat × Nat) (screen : ScreenBuffer) : Prop :=
  position.1 < screen.rows ∧ position.2 < screen.cols

theorem nextCell_spec (inside : screen.OnScreen position) :
    screen.OnScreen (screen.nextCell position) ∧
      screen.addressOf (screen.nextCell position) =
        (screen.addressOf position + 1) % screen.size := by
  obtain ⟨row, col⟩ := inside
  have rows := screen.rows_pos
  have cols := screen.cols_pos
  have here := address_lt row col
  unfold nextCell addressOf
  by_cases wraps : screen.cols ≤ position.2 + 1
  · have ends : position.1 * screen.cols + position.2 + 1 =
        (position.1 + 1) * screen.cols := by
      rw [Nat.add_mul, Nat.one_mul]
      omega
    rw [if_pos wraps]
    by_cases last : screen.rows ≤ position.1 + 1
    · have whole : position.1 + 1 = screen.rows := by omega
      rw [if_pos last]
      refine ⟨⟨rows, cols⟩, ?_⟩
      show 0 * screen.cols + 0 = _
      rw [ends, whole]
      simp [size]
    · rw [if_neg last]
      refine ⟨⟨Nat.lt_of_not_le last, cols⟩, ?_⟩
      have inScreen : (position.1 + 1) * screen.cols < screen.size :=
        (Nat.mul_lt_mul_right cols).mpr (Nat.lt_of_not_le last)
      show (position.1 + 1) * screen.cols + 0 = _
      rw [ends, Nat.mod_eq_of_lt inScreen]
      rfl
  · have inScreen := address_lt row (Nat.lt_of_not_le wraps)
    rw [if_neg wraps]
    refine ⟨⟨row, Nat.lt_of_not_le wraps⟩, ?_⟩
    show position.1 * screen.cols + (position.2 + 1) = _
    rw [← Nat.add_assoc] at inScreen ⊢
    exact (Nat.mod_eq_of_lt inScreen).symm

theorem eraseUnprotectedCell_spec (valid : screen.Valid) (laid : screen.LaidOut)
    (inside : screen.OnScreen position) :
    screen.KeepsLayout (screen.eraseUnprotectedCell position) ∧
      ∀ pos < screen.size, (screen.eraseUnprotectedCell position).buffer[pos]? =
        if screen.addressOf position = pos ∧ screen.protectsAt pos = false
        then some 0x40 else screen.buffer[pos]? := by
  have looked : (screen.getFieldAtPosition position.1 position.2).any (·.isProtected) =
      screen.protectsAt (screen.addressOf position) :=
    getFieldAtPosition_isProtected laid inside
  have spared : screen.eraseUnprotectedCell position =
      if screen.protectsAt (screen.addressOf position) then screen
      else screen.change (.eraseCell position) := by
    unfold eraseUnprotectedCell
    rw [← looked]
    cases screen.getFieldAtPosition position.1 position.2 <;> rfl
  rw [spared]
  split
  · rename_i guarded
    refine ⟨⟨valid, laid, rfl, rfl, rfl, rfl⟩, fun pos _ => ?_⟩
    rw [if_neg]
    rintro ⟨rfl, free⟩
    rw [guarded] at free
    cases free
  · rename_i free
    refine ⟨writeChar_keepsLayout valid laid 0x40 position, fun pos posInside => ?_⟩
    have stored : pos < screen.buffer.length := by
      rw [valid.buffer_length]
      exact posInside
    have erased : (screen.change (.eraseCell position)).buffer =
        screen.buffer.set (screen.addressOf position) 0x40 :=
      (eraseCell_buffer valid position).trans (if_pos inside)
    rw [erased, List.getElem?_set]
    by_cases here : screen.addressOf position = pos
    · subst here
      rw [if_pos rfl, if_pos stored, if_pos ⟨rfl, Bool.eq_false_iff.mpr free⟩]
    · rw [if_neg here, if_neg fun erases => here erases.1]

/-- A run of cells: those in no protected field hold a space. -/
theorem eraseUnprotected_spec (valid : screen.Valid) (laid : screen.LaidOut)
    (inside : screen.OnScreen position) (count : Nat) :
    screen.KeepsLayout (screen.eraseUnprotected count position) ∧
      ∀ pos < screen.size, (screen.eraseUnprotected count position).buffer[pos]? =
        if (∃ step < count, (screen.addressOf position + step) % screen.size = pos) ∧
            screen.protectsAt pos = false
        then some 0x40 else screen.buffer[pos]? := by
  induction count generalizing screen position with
  | zero =>
      refine ⟨⟨valid, laid, rfl, rfl, rfl, rfl⟩, fun pos _ => ?_⟩
      rw [if_neg (by rintro ⟨⟨_, impossible, _⟩, _⟩; cases impossible)]
      rfl
  | succ count ih =>
      obtain ⟨kept, erased⟩ := eraseUnprotectedCell_spec valid laid inside
      have onScreen : (screen.eraseUnprotectedCell position).OnScreen position := by
        unfold OnScreen
        rw [kept.rows, kept.cols]
        exact inside
      obtain ⟨nextInside, next⟩ := nextCell_spec onScreen
      obtain ⟨keptLater, later⟩ := ih kept.valid kept.laidOut nextInside
      have address : (screen.eraseUnprotectedCell position).addressOf position =
          screen.addressOf position := by
        unfold addressOf
        rw [kept.cols]
      have here : screen.addressOf position < screen.size := address_lt inside.1 inside.2
      refine ⟨kept.trans keptLater, fun pos posInside => ?_⟩
      have others := later pos (by rw [kept.size]; exact posInside)
      rw [next, address, kept.size, protectsAt_congr kept.layout, erased pos posInside]
        at others
      simp only [Nat.mod_add_mod, Nat.add_assoc, Nat.add_comm 1] at others
      refine others.trans ?_
      have steps : ((∃ step < count + 1,
          (screen.addressOf position + step) % screen.size = pos) ∧
            screen.protectsAt pos = false) ↔
          (screen.addressOf position = pos ∧ screen.protectsAt pos = false) ∨
            (∃ step < count, (screen.addressOf position + (step + 1)) % screen.size = pos) ∧
              screen.protectsAt pos = false := by
        rw [Nat.exists_lt_succ_left, Nat.add_zero, Nat.mod_eq_of_lt here, or_and_right]
      rw [if_congr steps rfl rfl]
      by_cases reached : (∃ step < count,
          (screen.addressOf position + (step + 1)) % screen.size = pos) ∧
            screen.protectsAt pos = false
      · rw [if_pos reached, if_pos (.inr reached)]
      · rw [if_neg reached]
        exact if_congr (or_iff_left reached).symm rfl rfl

/-- Erase Unprotected to Address: the cells of the range that are characters of no
protected field hold a space, the others are as they were, and so are the field
starts; the buffer address is the target. -/
structure ErasesUnprotected (target : Nat) (before after : ScreenBuffer) : Prop where
  cells : ∀ pos < before.size, after.buffer[pos]? =
    if UpTo before.cursorAddress target pos ∧ before.protectsAt pos = false ∧
        ¬ pos ∈ before.fieldStarts
    then some 0x40 else before.buffer[pos]?
  size : after.buffer.length = before.buffer.length
  fieldStarts : after.fieldStarts = before.fieldStarts
  address : after.cursorAddress = target

/-- The mode can name the target, and the attributes of unprotected fields in the
range are spaces already. -/
def EraseFits (mode : AddressingMode) (target : Nat) (screen : ScreenBuffer) : Prop :=
  target < AddressCalculator.getMaxPositions mode ∧
    ∀ pos ∈ screen.fieldStarts.toList, UpTo screen.cursorAddress target pos →
      screen.protectsAt pos = false → screen.buffer[pos]? = some 0x40

instance (mode : AddressingMode) (target : Nat) (screen : ScreenBuffer) :
    Decidable (screen.EraseFits mode target) :=
  inferInstanceAs (Decidable (_ ∧ _))

section Eua

variable {mode : AddressingMode} {high low : UInt8} {fieldStart : Nat × Nat}

/-- The screen of EUA keeps its layout, and every cell in the range and in no
protected field holds a space. -/
theorem onScreen_eua (valid : screen.Valid) (laid : screen.LaidOut)
    (inside : decodeAddress mode high low < screen.size)
    (named : decodeAddress mode high low < AddressCalculator.getMaxPositions mode) :
    (∀ pos < screen.size,
        ((Item.eua high low).onScreen mode fieldStart screen).buffer[pos]? =
          if UpTo screen.cursorAddress (decodeAddress mode high low) pos ∧
              screen.protectsAt pos = false
          then some 0x40 else screen.buffer[pos]?) ∧
      ((Item.eua high low).onScreen mode fieldStart screen).cursorAddress =
        decodeAddress mode high low := by
  have start : screen.OnScreen screen.getPosition := ⟨valid.cursorRow_lt, valid.cursorCol_lt⟩
  obtain ⟨kept, erased⟩ := eraseUnprotected_spec valid laid start
    (screen.cellsUpTo (screen.targetPosition (decodeAddress mode high low) mode))
  constructor
  · intro pos posInside
    refine (erased pos posInside).trans (if_congr (and_congr_left' ?_) rfl rfl)
    rw [cellsUpTo_targetPosition named inside]
    exact (upTo_iff_exists_step valid.cursorAddress_lt inside posInside).symm
  · refine (cursorAddress_moved kept.rows kept.cols).trans ?_
    rw [targetPosition_inside named inside]
    exact Nat.div_add_mod' _ _

/-- The field starts stay as they are, wherever the order leads. -/
theorem onScreen_eua_keeps (valid : screen.Valid) (laid : screen.LaidOut) :
    ((Item.eua high low).onScreen mode fieldStart screen).fieldStarts =
        screen.fieldStarts ∧
      ((Item.eua high low).onScreen mode fieldStart screen).buffer.length =
        screen.buffer.length := by
  have start : screen.OnScreen screen.getPosition := ⟨valid.cursorRow_lt, valid.cursorCol_lt⟩
  have kept := (eraseUnprotected_spec valid laid start
    (screen.cellsUpTo (screen.targetPosition (decodeAddress mode high low) mode))).1
  refine ⟨kept.fieldStarts, ?_⟩
  show (screen.eraseUnprotected _ screen.getPosition).buffer.length = _
  rw [kept.valid.buffer_length, valid.buffer_length, kept.size]

/-- EUA is the erase of its range exactly when the mode can name the target and no
attribute of an unprotected field in the range is lost. -/
theorem onScreen_eua_erases_iff (valid : screen.Valid) (laid : screen.LaidOut)
    (inside : decodeAddress mode high low < screen.size) :
    ErasesUnprotected (decodeAddress mode high low) screen
        ((Item.eua high low).onScreen mode fieldStart screen) ↔
      screen.EraseFits mode (decodeAddress mode high low) := by
  obtain ⟨fieldStarts, length⟩ := @onScreen_eua_keeps screen mode high low fieldStart
    valid laid
  by_cases named : decodeAddress mode high low < AddressCalculator.getMaxPositions mode
  · obtain ⟨cells, address⟩ := @onScreen_eua screen mode high low fieldStart valid laid
      inside named
    constructor
    · intro erases
      refine ⟨named, fun pos marked within free => ?_⟩
      have posInside := valid.starts_lt pos marked
      have written := cells pos posInside
      rw [erases.cells pos posInside, if_neg fun spared => spared.2.2 marked,
        if_pos ⟨within, free⟩] at written
      exact written
    · rintro ⟨-, held⟩
      refine ⟨fun pos posInside => ?_, length, fieldStarts, address⟩
      rw [cells pos posInside]
      by_cases erased : UpTo screen.cursorAddress (decodeAddress mode high low) pos ∧
          screen.protectsAt pos = false
      · by_cases marked : pos ∈ screen.fieldStarts
        · rw [if_pos erased, if_neg fun spared => spared.2.2 marked,
            held pos marked erased.1 erased.2]
        · rw [if_pos erased, if_pos ⟨erased.1, erased.2, marked⟩]
      · rw [if_neg erased, if_neg fun spared => erased ⟨spared.1, spared.2.1⟩]
  · constructor
    · intro erases
      have start : screen.OnScreen screen.getPosition :=
        ⟨valid.cursorRow_lt, valid.cursorCol_lt⟩
      have kept := (eraseUnprotected_spec valid laid start (screen.cellsUpTo
        (screen.targetPosition (decodeAddress mode high low) mode))).1
      have address := @cursorAddress_moved mode (decodeAddress mode high low) screen _
        kept.rows kept.cols
      exact (targetPosition_beyond named inside (address.symm.trans erases.address)).elim
    · exact fun fits => (named fits.1).elim

end Eua

end ScreenBuffer

namespace DataStreamParser

open ScreenBuffer

/-- The handler of EUA does what is asked of it exactly when the mode can name the
target and the attributes of unprotected fields in the range are spaces already. -/
theorem handleEua_erases_iff {parser : DataStreamParser} {high low : UInt8}
    {bytes : List UInt8} (valid : parser.screen.Valid) (laid : parser.screen.LaidOut)
    (here : parser.At (high :: low :: bytes)) (mirrored : parser.pos ≤ parser.parserPos)
    (inside : decodeAddress parser.addressingMode high low < parser.screen.size) :
    (∃ after, handleEua parser = .ok () after ∧
        ErasesUnprotected (decodeAddress parser.addressingMode high low) parser.screen
          after.screen) ↔
      parser.screen.EraseFits parser.addressingMode
        (decodeAddress parser.addressingMode high low) := by
  rw [handleEua_at here mirrored,
    ← @onScreen_eua_erases_iff _ _ _ _ parser.resolveFieldStartPosition valid laid inside]
  constructor
  · rintro ⟨after, same, erases⟩
    cases same
    exact erases
  · exact fun erases => ⟨_, rfl, erases⟩

/-- A parser on a small screen with a protected field of four cells and an
unprotected one of two, before an EUA order from one position to another. -/
def beforeEua (start : Nat × Nat) (low : UInt8) : DataStreamParser :=
  { smallParser 0 0 with
    screen := (((smallParser 0 0).screen.setAttribute 0x40 (some (0, 0))).setAttribute 0x00
      (some (1, 1))).setPosition start.1 start.2
    data := [0x00, low] }

theorem beforeEua_valid (start : Nat × Nat) (low : UInt8) :
    (beforeEua start low).screen.Valid :=
  (((smallParser_valid 0 0).setAttribute 0x40 (some (0, 0))).setAttribute 0x00
    (some (1, 1))).setPosition start.1 start.2

theorem beforeEua_laidOut (start : Nat × Nat) (low : UInt8) :
    (beforeEua start low).screen.LaidOut := by
  have marked : ∀ start ∈ (((smallParser 0 0).screen.setAttribute 0x40
      (some (0, 0))).storeAttribute 0x00 4).fieldStarts, start < 6 := by
    decide +kernel
  have detected := LaidOut.detectFields marked
  exact ⟨detected.layout, detected.cached⟩

/-- From the last cell over the end of the screen. -/
theorem handleEua_erases_lastCell :
    ∃ after, handleEua (beforeEua (1, 2) 0x02) = .ok () after ∧
      ErasesUnprotected 2 (beforeEua (1, 2) 0x02).screen after.screen :=
  (@handleEua_erases_iff (beforeEua (1, 2) 0x02) 0x00 0x02 [] (beforeEua_valid _ _)
    (beforeEua_laidOut _ _) ⟨[], rfl⟩ (Nat.le_refl 0) (by decide +kernel)).mpr
      (by decide +kernel)

/-- From the first cell to the last one: the attribute of the second field is
erased. -/
theorem not_handleEua_erases :
    ¬ ∀ (parser : DataStreamParser) (high low : UInt8) (bytes : List UInt8),
      parser.screen.Valid → parser.screen.LaidOut →
        parser.At (high :: low :: bytes) → parser.pos ≤ parser.parserPos →
          decodeAddress parser.addressingMode high low < parser.screen.size →
            ∃ after, handleEua parser = .ok () after ∧
              ErasesUnprotected (decodeAddress parser.addressingMode high low)
                parser.screen after.screen := by
  intro claimed
  have here : (beforeEua (0, 0) 0x05).At [0x00, 0x05] := ⟨[], rfl⟩
  have inside : decodeAddress (beforeEua (0, 0) 0x05).addressingMode 0x00 0x05 <
      (beforeEua (0, 0) 0x05).screen.size := by decide +kernel
  obtain ⟨after, ran, erases⟩ := claimed (beforeEua (0, 0) 0x05) 0x00 0x05 []
    (beforeEua_valid _ _) (beforeEua_laidOut _ _) here (Nat.le_refl 0) inside
  rw [handleEua_at here (Nat.le_refl 0)] at ran
  cases ran
  have fits := (@onScreen_eua_erases_iff _ _ _ _ (beforeEua (0, 0)
    0x05).resolveFieldStartPosition (beforeEua_valid _ _) (beforeEua_laidOut _ _)
      inside).mp erases
  exact absurd fits (by decide +kernel)

end DataStreamParser

end Pure3270
