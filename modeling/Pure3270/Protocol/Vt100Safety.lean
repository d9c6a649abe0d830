import Pure3270.Protocol.Vt100Chunks

/-!
# Bounds and erasing of the VT100 parser

Every action clamps the cursor on its own, whatever its parameters are, so that the
cursor and the saved cursor stay on the screen in every state of a run.  An erase
command blanks the cells of its range; only the one that erases all of the display
clears the screen as a whole and with it what is not in a cell.
-/

namespace Pure3270

open Foundations

namespace Vt100Parser

open Vt100

/-- The loop of `_parse_text` with a bound on its rounds; `none` where the bound is
spent. -/
def parseText : Nat → List UInt8 → Vt100Parser → Option Vt100Parser
  | 0, _, _ => none
  | fuel + 1, text, parser =>
      match token text with
      | none => some parser
      | some (action, count) => parseText fuel (text.drop count) (parser.perform action)

/-- Every round takes a character. -/
theorem parseText_eq {fuel : Nat} {text : List UInt8} (enough : text.length < fuel)
    (parser : Vt100Parser) :
    parseText fuel text parser = some ((scanner.scan text).1.foldl perform parser) := by
  induction fuel generalizing text parser with
  | zero => omega
  | succ fuel ih =>
      cases found : token text with
      | none =>
          have nothing : scanner.scan text = ([], text) := scanner.scan_none found
          rw [parseText, found, nothing]
          rfl
      | some pair =>
          obtain ⟨action, count⟩ := pair
          have taken := (sequence_of_token found).2
          have left : (text.drop count).length < fuel := by
            rw [List.length_drop]
            omega
          have more : scanner.scan text = _ := scanner.scan_some found
          rw [parseText, found, more]
          exact ih left (parser.perform action)

/-- The state after some of the actions of a text. -/
def reached (data : List UInt8) (count : Nat) (parser : Vt100Parser) : Vt100Parser :=
  ((scanner.scan (decodeAsciiIgnore data)).1.take count).foldl perform parser

/-- Both cursors are on the screen, and the buffer has a byte for each cell. -/
structure Safe (parser : Vt100Parser) : Prop where
  row_lt : parser.currentRow < parser.screen.rows
  col_lt : parser.currentCol < parser.screen.cols
  savedRow_lt : parser.savedRow < parser.screen.rows
  savedCol_lt : parser.savedCol < parser.screen.cols
  buffer_length : parser.screen.buffer.length = parser.screen.size

theorem safe_init {screen : ScreenBuffer} (length : screen.buffer.length = screen.size) :
    (init screen).Safe where
  row_lt := screen.rows_pos
  col_lt := screen.cols_pos
  savedRow_lt := screen.rows_pos
  savedCol_lt := screen.cols_pos
  buffer_length := length

/-- The screen changes neither its size nor its mode. -/
structure SameShape (before after : ScreenBuffer) : Prop where
  rows : after.rows = before.rows
  cols : after.cols = before.cols
  asciiMode : after.asciiMode = before.asciiMode

theorem SameShape.refl (screen : ScreenBuffer) : SameShape screen screen :=
  ⟨rfl, rfl, rfl⟩

theorem SameShape.trans {before middle after : ScreenBuffer}
    (first : SameShape before middle) (second : SameShape middle after) :
    SameShape before after where
  rows := second.rows.trans first.rows
  cols := second.cols.trans first.cols
  asciiMode := second.asciiMode.trans first.asciiMode

theorem SameShape.size {before after : ScreenBuffer} (same : SameShape before after) :
    after.size = before.size := by
  unfold ScreenBuffer.size
  rw [same.rows, same.cols]

/-- What keeps the parser safe: the cursors stay, and the screen keeps its size. -/
structure Keeps (before after : Vt100Parser) : Prop where
  shape : SameShape before.screen after.screen
  safe : before.Safe → after.Safe

variable {parser : Vt100Parser}

theorem Keeps.refl (parser : Vt100Parser) : Keeps parser parser where
  shape := .refl _
  safe := id

/-- A cursor on the screen may go anywhere on it. -/
theorem keeps_moved {row col : Nat}
    (inside : parser.Safe → row < parser.screen.rows ∧ col < parser.screen.cols) :
    Keeps parser { parser with currentRow := row, currentCol := col } where
  shape := .refl _
  safe safe := { safe with row_lt := (inside safe).1, col_lt := (inside safe).2 }

/-- The buffer may get other bytes. -/
theorem keeps_buffer {buffer : List UInt8}
    (length : buffer.length = parser.screen.buffer.length) :
    Keeps parser { parser with screen := { parser.screen with buffer } } where
  shape := ⟨rfl, rfl, rfl⟩
  safe safe := { safe with buffer_length := length.trans safe.buffer_length }

theorem keeps_moveCursor (row col : Nat) (parser : Vt100Parser) :
    Keeps parser (parser.moveCursor row col) := by
  have rows_pos := parser.screen.rows_pos
  have cols_pos := parser.screen.cols_pos
  exact keeps_moved fun _ => ⟨by omega, by omega⟩

theorem keeps_saveCursor (parser : Vt100Parser) : Keeps parser parser.saveCursor where
  shape := .refl _
  safe safe := { safe with savedRow_lt := safe.row_lt, savedCol_lt := safe.col_lt }

theorem keeps_restoreCursor (parser : Vt100Parser) : Keeps parser parser.restoreCursor :=
  keeps_moved fun safe => ⟨safe.savedRow_lt, safe.savedCol_lt⟩

theorem keeps_index (parser : Vt100Parser) : Keeps parser parser.index := by
  unfold index
  split
  · exact keeps_moved fun safe => ⟨by omega, safe.col_lt⟩
  · exact .refl parser

theorem keeps_reverseIndex (parser : Vt100Parser) : Keeps parser parser.reverseIndex :=
  keeps_moved fun safe => ⟨Nat.lt_of_le_of_lt (Nat.sub_le _ 1) safe.row_lt, safe.col_lt⟩

theorem sameShape_clear (screen : ScreenBuffer) : SameShape screen screen.clear :=
  ⟨rfl, rfl, rfl⟩

theorem buffer_clear (screen : ScreenBuffer) :
    screen.clear.buffer = List.replicate screen.size screen.blank := rfl

theorem length_buffer_clear (screen : ScreenBuffer) :
    screen.clear.buffer.length = screen.clear.size := by
  rw [buffer_clear, List.length_replicate, (sameShape_clear screen).size]

theorem keeps_reset (parser : Vt100Parser) : Keeps parser parser.reset where
  shape := sameShape_clear parser.screen
  safe _ := safe_init (length_buffer_clear parser.screen)

theorem keeps_clear (parser : Vt100Parser) :
    Keeps parser { parser with screen := parser.screen.clear } where
  shape := sameShape_clear parser.screen
  safe safe := { safe with buffer_length := length_buffer_clear parser.screen }

theorem keeps_storeChar (char : UInt8) (parser : Vt100Parser) :
    Keeps parser { parser with screen := parser.storeChar char } := by
  unfold storeChar
  dsimp only
  split
  · exact keeps_buffer List.length_set
  · exact .refl parser

theorem Keeps.trans {before middle after : Vt100Parser} (first : Keeps before middle)
    (second : Keeps middle after) : Keeps before after where
  shape := first.shape.trans second.shape
  safe safe := second.safe (first.safe safe)

theorem keeps_writeChar (char : UInt8) (parser : Vt100Parser) :
    Keeps parser (parser.writeChar char) := by
  have rows_pos := parser.screen.rows_pos
  have cols_pos := parser.screen.cols_pos
  have stored := keeps_storeChar char parser
  unfold writeChar
  dsimp only
  split
  · exact keeps_moved fun _ => ⟨by omega, cols_pos⟩
  · exact keeps_moved fun safe => ⟨safe.row_lt, cols_pos⟩
  · exact keeps_moved fun safe => ⟨safe.row_lt, by omega⟩
  · exact keeps_moved fun safe =>
      ⟨safe.row_lt, Nat.lt_of_le_of_lt (Nat.sub_le _ 1) safe.col_lt⟩
  · exact .refl parser
  · split
    · refine stored.trans (keeps_moved fun safe => ⟨?_, safe.col_lt.trans_le' (Nat.zero_le _)⟩)
      rw [stored.shape.rows]
      omega
    · rename_i fits
      refine stored.trans (keeps_moved fun safe => ⟨safe.row_lt, ?_⟩)
      rw [stored.shape.cols]
      omega

theorem length_blankCells (first last : Nat) (screen : ScreenBuffer) :
    (blankCells first last screen).buffer.length = screen.buffer.length :=
  List.length_mapIdx

theorem keeps_blankCells (first last : Nat) (parser : Vt100Parser) :
    Keeps parser { parser with screen := blankCells first last parser.screen } :=
  keeps_buffer (length_blankCells first last parser.screen)

theorem keeps_eraseDisplay (param : Nat) (parser : Vt100Parser) :
    Keeps parser (parser.eraseDisplay param) := by
  unfold eraseDisplay
  dsimp only
  split
  · exact keeps_blankCells _ _ parser
  · split
    · exact keeps_blankCells _ _ parser
    · exact .refl parser
  · exact keeps_clear parser
  · exact .refl parser

theorem keeps_eraseLine (param : Nat) (parser : Vt100Parser) :
    Keeps parser (parser.eraseLine param) := by
  unfold eraseLine
  dsimp only
  split
  · exact keeps_blankCells _ _ parser
  · exact keeps_blankCells _ _ parser
  · exact keeps_blankCells _ _ parser
  · exact .refl parser

theorem keeps_handleCsiCommand (command : UInt8) (params : List Nat)
    (parser : Vt100Parser) : Keeps parser (parser.handleCsiCommand command params) := by
  unfold handleCsiCommand
  dsimp only
  split
  · exact keeps_moveCursor _ _ parser
  · exact keeps_moveCursor _ _ parser
  · exact keeps_moveCursor _ _ parser
  · exact keeps_moveCursor _ _ parser
  · exact keeps_moveCursor _ _ parser
  · exact keeps_moveCursor _ _ parser
  · exact keeps_eraseDisplay _ parser
  · exact keeps_eraseLine _ parser
  · exact keeps_saveCursor parser
  · exact keeps_restoreCursor parser
  · exact .refl parser

theorem keeps_perform (parser : Vt100Parser) (action : Action) :
    Keeps parser (parser.perform action) := by
  cases action with
  | writeChar char => exact keeps_writeChar char parser
  | shiftOut => exact ⟨.refl _, fun safe => { safe with }⟩
  | shiftIn => exact ⟨.refl _, fun safe => { safe with }⟩
  | designateG0 char => exact ⟨.refl _, fun safe => { safe with }⟩
  | designateG1 char => exact ⟨.refl _, fun safe => { safe with }⟩
  | saveCursor => exact keeps_saveCursor parser
  | restoreCursor => exact keeps_restoreCursor parser
  | index => exact keeps_index parser
  | reverseIndex => exact keeps_reverseIndex parser
  | reset => exact keeps_reset parser
  | csiCommand command params => exact keeps_handleCsiCommand command params parser
  | ignored => exact .refl parser

theorem keeps_foldl (actions : List Action) (parser : Vt100Parser) :
    Keeps parser (actions.foldl perform parser) := by
  induction actions generalizing parser with
  | nil => exact .refl parser
  | cons action actions ih => exact (keeps_perform parser action).trans (ih _)

/-- The range that the parameter of an erase command gives, seen from the cursor. -/
def InRange (param position cell : Nat) : Prop :=
  match param with
  | 0 => position ≤ cell
  | 1 => cell ≤ position
  | 2 => True
  | _ => False

/-- The cells of the row of the cursor. -/
def InRow (parser : Vt100Parser) (cell : Nat) : Prop :=
  parser.currentRow * parser.screen.cols ≤ cell ∧
    cell < parser.currentRow * parser.screen.cols + parser.screen.cols

/-- The two erase commands, J for the display and K for the line. -/
inductive EraseCommand where
  | display
  | line
  deriving DecidableEq

def EraseCommand.char : EraseCommand → UInt8
  | display => 0x4A
  | line => 0x4B

/-- The cells an erase command is for. -/
def Erased (command : EraseCommand) (param : Nat) (parser : Vt100Parser) (cell : Nat) :
    Prop :=
  InRange param parser.position cell ∧
    match command with
    | .display => True
    | .line => parser.InRow cell

/-- The bytes of the erased cells are blanks, the others are as they were. -/
def Blanked (command : EraseCommand) (param : Nat) (before after : Vt100Parser) : Prop :=
  ∀ cell < before.screen.size,
    (Erased command param before cell → after.screen.buffer[cell]? = some before.screen.blank) ∧
      (¬ Erased command param before cell →
        after.screen.buffer[cell]? = before.screen.buffer[cell]?)

/-- Nothing but bytes of the buffer differs. -/
def OnlyCells (before after : Vt100Parser) : Prop :=
  after = { before with screen := { before.screen with buffer := after.screen.buffer } }

/-- Exactly the cells of the range are erased, and nothing else is changed. -/
structure ErasesExactly (command : EraseCommand) (param : Nat) (before after : Vt100Parser) :
    Prop where
  cells : Blanked command param before after
  frame : OnlyCells before after

theorem blankCells_getElem? {first last cell : Nat} {screen : ScreenBuffer}
    (inside : cell < screen.buffer.length) :
    (blankCells first last screen).buffer[cell]? =
      if first ≤ cell ∧ cell < last then some screen.blank else screen.buffer[cell]? := by
  show (screen.buffer.mapIdx _)[cell]? = _
  rw [List.getElem?_mapIdx, List.getElem?_eq_getElem inside, Option.map_some]
  split <;> rfl

theorem erasesExactly_blankCells {command : EraseCommand} {param first last : Nat}
    (safe : parser.Safe)
    (range : ∀ cell < parser.screen.size,
      Erased command param parser cell ↔ first ≤ cell ∧ cell < last) :
    ErasesExactly command param parser
      { parser with screen := blankCells first last parser.screen } where
  cells cell inside := by
    have found := @blankCells_getElem? first last cell parser.screen
      (by rw [safe.buffer_length]; exact inside)
    constructor
    · intro erased
      rw [found, if_pos ((range cell inside).mp erased)]
    · intro spared
      rw [found, if_neg fun here => spared ((range cell inside).mpr here)]
  frame := rfl

theorem erasesExactly_nothing {command : EraseCommand} {param : Nat}
    (nothing : ∀ cell, ¬ Erased command param parser cell) :
    ErasesExactly command param parser parser where
  cells cell _ := ⟨fun erased => absurd erased (nothing cell), fun _ => rfl⟩
  frame := rfl

theorem Safe.position_lt (safe : parser.Safe) : parser.position < parser.screen.size :=
  ScreenBuffer.address_lt safe.row_lt safe.col_lt

theorem eraseDisplay_exactly (safe : parser.Safe) {param : Nat} (part : param ≠ 2) :
    ErasesExactly .display param parser (parser.eraseDisplay param) := by
  have length := safe.buffer_length
  unfold eraseDisplay
  dsimp only
  split
  · refine erasesExactly_blankCells safe fun cell inside => ?_
    simp only [Erased, InRange, and_true, length, inside]
  · rw [if_pos (by rw [length]; exact safe.position_lt)]
    refine erasesExactly_blankCells safe fun cell _ => ?_
    simp only [Erased, InRange, and_true, Nat.zero_le, true_and, Nat.lt_succ_iff]
  · exact absurd rfl part
  · rename_i _ noStart noEnd noAll
    refine erasesExactly_nothing fun cell erased => ?_
    unfold Erased InRange at erased
    split at erased
    · exact noStart rfl
    · exact noEnd rfl
    · exact noAll rfl
    · exact erased.1

/-- All of the display is blank, and the rest of the screen is cleared with it. -/
theorem eraseDisplay_all (parser : Vt100Parser) :
    Blanked .display 2 parser (parser.eraseDisplay 2) := by
  intro cell inside
  refine ⟨fun _ => ?_, fun spared => absurd ⟨trivial, trivial⟩ spared⟩
  show parser.screen.clear.buffer[cell]? = _
  rw [buffer_clear, List.getElem?_replicate_of_lt inside]

theorem eraseLine_exactly (safe : parser.Safe) (param : Nat) :
    ErasesExactly .line param parser (parser.eraseLine param) := by
  have column := safe.col_lt
  have position : parser.position =
      parser.currentRow * parser.screen.cols + parser.currentCol := rfl
  unfold eraseLine
  dsimp only
  split
  · refine erasesExactly_blankCells safe fun cell _ => ?_
    simp only [Erased, InRange, InRow]
    omega
  · refine erasesExactly_blankCells safe fun cell _ => ?_
    simp only [Erased, InRange, InRow]
    omega
  · refine erasesExactly_blankCells safe fun cell _ => ?_
    simp only [Erased, InRange, InRow, true_and]
  · rename_i _ noEnd noStart noAll
    refine erasesExactly_nothing fun cell erased => ?_
    unfold Erased InRange at erased
    split at erased
    · exact noEnd rfl
    · exact noStart rfl
    · exact noAll rfl
    · exact erased.1

/-- What an erase command with these parameters does to the parser. -/
def erase (command : EraseCommand) (params : List Nat) (parser : Vt100Parser) :
    Vt100Parser :=
  parser.perform (.csiCommand command.char params)

theorem erase_cells (safe : parser.Safe) (command : EraseCommand) (params : List Nat) :
    Blanked command (params.getD 0 0) parser (parser.erase command params) := by
  cases command with
  | display =>
      by_cases all : params.getD 0 0 = 2
      · have cleared := eraseDisplay_all parser
        rw [← all] at cleared
        exact cleared
      · exact (eraseDisplay_exactly safe all).cells
  | line => exact (eraseLine_exactly safe _).cells

theorem erase_frame (safe : parser.Safe) (command : EraseCommand) (params : List Nat) :
    if command = .display ∧ params.getD 0 0 = 2 then
      parser.erase command params = { parser with screen := parser.screen.clear }
    else OnlyCells parser (parser.erase command params) := by
  split
  · rename_i all
    obtain ⟨rfl, all⟩ := all
    show parser.eraseDisplay (params.getD 0 0) = _
    rw [all]
    rfl
  · rename_i part
    cases command with
    | display => exact (eraseDisplay_exactly safe fun all => part ⟨rfl, all⟩).frame
    | line => exact (eraseLine_exactly safe _).frame

/-- A call reads its text to the end.  In every state on the way both cursors are on the
screen, the buffer has its length, and an erase command blanks exactly the cells of its
range; it changes nothing else, unless it clears the whole screen. -/
theorem parse_safe (safe : parser.Safe) (data : List UInt8) :
    parseText (data.length + 1) (decodeAsciiIgnore data) parser = some (parser.parse data) ∧
      (parser.parse data).Safe ∧
      (parser.parse data).screen.buffer.length = parser.screen.buffer.length ∧
      ∀ count, (reached data count parser).Safe ∧
        ∀ command params,
          Blanked command (params.getD 0 0) (reached data count parser)
            ((reached data count parser).erase command params) ∧
          if command = .display ∧ params.getD 0 0 = 2 then
            (reached data count parser).erase command params =
              { reached data count parser with
                screen := (reached data count parser).screen.clear }
          else
            OnlyCells (reached data count parser)
              ((reached data count parser).erase command params) := by
  have shorter : (decodeAsciiIgnore data).length ≤ data.length := List.length_filter_le _ data
  have final : Keeps parser (parser.parse data) := keeps_foldl _ parser
  have last := final.safe safe
  refine ⟨parseText_eq (Nat.lt_succ_of_le shorter) parser, last, ?_, fun count => ?_⟩
  · rw [last.buffer_length, safe.buffer_length, final.shape.size]
  · have here : (reached data count parser).Safe := (keeps_foldl _ parser).safe safe
    exact ⟨here, fun command params =>
      ⟨erase_cells here command params, erase_frame here command params⟩⟩

theorem parse_safe_small :
    smallVt100.Safe ∧ (smallVt100.parse [0x41, 0x1B, 0x5B, 0x32, 0x4A]).Safe :=
  have safe : smallVt100.Safe := safe_init rfl
  ⟨safe, (parse_safe safe _).2.1⟩

/-- A screen with a field attribute. -/
def attributedVt100 : Vt100Parser :=
  init (smallVt100.screen.setAttribute 0x60 none)

/-- ESC [ 2 J takes the attributes away as well. -/
theorem not_erasesExactly_display :
    attributedVt100.Safe ∧
      ¬ ErasesExactly .display 2 attributedVt100 (attributedVt100.parse [0x1B, 0x5B, 0x32, 0x4A]) := by
  refine ⟨safe_init rfl, fun exactly => ?_⟩
  have attributes := congrArg (·.screen.attributes) exactly.frame
  revert attributes
  decide +kernel

end Vt100Parser

end Pure3270
