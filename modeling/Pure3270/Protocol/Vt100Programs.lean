import Mathlib.Data.Nat.Digits.Defs
import Mathlib.Tactic.IntervalCases
import Pure3270.Foundations.Terminals
import Pure3270.Protocol.Vt100Safety

/-!
# VT100 programs

What the parser does to its linear buffer and its numbers is what a terminal does to its
grid.  A program of VT100 instructions, written out with its escape sequences and decimal
parameters, shows what its instructions say.
-/

namespace Pure3270

open Foundations

namespace Vt100

/-- The byte that a character is stored as. -/
def storedChar (asciiMode : Bool) (char : UInt8) : UInt8 :=
  if asciiMode then char else Ebcdic.encodeChar (Char.ofNat char.toNat)

def blankChar (asciiMode : Bool) : UInt8 := if asciiMode then 0x20 else 0x40

def charMeaning (asciiMode : Bool) (char : UInt8) : Terminal.Command UInt8 :=
  match char with
  | 0x0A => .lineFeed
  | 0x0D => .carriageReturn
  | 0x09 => .tabulate
  | 0x08 => .backward 1
  | 0x07 => .ignore
  | _ => .print (storedChar asciiMode char)

/-- The part that the parameter of an erase command names. -/
def partOf : Nat → Option Terminal.Part
  | 0 => some .onward
  | 1 => some .back
  | 2 => some .all
  | _ => none

def csiMeaning (command : UInt8) (params : List Nat) : Terminal.Command UInt8 :=
  let count := Vt100Parser.countParam params 0
  match command with
  | 0x48 | 0x66 => .moveTo (count - 1) (Vt100Parser.countParam params 1 - 1)
  | 0x41 => .up count
  | 0x42 => .down count
  | 0x43 => .forward count
  | 0x44 => .backward count
  | 0x4A => (partOf (params.getD 0 0)).elim .ignore .eraseDisplay
  | 0x4B => (partOf (params.getD 0 0)).elim .ignore .eraseLine
  | 0x73 => .save
  | 0x75 => .restore
  | _ => .ignore

/-- Character sets and shifts change nothing that is shown. -/
def meaning (asciiMode : Bool) : Action → Terminal.Command UInt8
  | .writeChar char => charMeaning asciiMode char
  | .shiftOut | .shiftIn | .designateG0 _ | .designateG1 _ => .ignore
  | .saveCursor => .save
  | .restoreCursor => .restore
  | .index => .down 1
  | .reverseIndex => .up 1
  | .reset => .reset
  | .csiCommand command params => csiMeaning command params
  | .ignored => .ignore

end Vt100

namespace Vt100Parser

open Vt100 Terminal

variable {rows cols : Nat} {asciiMode : Bool} {terminal : Terminal rows cols UInt8}
  {parser : Vt100Parser}

/-- The parser's screen and cursors are those of the terminal. -/
structure Shows (asciiMode : Bool) (terminal : Terminal rows cols UInt8)
    (parser : Vt100Parser) : Prop where
  rows_eq : parser.screen.rows = rows
  cols_eq : parser.screen.cols = cols
  mode : parser.screen.asciiMode = asciiMode
  length : parser.screen.buffer.length = rows * cols
  stored : Stored terminal.display parser.screen.buffer
  row : parser.currentRow = terminal.row
  col : parser.currentCol = terminal.col
  savedRow : parser.savedRow = terminal.savedRow
  savedCol : parser.savedCol = terminal.savedCol

namespace Shows

theorem blank_eq (shows : Shows asciiMode terminal parser) :
    parser.screen.blank = blankChar asciiMode := by
  unfold ScreenBuffer.blank blankChar
  rw [shows.mode]

theorem position_eq (shows : Shows asciiMode terminal parser) :
    parser.position = terminal.row * cols + terminal.col := by
  unfold position
  rw [shows.row, shows.col, shows.cols_eq]

theorem moved (shows : Shows asciiMode terminal parser) {row col toRow toCol : Nat}
    (toRow_eq : row = min toRow (rows - 1)) (toCol_eq : col = min toCol (cols - 1)) :
    Shows asciiMode (terminal.moveTo toRow toCol)
      { parser with currentRow := row, currentCol := col } :=
  { shows with row := toRow_eq, col := toCol_eq }

theorem moveCursor (shows : Shows asciiMode terminal parser) {row col toRow toCol : Nat}
    (toRow_eq : min (rows - 1) row = min toRow (rows - 1))
    (toCol_eq : min (cols - 1) col = min toCol (cols - 1)) :
    Shows asciiMode (terminal.moveTo toRow toCol) (parser.moveCursor row col) := by
  refine shows.moved ?_ ?_
  · rw [shows.rows_eq]
    exact toRow_eq
  · rw [shows.cols_eq]
    exact toCol_eq

theorem save (shows : Shows asciiMode terminal parser) :
    Shows asciiMode (terminal.obey (blankChar asciiMode) .save) parser.saveCursor :=
  { shows with savedRow := shows.row, savedCol := shows.col }

theorem restore (shows : Shows asciiMode terminal parser) :
    Shows asciiMode (terminal.obey (blankChar asciiMode) .restore) parser.restoreCursor :=
  { shows with row := shows.savedRow, col := shows.savedCol }

theorem index (shows : Shows asciiMode terminal parser) :
    Shows asciiMode (terminal.obey (blankChar asciiMode) (.down 1)) parser.index := by
  have bound := terminal.row.isLt
  have inside := terminal.col.isLt
  have rowHere := shows.row
  have colHere := shows.col
  unfold Vt100Parser.index
  rw [shows.rows_eq]
  split
  · exact shows.moved (by omega) (by omega)
  · have still : Shows asciiMode (terminal.moveTo (terminal.row + 1) terminal.col)
        { parser with currentRow := parser.currentRow, currentCol := parser.currentCol } :=
      shows.moved (by omega) (by omega)
    exact still

theorem reverseIndex (shows : Shows asciiMode terminal parser) :
    Shows asciiMode (terminal.obey (blankChar asciiMode) (.up 1)) parser.reverseIndex := by
  have bound := terminal.row.isLt
  have inside := terminal.col.isLt
  have rowHere := shows.row
  have colHere := shows.col
  have above : Shows asciiMode (terminal.moveTo (terminal.row - 1) terminal.col)
      { parser with currentRow := parser.currentRow - 1, currentCol := parser.currentCol } :=
    shows.moved (by omega) (by omega)
  exact above

theorem storeChar (shows : Shows asciiMode terminal parser) (char : UInt8) :
    Shows asciiMode (terminal.print (storedChar asciiMode char))
      { parser with screen := parser.storeChar char } := by
  have inside : parser.currentRow < parser.screen.rows ∧
      parser.currentCol < parser.screen.cols := by
    rw [shows.row, shows.col, shows.rows_eq, shows.cols_eq]
    exact ⟨terminal.row.isLt, terminal.col.isLt⟩
  have byte : (if parser.screen.asciiMode then char
      else Ebcdic.encodeChar (Char.ofNat char.toNat)) = storedChar asciiMode char := by
    unfold storedChar
    rw [shows.mode]
  unfold Vt100Parser.storeChar
  dsimp only
  rw [if_pos inside, shows.position_eq, byte]
  exact { shows with
    length := List.length_set.trans shows.length
    stored := shows.stored.print (storedChar asciiMode char) }

/-- The cursor behind the character that is stored. -/
theorem printed (shows : Shows asciiMode terminal parser) (char : UInt8) :
    Shows asciiMode (terminal.print (storedChar asciiMode char)).advance
      (if cols ≤ parser.currentCol + 1 then
        { parser with
          screen := parser.storeChar char
          currentRow := min (rows - 1) (parser.currentRow + 1)
          currentCol := 0 }
      else
        { parser with
          screen := parser.storeChar char
          currentCol := parser.currentCol + 1 }) := by
  have bound := terminal.row.isLt
  have inside := terminal.col.isLt
  have rowHere := shows.row
  have colHere := shows.col
  have stored := shows.storeChar char
  unfold Terminal.advance
  by_cases fits : terminal.col.val + 1 < cols
  · have same : (terminal.print (storedChar asciiMode char)).col.val + 1 < cols := fits
    rw [if_pos same, if_neg (by omega)]
    have next : Shows asciiMode ((terminal.print (storedChar asciiMode char)).moveTo
        terminal.row (terminal.col + 1))
        { parser with
          screen := parser.storeChar char
          currentRow := parser.currentRow
          currentCol := parser.currentCol + 1 } :=
      stored.moved (by omega) (by omega)
    exact next
  · have same : ¬ (terminal.print (storedChar asciiMode char)).col.val + 1 < cols := fits
    rw [if_neg same, if_pos (by omega)]
    have next : Shows asciiMode ((terminal.print (storedChar asciiMode char)).moveTo
        (terminal.row + 1) 0)
        { parser with
          screen := parser.storeChar char
          currentRow := min (rows - 1) (parser.currentRow + 1)
          currentCol := 0 } :=
      stored.moved (by omega) (by omega)
    exact next

theorem writeChar (shows : Shows asciiMode terminal parser) (char : UInt8) :
    Shows asciiMode (terminal.obey (blankChar asciiMode) (charMeaning asciiMode char))
      (parser.writeChar char) := by
  have bound := terminal.row.isLt
  have inside := terminal.col.isLt
  have rowHere := shows.row
  have colHere := shows.col
  unfold Vt100Parser.writeChar
  dsimp only
  rw [shows.rows_eq, shows.cols_eq]
  split
  · exact shows.moved (by omega) (by omega)
  · have start : Shows asciiMode (terminal.moveTo terminal.row 0)
        { parser with currentRow := parser.currentRow, currentCol := 0 } :=
      shows.moved (by omega) (by omega)
    exact start
  · have stop : Shows asciiMode (terminal.moveTo terminal.row ((terminal.col / 8 + 1) * 8))
        { parser with
          currentRow := parser.currentRow
          currentCol := min (cols - 1) ((parser.currentCol / 8 + 1) * 8) } :=
      shows.moved (by omega) (by rw [colHere]; omega)
    exact stop
  · have back : Shows asciiMode (terminal.moveTo terminal.row (terminal.col - 1))
        { parser with
          currentRow := parser.currentRow, currentCol := parser.currentCol - 1 } :=
      shows.moved (by omega) (by omega)
    exact back
  · exact shows
  · -- None of the control characters.
    unfold charMeaning
    split <;> first | exact shows.printed char | contradiction

theorem erase (shows : Shows asciiMode terminal parser)
    {erased : Fin rows → Fin cols → Bool} {first last : Nat}
    (run : ∀ row col, erased row col = true ↔
      first ≤ row.val * cols + col.val ∧ row.val * cols + col.val < last) :
    Shows asciiMode (terminal.erase (blankChar asciiMode) erased)
      { parser with screen := blankCells first last parser.screen } := by
  unfold blankCells
  rw [shows.blank_eq]
  exact { shows with
    length := List.length_mapIdx.trans shows.length
    stored := shows.stored.erase (blankChar asciiMode) run }

theorem clear (shows : Shows asciiMode terminal parser) :
    Shows asciiMode (terminal.erase (blankChar asciiMode) (terminal.onDisplay .all))
      { parser with screen := parser.screen.clear } := by
  have cleared : parser.screen.clear.buffer =
      List.replicate (rows * cols) (blankChar asciiMode) := by
    rw [buffer_clear, shows.blank_eq]
    unfold ScreenBuffer.size
    rw [shows.rows_eq, shows.cols_eq]
  have shape := sameShape_clear parser.screen
  exact { shows with
    rows_eq := shape.rows.trans shows.rows_eq
    cols_eq := shape.cols.trans shows.cols_eq
    mode := shape.asciiMode.trans shows.mode
    length := by rw [cleared, List.length_replicate]
    stored := by rw [cleared]; exact Stored.blank (blankChar asciiMode) }

theorem eraseDisplay (shows : Shows asciiMode terminal parser) (param : Nat) :
    Shows asciiMode
      (terminal.obey (blankChar asciiMode) ((partOf param).elim .ignore .eraseDisplay))
      (parser.eraseDisplay param) := by
  have inside := terminal.col.isLt
  have position := shows.position_eq
  have order := fun (row : Fin rows) (col : Fin cols) =>
    @rowMajor_le_iff cols row terminal.row col terminal.col col.isLt inside
  have reverse := fun (row : Fin rows) (col : Fin cols) =>
    @rowMajor_le_iff cols terminal.row row terminal.col col inside col.isLt
  unfold Vt100Parser.eraseDisplay
  match param with
  | 0 =>
      refine shows.erase fun row col => ?_
      have place := (List.getElem?_eq_some_iff.mp (shows.stored row col)).1
      rw [position, reverse]
      simp only [Terminal.onDisplay, Bool.or_eq_true, Bool.and_eq_true, decide_eq_true_eq,
        Fin.lt_def, Fin.le_def, Fin.ext_iff]
      omega
  | 1 =>
      have place := (List.getElem?_eq_some_iff.mp (shows.stored terminal.row terminal.col)).1
      dsimp only
      rw [position, if_pos place]
      refine shows.erase fun row col => ?_
      rw [Nat.lt_succ_iff, order]
      simp only [Terminal.onDisplay, Bool.or_eq_true, Bool.and_eq_true, decide_eq_true_eq,
        Fin.lt_def, Fin.le_def, Fin.ext_iff]
      omega
  | 2 => exact shows.clear
  | _ + 3 => exact shows

theorem eraseLine (shows : Shows asciiMode terminal parser) (param : Nat) :
    Shows asciiMode
      (terminal.obey (blankChar asciiMode) ((partOf param).elim .ignore .eraseLine))
      (parser.eraseLine param) := by
  have inside := terminal.col.isLt
  have position := shows.position_eq
  have start : parser.currentRow * parser.screen.cols = terminal.row * cols := by
    rw [shows.row, shows.cols_eq]
  have order := fun (row : Fin rows) (col : Fin cols) (other : Nat) (within : other < cols) =>
    @rowMajor_le_iff cols row terminal.row col other col.isLt within
  have reverse := fun (row : Fin rows) (col : Fin cols) (other : Nat) (within : other < cols) =>
    @rowMajor_le_iff cols terminal.row row other col within col.isLt
  unfold Vt100Parser.eraseLine
  dsimp only
  rw [start, position, shows.cols_eq]
  match param with
  | 0 =>
      refine shows.erase fun row col => ?_
      have onward := reverse row col terminal.col inside
      have last := order row col (cols - 1) (by omega)
      have bound := col.isLt
      simp only [Terminal.onLine, Bool.and_eq_true, decide_eq_true_eq, Fin.le_def,
        Fin.ext_iff]
      omega
  | 1 =>
      refine shows.erase fun row col => ?_
      have first := reverse row col 0 (by omega)
      have back := order row col terminal.col inside
      simp only [Terminal.onLine, Bool.and_eq_true, decide_eq_true_eq, Fin.le_def,
        Fin.ext_iff]
      omega
  | 2 =>
      refine shows.erase fun row col => ?_
      have first := reverse row col 0 (by omega)
      have last := order row col (cols - 1) (by omega)
      have bound := col.isLt
      simp only [Terminal.onLine, Bool.and_true, decide_eq_true_eq, Fin.ext_iff]
      omega
  | _ + 3 => exact shows

theorem handleCsiCommand (shows : Shows asciiMode terminal parser) (command : UInt8)
    (params : List Nat) :
    Shows asciiMode (terminal.obey (blankChar asciiMode) (csiMeaning command params))
      (parser.handleCsiCommand command params) := by
  have bound := terminal.row.isLt
  have inside := terminal.col.isLt
  have rowHere := shows.row
  have colHere := shows.col
  unfold Vt100Parser.handleCsiCommand
  dsimp only
  rw [shows.rows_eq, shows.cols_eq]
  split
  · exact shows.moveCursor (by omega) (by omega)
  · exact shows.moveCursor (by omega) (by omega)
  · exact shows.moveCursor (by omega) (by omega)
  · exact shows.moveCursor (by omega) (by omega)
  · exact shows.moveCursor (by omega) (by omega)
  · exact shows.moveCursor (by omega) (by omega)
  · exact shows.eraseDisplay _
  · exact shows.eraseLine _
  · exact shows.save
  · exact shows.restore
  · -- No other command is among those of the parser.
    unfold csiMeaning
    split <;> first | exact shows | contradiction

theorem reset (shows : Shows asciiMode terminal parser) :
    Shows asciiMode (terminal.obey (blankChar asciiMode) .reset) parser.reset := by
  have cleared := shows.clear
  exact { cleared with
    row := (Nat.zero_min _).symm
    col := (Nat.zero_min _).symm
    savedRow := (Nat.zero_min _).symm
    savedCol := (Nat.zero_min _).symm }

theorem perform (shows : Shows asciiMode terminal parser) (action : Action) :
    Shows asciiMode (terminal.obey (blankChar asciiMode) (meaning asciiMode action))
      (parser.perform action) := by
  cases action with
  | writeChar char => exact shows.writeChar char
  | shiftOut => exact { shows with }
  | shiftIn => exact { shows with }
  | designateG0 char => exact { shows with }
  | designateG1 char => exact { shows with }
  | saveCursor => exact shows.save
  | restoreCursor => exact shows.restore
  | index => exact shows.index
  | reverseIndex => exact shows.reverseIndex
  | reset => exact shows.reset
  | csiCommand command params => exact shows.handleCsiCommand command params
  | ignored => exact shows

end Shows

/-- What a terminal shows after actions. -/
def displayed (asciiMode : Bool) (actions : List Action)
    (terminal : Terminal rows cols UInt8) : Terminal rows cols UInt8 :=
  (actions.map (meaning asciiMode)).foldl (obey (blankChar asciiMode)) terminal

/-- The actions that are found in the bytes of a call. -/
def actionsIn (data : List UInt8) : List Action := (scanner.scan (decodeAsciiIgnore data)).1

/-- The calls of the parser, one after another. -/
def parseCalls (calls : List (List UInt8)) (parser : Vt100Parser) : Vt100Parser :=
  calls.foldl (fun reached data => reached.parse data) parser

theorem Shows.parse_shows (shows : Shows asciiMode terminal parser) (data : List UInt8) :
    Shows asciiMode (displayed asciiMode (actionsIn data) terminal) (parser.parse data) := by
  unfold parse displayed actionsIn
  generalize (scanner.scan (decodeAsciiIgnore data)).1 = actions
  induction actions generalizing parser terminal with
  | nil => exact shows
  | cons action actions ih => exact ih (shows.perform action)

/-- Whatever the bytes of the calls, the parser shows what the sequences in them mean. -/
theorem Shows.parseCalls_shows (shows : Shows asciiMode terminal parser)
    (calls : List (List UInt8)) :
    Shows asciiMode (displayed asciiMode (calls.flatMap actionsIn) terminal)
      (parser.parseCalls calls) := by
  induction calls generalizing parser terminal with
  | nil => exact shows
  | cons data calls ih =>
      have later := ih (shows.parse_shows data)
      unfold displayed at later ⊢
      rw [List.flatMap_cons, List.map_append, List.foldl_append]
      exact later

end Vt100Parser

namespace Vt100

/-- A number that is short enough to be read. -/
structure Numeral where
  value : Nat
  short : (Nat.digits 10 value).length ≤ maxStrDigits

/-- The decimal digits; nothing stands for zero. -/
def decimal (number : Numeral) : List UInt8 :=
  (Nat.digits 10 number.value).reverse.map fun digit => UInt8.ofNat (0x30 + digit)

/-- One thing that a host tells the terminal. -/
inductive Instruction where
  /-- A character or a control character. -/
  | character (char : UInt8) (ascii : char < 0x80)
      (plain : char ∉ [esc, shiftOutChar, shiftInChar])
  | shift (alternate : Bool)
  /-- ESC and one character. -/
  | escape (next : UInt8) (ascii : next < 0x80) (noCsi : next ≠ 0x5B)
      (short : takesOneMore next = false)
  /-- ESC with a character set. -/
  | designate (next operand : UInt8) (ascii : next < 0x80) (operandAscii : operand < 0x80)
      (long : takesOneMore next = true)
  /-- ESC [, parameters and the letter of the command. -/
  | csi (params : List Numeral) (command : UInt8) (letter : isAlpha command = true)

namespace Instruction

def encode : Instruction → List UInt8
  | .character char _ _ => [char]
  | .shift alternate => [if alternate then shiftOutChar else shiftInChar]
  | .escape next _ _ _ => [esc, next]
  | .designate next operand _ _ _ => [esc, next, operand]
  | .csi params command _ =>
      esc :: 0x5B :: (List.intercalate [0x3B] (params.map decimal) ++ [command])

def action : Instruction → Action
  | .character char _ _ => .writeChar char
  | .shift alternate => if alternate then .shiftOut else .shiftIn
  | .escape next _ _ _ => simpleEscape next
  | .designate next operand _ _ _ => longEscape next operand
  | .csi params command _ =>
      .csiCommand command (if params = [] then [0] else params.map Numeral.value)

end Instruction

theorem digit_of_decimal {number : Numeral} {char : UInt8} (member : char ∈ decimal number) :
    ∃ digit ∈ Nat.digits 10 number.value, digit < 10 ∧ char.toNat = 0x30 + digit := by
  obtain ⟨digit, listed, rfl⟩ := List.mem_map.mp member
  rw [List.mem_reverse] at listed
  have small : digit < 10 := Nat.digits_lt_base (by decide) listed
  refine ⟨digit, listed, small, ?_⟩
  rw [UInt8.toNat_ofNat']
  omega

/-- The digits of a number are neither letters nor separators. -/
theorem plain_of_decimal {number : Numeral} {char : UInt8} (member : char ∈ decimal number) :
    isDigit char = true ∧ isAlpha char = false ∧ char ≠ 0x3B ∧ char < 0x80 := by
  obtain ⟨digit, _, small, value⟩ := digit_of_decimal member
  obtain rfl : char = UInt8.ofNat (0x30 + digit) := by
    rw [← value, UInt8.ofNat_toNat]
  clear value
  interval_cases digit <;> decide

theorem foldl_digits (digits : List Nat) (small : ∀ digit ∈ digits, digit < 10) :
    (digits.reverse.map fun digit => UInt8.ofNat (0x30 + digit)).foldl
      (fun number digit => number * 10 + (digit.toNat - 0x30)) 0 = Nat.ofDigits 10 digits := by
  induction digits with
  | nil => rfl
  | cons digit digits ih =>
      have here := small digit List.mem_cons_self
      have value : (UInt8.ofNat (0x30 + digit)).toNat = 0x30 + digit := by
        rw [UInt8.toNat_ofNat']
        omega
      rw [List.reverse_cons, List.map_append, List.foldl_append,
        ih fun other member => small other (List.mem_cons_of_mem _ member), Nat.ofDigits_cons]
      simp only [List.map_cons, List.map_nil, List.foldl_cons, List.foldl_nil, value]
      omega

theorem csiParam_decimal (number : Numeral) : csiParam (decimal number) = some number.value := by
  unfold csiParam
  by_cases zero : number.value = 0
  · have empty : decimal number = [] := by
      unfold decimal
      rw [zero, Nat.digits_zero]
      rfl
    rw [empty, zero]
    rfl
  · have nonempty : decimal number ≠ [] := by
      unfold decimal
      rw [ne_eq, List.map_eq_nil_iff, List.reverse_eq_nil_iff]
      exact Nat.digits_ne_nil_iff_ne_zero.mpr zero
    have digits : (decimal number).all isDigit = true :=
      List.all_eq_true.mpr fun char member => (plain_of_decimal member).1
    have length : (decimal number).length = (Nat.digits 10 number.value).length := by
      unfold decimal
      rw [List.length_map, List.length_reverse]
    have short : ¬ maxStrDigits < (decimal number).length := by
      have bound := number.short
      omega
    rw [if_pos ⟨nonempty, digits⟩, if_neg short]
    unfold decimal
    rw [foldl_digits _ fun digit listed => Nat.digits_lt_base (by decide) listed,
      Nat.ofDigits_digits]

/-- Reading nothing as one empty parameter makes no difference. -/
theorem csiParams_eq (paramsStr : List UInt8) :
    csiParams paramsStr = (paramsStr.splitOn 0x3B).mapM csiParam := by
  unfold csiParams
  split
  · rename_i empty
    rw [empty]
    rfl
  · rfl

theorem csiParams_decimal (params : List Numeral) :
    csiParams (List.intercalate [0x3B] (params.map decimal)) =
      some (if params = [] then [0] else params.map Numeral.value) := by
  by_cases none_given : params = []
  · rw [if_pos none_given, none_given]
    rfl
  · have apart : ∀ word ∈ params.map decimal, (0x3B : UInt8) ∉ word := by
      intro word listed member
      obtain ⟨number, _, rfl⟩ := List.mem_map.mp listed
      exact (plain_of_decimal member).2.2.1 rfl
    have given : params.map decimal ≠ [] := by
      rwa [ne_eq, List.map_eq_nil_iff]
    rw [csiParams_eq, List.splitOn_intercalate _ apart given, if_neg none_given]
    clear apart given none_given
    induction params with
    | nil => rfl
    | cons number params ih =>
        rw [List.map_cons, List.mapM_cons, csiParam_decimal, ih]
        rfl

/-- Nothing but digits and separators stands before the letter. -/
theorem plain_of_params {params : List Numeral} {char : UInt8}
    (member : char ∈ List.intercalate [0x3B] (params.map decimal)) :
    isAlpha char = false ∧ char < 0x80 := by
  induction params with
  | nil => cases member
  | cons number params ih =>
      cases params with
      | nil =>
          rw [List.map_singleton, List.intercalate_singleton] at member
          have plain := plain_of_decimal member
          exact ⟨plain.2.1, plain.2.2.2⟩
      | cons next params =>
          rw [List.map_cons, List.map_cons, List.intercalate_cons_cons, List.mem_append,
            List.mem_append, List.mem_singleton] at member
          rcases member with (own | rfl) | later
          · have plain := plain_of_decimal own
            exact ⟨plain.2.1, plain.2.2.2⟩
          · decide
          · exact ih later

theorem ascii_of_isAlpha {char : UInt8} (letter : isAlpha char = true) : char < 0x80 := by
  simp only [isAlpha, Bool.or_eq_true, Bool.and_eq_true, decide_eq_true_eq] at letter
  rcases letter with ⟨_, upper⟩ | ⟨_, lower⟩
  · exact UInt8.lt_of_le_of_lt upper (by decide)
  · exact UInt8.lt_of_le_of_lt lower (by decide)

namespace Instruction

theorem sequence (instruction : Instruction) (rest : List UInt8) :
    Sequence (instruction.encode ++ rest) instruction.action rest := by
  cases instruction with
  | character char ascii plain =>
      have outside : char ≠ esc ∧ char ≠ shiftOutChar ∧ char ≠ shiftInChar := by
        simpa only [List.mem_cons, List.not_mem_nil, or_false, not_or] using plain
      have read := Sequence.char outside.1 rest
      rw [if_neg outside.2.1, if_neg outside.2.2] at read
      exact read
  | shift alternate =>
      cases alternate with
      | true => exact Sequence.char (by decide) rest
      | false => exact Sequence.char (by decide) rest
  | escape next ascii noCsi short => exact Sequence.escape noCsi short rest
  | designate next operand ascii operandAscii long => exact Sequence.longEscape long operand rest
  | csi params command letter =>
      have inside : ∀ char ∈ List.intercalate [0x3B] (params.map decimal),
          isAlpha char = false := fun char member => (plain_of_params member).1
      have read := Sequence.csi inside letter (csiParams_decimal params) rest
      simpa only [encode, action, List.cons_append, List.append_assoc, List.nil_append]
        using read

theorem ascii_encode (instruction : Instruction) :
    ∀ char ∈ instruction.encode, char < 0x80 := by
  intro char member
  cases instruction with
  | character char ascii plain =>
      rw [List.mem_singleton.mp member]
      exact ascii
  | shift alternate =>
      rw [List.mem_singleton.mp member]
      cases alternate <;> decide
  | escape next ascii noCsi short =>
      rcases List.mem_cons.mp member with rfl | last
      · decide
      · rw [List.mem_singleton.mp last]
        exact ascii
  | designate next operand ascii operandAscii long =>
      simp only [encode, List.mem_cons, List.not_mem_nil, or_false] at member
      rcases member with rfl | rfl | rfl
      · decide
      · exact ascii
      · exact operandAscii
  | csi params command letter =>
      simp only [encode, List.mem_cons, List.mem_append, List.not_mem_nil, or_false] at member
      rcases member with rfl | rfl | among | rfl
      · decide
      · decide
      · exact (plain_of_params among).2
      · exact ascii_of_isAlpha letter

theorem reads (instruction : Instruction) :
    scanner.Reads instruction.encode instruction.action := by
  intro rest
  obtain ⟨count, found, left⟩ := (instruction.sequence rest).token_eq
  have lengths := congrArg List.length left
  have bound := (sequence_of_token found).2.2
  simp only [List.length_drop, List.length_append] at lengths bound
  obtain rfl : count = instruction.encode.length := by omega
  exact found

end Instruction

/-- What a program is, written out. -/
def encodeProgram (program : List Instruction) : List UInt8 :=
  program.flatMap Instruction.encode

theorem scan_encodeProgram (program : List Instruction) :
    scanner.scan (decodeAsciiIgnore (encodeProgram program)) =
      (program.map Instruction.action, []) := by
  have ascii : decodeAsciiIgnore (encodeProgram program) = encodeProgram program := by
    refine List.filter_eq_self.mpr fun char member => ?_
    obtain ⟨instruction, _, within⟩ := List.mem_flatMap.mp member
    exact decide_eq_true (instruction.ascii_encode char within)
  have scanned : scanner.scan (program.flatMap Instruction.encode ++ []) = _ :=
    scanner.scan_flatMap (fun instruction _ => instruction.reads) []
  rw [List.append_nil, scanner.scan_none scanner.token_nil, List.append_nil] at scanned
  rw [ascii]
  exact scanned

end Vt100

namespace Vt100Parser

open Vt100 Terminal

/-- The terminal that a parser with its cursors on the screen shows. -/
def shown (parser : Vt100Parser) (safe : parser.Safe) :
    Terminal parser.screen.rows parser.screen.cols UInt8 where
  display row col := parser.screen.buffer.getD (row * parser.screen.cols + col) 0
  row := ⟨parser.currentRow, safe.row_lt⟩
  col := ⟨parser.currentCol, safe.col_lt⟩
  savedRow := ⟨parser.savedRow, safe.savedRow_lt⟩
  savedCol := ⟨parser.savedCol, safe.savedCol_lt⟩

theorem shows_shown {parser : Vt100Parser} (safe : parser.Safe) :
    Shows parser.screen.asciiMode (parser.shown safe) parser where
  rows_eq := rfl
  cols_eq := rfl
  mode := rfl
  length := safe.buffer_length
  stored row col := by
    have inside : row.val * parser.screen.cols + col.val < parser.screen.buffer.length := by
      rw [safe.buffer_length]
      exact ScreenBuffer.address_lt row.isLt col.isLt
    show _ = some (parser.screen.buffer.getD (row * parser.screen.cols + col) 0)
    rw [List.getD_eq_getElem?_getD, List.getElem?_eq_getElem inside, Option.getD_some]
  row := rfl
  col := rfl
  savedRow := rfl
  savedCol := rfl

/-- The actions of programs, each written out in a call of its own. -/
theorem actionsIn_programs (programs : List (List Instruction)) :
    (programs.map encodeProgram).flatMap actionsIn =
      programs.flatten.map Instruction.action := by
  have found : ∀ program : List Instruction, actionsIn (encodeProgram program) =
      program.map Instruction.action := by
    intro program
    unfold actionsIn
    rw [scan_encodeProgram]
  rw [List.flatMap_map, List.map_flatten]
  exact congrArg List.flatten (List.map_congr_left fun program _ => found program)

/-- The parser is a terminal: whatever bytes it is given in whatever calls, its screen shows
what the sequences found in them mean on a grid, and programs written out in VT100's escape
sequences show what their instructions say, however they are cut between instructions. -/
theorem displays_every_program {parser : Vt100Parser} (safe : parser.Safe)
    (calls : List (List UInt8)) (programs : List (List Instruction)) :
    let asciiMode := parser.screen.asciiMode
    Shows asciiMode (displayed asciiMode (calls.flatMap actionsIn) (parser.shown safe))
        (parser.parseCalls calls) ∧
      Shows asciiMode
        (displayed asciiMode (programs.flatten.map Instruction.action) (parser.shown safe))
        (parser.parseCalls (programs.map encodeProgram)) := by
  intro asciiMode
  have shows := shows_shown safe
  constructor
  · exact shows.parseCalls_shows calls
  · rw [← actionsIn_programs]
    exact shows.parseCalls_shows (programs.map encodeProgram)

theorem safe_smallVt100 : smallVt100.Safe := safe_init rfl

/-- ESC [ 2 ; 3 H and an A, in two pieces. -/
theorem displays_small_program :
    Shows false
      (displayed false
        ([[.csi [⟨2, by decide⟩, ⟨3, by decide⟩] 0x48 (by decide)],
          [.character 0x41 (by decide) (by decide)]].flatten.map Instruction.action)
        (smallVt100.shown safe_smallVt100))
      (smallVt100.parseCalls
        ([[.csi [⟨2, by decide⟩, ⟨3, by decide⟩] 0x48 (by decide)],
          [.character 0x41 (by decide) (by decide)]].map encodeProgram)) :=
  (displays_every_program safe_smallVt100 [] _).2

end Vt100Parser

end Pure3270
