import Pure3270.Foundations.Tokenizer
import Pure3270.Emulation.Ebcdic
import Pure3270.Emulation.ScreenBuffer

/-!
# The VT100 parser

The fallback for hosts without TN3270: characters, shifts and escape sequences move a
cursor of the parser's own and write to the screen buffer.  A call reads its text to the
end; of a sequence that the text cuts off nothing is kept.
-/

namespace Pure3270

open Foundations

namespace Vt100

abbrev esc : UInt8 := 0x1B
abbrev shiftOutChar : UInt8 := 0x0E
abbrev shiftInChar : UInt8 := 0x0F

/-- `data.decode("ascii", errors="ignore")`. -/
def decodeAsciiIgnore (data : List UInt8) : List UInt8 :=
  data.filter (· < 0x80)

/-- `isalpha` of an ASCII character. -/
def isAlpha (char : UInt8) : Bool :=
  (0x41 ≤ char && char ≤ 0x5A) || (0x61 ≤ char && char ≤ 0x7A)

def isDigit (char : UInt8) : Bool := 0x30 ≤ char && char ≤ 0x39

/-- The longest number that `int` reads. -/
def maxStrDigits : Nat := 4300

/-- One parameter of a CSI sequence; `none` where `int` raises. -/
def csiParam (param : List UInt8) : Option Nat :=
  if param ≠ [] ∧ param.all isDigit then
    if maxStrDigits < param.length then none
    else some (param.foldl (fun number digit => number * 10 + (digit.toNat - 0x30)) 0)
  else some 0

def csiParams (paramsStr : List UInt8) : Option (List Nat) :=
  if paramsStr = [] then some [0] else (paramsStr.splitOn 0x3B).mapM csiParam

/-- What the parser is told to do. -/
inductive Action where
  | writeChar (char : UInt8)
  | shiftOut
  | shiftIn
  | designateG0 (char : UInt8)
  | designateG1 (char : UInt8)
  | saveCursor
  | restoreCursor
  | index
  | reverseIndex
  | reset
  | csiCommand (command : UInt8) (params : List Nat)
  | ignored
  deriving DecidableEq, Repr

/-- `_parse_csi_sequence`, behind ESC [.  Where a number is too long the exception skips
one more character. -/
def csiToken (body : List UInt8) : Option (Action × Nat) :=
  match body.findIdx? isAlpha with
  | none => none
  | some final =>
      match csiParams (body.take final) with
      | some params => some (.csiCommand (body.getD final 0) params, final + 1)
      | none => if final + 1 < body.length then some (.ignored, final + 2) else none

/-- The sequences of ESC and one character. -/
def simpleEscape (char : UInt8) : Action :=
  match char with
  | 0x37 => .saveCursor
  | 0x38 => .restoreCursor
  | 0x44 => .index
  | 0x4D => .reverseIndex
  | 0x63 => .reset
  | _ => .ignored

/-- The characters after ESC that take one more. -/
def takesOneMore (char : UInt8) : Bool := char ∈ [0x28, 0x29, 0x23]

/-- ESC ( and ESC ) designate a character set, ESC # is skipped with its operand. -/
def longEscape (char operand : UInt8) : Action :=
  if char = 0x28 then .designateG0 operand
  else if char = 0x29 then .designateG1 operand
  else .ignored

/-- `_parse_escape_sequence`, behind ESC. -/
def escapeToken : List UInt8 → Option (Action × Nat)
  | [] => none
  | next :: body =>
      if next = 0x5B then (csiToken body).map fun token => (token.1, token.2 + 1)
      else if takesOneMore next then
        match body with
        | [] => none
        | operand :: _ => some (longEscape next operand, 2)
      else some (simpleEscape next, 1)

/-- One round of the loop of `_parse_text`; `none` where the text ends in the sequence, of
which nothing is done then. -/
def token : List UInt8 → Option (Action × Nat)
  | [] => none
  | char :: rest =>
      if char = esc then (escapeToken rest).map fun token => (token.1, token.2 + 1)
      else if char = shiftOutChar then some (.shiftOut, 1)
      else if char = shiftInChar then some (.shiftIn, 1)
      else some (.writeChar char, 1)

end Vt100

structure Vt100Parser where
  screen : ScreenBuffer
  currentRow : Nat
  currentCol : Nat
  savedRow : Nat
  savedCol : Nat
  charset : UInt8
  graphicsCharset : UInt8
  isAltCharset : Bool

namespace Vt100Parser

def init (screen : ScreenBuffer) : Vt100Parser where
  screen
  currentRow := 0
  currentCol := 0
  savedRow := 0
  savedCol := 0
  charset := 0x42
  graphicsCharset := 0x30
  isAltCharset := false

/-- `_move_cursor`. -/
def moveCursor (row col : Nat) (parser : Vt100Parser) : Vt100Parser :=
  { parser with
    currentRow := min (parser.screen.rows - 1) row
    currentCol := min (parser.screen.cols - 1) col }

def saveCursor (parser : Vt100Parser) : Vt100Parser :=
  { parser with savedRow := parser.currentRow, savedCol := parser.currentCol }

def restoreCursor (parser : Vt100Parser) : Vt100Parser :=
  { parser with currentRow := parser.savedRow, currentCol := parser.savedCol }

def index (parser : Vt100Parser) : Vt100Parser :=
  if parser.currentRow < parser.screen.rows - 1 then
    { parser with currentRow := parser.currentRow + 1 }
  else parser

def reverseIndex (parser : Vt100Parser) : Vt100Parser :=
  { parser with currentRow := parser.currentRow - 1 }

/-- `_reset`. -/
def reset (parser : Vt100Parser) : Vt100Parser :=
  init parser.screen.clear

/-- The linear position of the cursor. -/
def position (parser : Vt100Parser) : Nat :=
  parser.currentRow * parser.screen.cols + parser.currentCol

/-- `_safe_buffer_access` and the write: nothing is written outside the buffer. -/
def storeChar (char : UInt8) (parser : Vt100Parser) : ScreenBuffer :=
  let screen := parser.screen
  if parser.currentRow < screen.rows ∧ parser.currentCol < screen.cols then
    { screen with
      buffer := screen.buffer.set parser.position
        (if screen.asciiMode then char else Ebcdic.encodeChar (Char.ofNat char.toNat)) }
  else screen

/-- `_write_char`. -/
def writeChar (char : UInt8) (parser : Vt100Parser) : Vt100Parser :=
  let below := min (parser.screen.rows - 1) (parser.currentRow + 1)
  match char with
  | 0x0A => { parser with currentRow := below, currentCol := 0 }
  | 0x0D => { parser with currentCol := 0 }
  | 0x09 =>
      { parser with
        currentCol := min (parser.screen.cols - 1) ((parser.currentCol / 8 + 1) * 8) }
  | 0x08 => { parser with currentCol := parser.currentCol - 1 }
  | 0x07 => parser
  | _ =>
      let stored := { parser with screen := parser.storeChar char }
      if parser.screen.cols ≤ parser.currentCol + 1 then
        { stored with currentRow := below, currentCol := 0 }
      else { stored with currentCol := parser.currentCol + 1 }

/-- Blank the cells from one position up to another. -/
def blankCells (first last : Nat) (screen : ScreenBuffer) : ScreenBuffer :=
  { screen with
    buffer := screen.buffer.mapIdx fun cell byte =>
      if first ≤ cell ∧ cell < last then screen.blank else byte }

/-- `_erase_display`. -/
def eraseDisplay (param : Nat) (parser : Vt100Parser) : Vt100Parser :=
  let screen := parser.screen
  match param with
  | 0 => { parser with screen := blankCells parser.position screen.buffer.length screen }
  | 1 =>
      if parser.position < screen.buffer.length then
        { parser with screen := blankCells 0 (parser.position + 1) screen }
      else parser
  | 2 => { parser with screen := screen.clear }
  | _ => parser

/-- `_erase_line`. -/
def eraseLine (param : Nat) (parser : Vt100Parser) : Vt100Parser :=
  let screen := parser.screen
  let start := parser.currentRow * screen.cols
  match param with
  | 0 => { parser with screen := blankCells parser.position (start + screen.cols) screen }
  | 1 => { parser with screen := blankCells start (parser.position + 1) screen }
  | 2 => { parser with screen := blankCells start (start + screen.cols) screen }
  | _ => parser

/-- A parameter that counts from 1; missing ones and zero count as 1. -/
def countParam (params : List Nat) (place : Nat) : Nat :=
  max 1 (params.getD place 0)

/-- `_handle_csi_command`. -/
def handleCsiCommand (command : UInt8) (params : List Nat) (parser : Vt100Parser) :
    Vt100Parser :=
  let count := countParam params 0
  match command with
  | 0x48 | 0x66 => parser.moveCursor (count - 1) (countParam params 1 - 1)
  | 0x41 => parser.moveCursor (parser.currentRow - count) parser.currentCol
  | 0x42 =>
      parser.moveCursor (min (parser.screen.rows - 1) (parser.currentRow + count))
        parser.currentCol
  | 0x43 =>
      parser.moveCursor parser.currentRow
        (min (parser.screen.cols - 1) (parser.currentCol + count))
  | 0x44 => parser.moveCursor parser.currentRow (parser.currentCol - count)
  | 0x4A => parser.eraseDisplay (params.getD 0 0)
  | 0x4B => parser.eraseLine (params.getD 0 0)
  | 0x73 => parser.saveCursor
  | 0x75 => parser.restoreCursor
  | _ => parser

def perform (parser : Vt100Parser) : Vt100.Action → Vt100Parser
  | .writeChar char => parser.writeChar char
  | .shiftOut => { parser with isAltCharset := true }
  | .shiftIn => { parser with isAltCharset := false }
  | .designateG0 char => { parser with charset := char }
  | .designateG1 char => { parser with graphicsCharset := char }
  | .saveCursor => parser.saveCursor
  | .restoreCursor => parser.restoreCursor
  | .index => parser.index
  | .reverseIndex => parser.reverseIndex
  | .reset => parser.reset
  | .csiCommand command params => parser.handleCsiCommand command params
  | .ignored => parser

end Vt100Parser

end Pure3270
