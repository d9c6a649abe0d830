import Pure3270.Emulation.Ebcdic
import Pure3270.Emulation.ScreenInvariant
import Pure3270.Foundations.TextLines

/-!
# The text of a screen

`ascii_buffer` decodes the rows of the screen and joins them by line feeds.  In
EBCDIC mode it blanks some attribute bytes and the cell under the cursor;
`to_text` blanks every field start.
-/

namespace Pure3270

open Foundations

/-- What Python takes for white space at the end of a line. -/
def isSpace (ch : Char) : Bool :=
  ch.toNat ∈ [9, 10, 11, 12, 13, 28, 29, 30, 31, 32, 133, 160, 5760, 8192, 8193, 8194, 8195,
    8196, 8197, 8198, 8199, 8200, 8201, 8202, 8232, 8233, 8239, 8287, 12288]

/-- Decoding a byte as ASCII, with the replacement character for the rest. -/
def decodeAscii (byte : UInt8) : Char :=
  if byte.toNat < 128 then Char.ofNat byte.toNat else Char.ofNat 0xFFFD

/-- Control characters other than tabs and line breaks are shown as spaces. -/
def cleanDisplay (ch : Char) : Char :=
  if (32 ≤ ch.toNat ∧ ch ≠ '\x7f') ∨ ch ∈ ['\t', '\n', '\r'] then ch else ' '

namespace ScreenBuffer

/-- The attribute bytes that are blanked: 0, and those with both upper bits. -/
def maskAttribute (byte : UInt8) : UInt8 :=
  if byte = 0 ∨ (byte &&& 0x80 ≠ 0 ∧ byte &&& 0x40 ≠ 0) then 0x40 else byte

/-- A field start is never taken for the cursor. -/
def maskByte (row col : Nat) (byte : UInt8) (screen : ScreenBuffer) : UInt8 :=
  if row * screen.cols + col ∈ screen.fieldStarts then maskAttribute byte
  else if row = screen.cursorRow ∧ col = screen.cursorCol then 0x40
  else byte

/-- The text of a row. -/
def asciiLine (pages : Ebcdic.Codepages) (screen : ScreenBuffer) (row : Nat) : List Char :=
  let bytes := (screen.buffer.drop (row * screen.cols)).take screen.cols
  if screen.asciiMode then (bytes.map decodeAscii).map cleanDisplay
  else
    (Ebcdic.decode (pages.table screen.codepage)
      (bytes.mapIdx fun col byte => screen.maskByte row col byte)).map cleanDisplay

def asciiLines (pages : Ebcdic.Codepages) (screen : ScreenBuffer) : List (List Char) :=
  (List.range screen.rows).map (screen.asciiLine pages)

/-- `ascii_buffer`. -/
def asciiBuffer (pages : Ebcdic.Codepages) (screen : ScreenBuffer) : List Char :=
  joinRows (screen.asciiLines pages)

/-- In the plain text every field start and the cell under the cursor are blank. -/
def textByte (row col : Nat) (byte : UInt8) (screen : ScreenBuffer) : UInt8 :=
  if row * screen.cols + col ∈ screen.fieldStarts then 0x40
  else if row = screen.cursorRow ∧ col = screen.cursorCol then 0x40
  else byte

/-- A row of the plain text.  In ASCII mode it keeps its control characters. -/
def textLine (pages : Ebcdic.Codepages) (screen : ScreenBuffer) (row : Nat) : List Char :=
  let bytes := (screen.buffer.drop (row * screen.cols)).take screen.cols
  if screen.asciiMode then bytes.map decodeAscii
  else
    (Ebcdic.decode (pages.table screen.codepage)
      (bytes.mapIdx fun col byte => screen.textByte row col byte)).map cleanDisplay

/-- `to_text`. -/
def toText (pages : Ebcdic.Codepages) (screen : ScreenBuffer) : List Char :=
  joinRows ((List.range screen.rows).map (screen.textLine pages))

/-- The character of a cell, wherever the cursor is. -/
def displayed (pages : Ebcdic.Codepages) (screen : ScreenBuffer) (row col : Nat) : Char :=
  let pos := row * screen.cols + col
  let byte := screen.buffer.getD pos 0
  if screen.asciiMode then cleanDisplay (decodeAscii byte)
  else
    cleanDisplay (Ebcdic.cleanChar (pages.table screen.codepage
      (if pos ∈ screen.fieldStarts then maskAttribute byte else byte)))

/-- The cell under the cursor, where it is blanked. -/
def Hidden (screen : ScreenBuffer) (row col : Nat) : Prop :=
  screen.asciiMode = false ∧ row * screen.cols + col ∉ screen.fieldStarts ∧
    row = screen.cursorRow ∧ col = screen.cursorCol

variable {pages : Ebcdic.Codepages} {screen : ScreenBuffer} {row col : Nat}

theorem length_rowBytes (valid : screen.Valid) (inside : row < screen.rows) :
    ((screen.buffer.drop (row * screen.cols)).take screen.cols).length = screen.cols := by
  have last : (row + 1) * screen.cols ≤ screen.size := Nat.mul_le_mul_right _ inside
  rw [Nat.add_mul, Nat.one_mul] at last
  rw [List.length_take, List.length_drop, valid.buffer_length]
  omega

theorem length_asciiLine (valid : screen.Valid) (inside : row < screen.rows) :
    (screen.asciiLine pages row).length = screen.cols := by
  have bytes := length_rowBytes valid inside
  unfold asciiLine Ebcdic.decode
  dsimp only
  split
  · rw [List.length_map, List.length_map, bytes]
  · rw [List.length_map, List.length_map, List.length_mapIdx, bytes]

theorem rowBytes_getElem? (valid : screen.Valid) (rowInside : row < screen.rows)
    (colInside : col < screen.cols) :
    ((screen.buffer.drop (row * screen.cols)).take screen.cols)[col]? =
      some (screen.buffer.getD (row * screen.cols + col) 0) := by
  have below : row * screen.cols + col < screen.buffer.length := by
    rw [valid.buffer_length]
    exact address_lt rowInside colInside
  rw [List.getElem?_take_of_lt colInside, List.getElem?_drop, List.getD_eq_getElem?_getD,
    List.getElem?_eq_getElem below, Option.getD_some]

/-- A row shows the characters of its cells, but for the one under the cursor. -/
theorem asciiLine_getElem? (valid : screen.Valid) (rowInside : row < screen.rows)
    (colInside : col < screen.cols) (visible : ¬ screen.Hidden row col) :
    (screen.asciiLine pages row)[col]? = some (screen.displayed pages row col) := by
  have byte := rowBytes_getElem? valid rowInside colInside
  unfold asciiLine displayed Ebcdic.decode
  dsimp only
  cases mode : screen.asciiMode with
  | true =>
      rw [if_pos rfl, if_pos rfl, List.getElem?_map, List.getElem?_map, byte]
      rfl
  | false =>
      rw [if_neg (by decide), if_neg (by decide), List.getElem?_map, List.getElem?_map,
        List.getElem?_mapIdx, byte]
      unfold maskByte
      by_cases start : row * screen.cols + col ∈ screen.fieldStarts
      · simp only [Option.map_some, if_pos start]
      · have elsewhere : ¬ (row = screen.cursorRow ∧ col = screen.cursorCol) :=
          fun cursor => visible ⟨mode, start, cursor⟩
        simp only [Option.map_some, if_neg start, if_neg elsewhere]

/-- Under the cursor a row shows a space. -/
theorem asciiLine_hidden (valid : screen.Valid) (rowInside : row < screen.rows)
    (colInside : col < screen.cols) (hidden : screen.Hidden row col)
    (space : pages.table screen.codepage 0x40 = ' ') :
    (screen.asciiLine pages row)[col]? = some ' ' := by
  have byte := rowBytes_getElem? valid rowInside colInside
  obtain ⟨mode, noStart, cursor⟩ := hidden
  unfold asciiLine Ebcdic.decode
  dsimp only
  rw [if_neg (by rw [mode]; decide), List.getElem?_map, List.getElem?_map,
    List.getElem?_mapIdx, byte]
  unfold maskByte
  simp only [Option.map_some, if_neg noStart, if_pos cursor, space]
  rfl

end ScreenBuffer

end Pure3270
