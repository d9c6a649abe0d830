import Pure3270.Emulation.ModifiedData
import Pure3270.Emulation.ScreenText
import Pure3270.Protocol.ParserSafety

/-!
# The two renderings of a screen

`ascii_buffer` and `to_text` differ in the attribute bytes that they blank.  They are one
text where the attribute bytes that `ascii_buffer` leaves look like blanks anyway.
-/

namespace Pure3270

open Foundations

namespace ScreenBuffer

/-- What the renderings show for a byte. -/
def shown (pages : Ebcdic.Codepages) (screen : ScreenBuffer) (byte : UInt8) : Char :=
  cleanDisplay (Ebcdic.cleanChar (pages.table screen.codepage byte))

/-- The byte at a row and a column. -/
def cell (screen : ScreenBuffer) (row col : Nat) : UInt8 :=
  screen.buffer.getD (row * screen.cols + col) 0

/-- Both renderings are the same text, of as many lines as the screen has rows and as
many characters in each as it has columns. -/
structure RenderingsAgree (pages : Ebcdic.Codepages) (screen : ScreenBuffer) : Prop where
  same : screen.asciiBuffer pages = screen.toText pages
  lines : ((screen.toText pages).splitOn '\n').map List.length =
    List.replicate screen.rows screen.cols

/-- An attribute byte is blanked by `ascii_buffer`, or it looks like a blank. -/
def LooksBlank (pages : Ebcdic.Codepages) (screen : ScreenBuffer) (start : Nat) : Prop :=
  screen.shown pages (maskAttribute (screen.buffer.getD start 0)) = screen.shown pages 0x40

instance (pages : Ebcdic.Codepages) (screen : ScreenBuffer) (start : Nat) :
    Decidable (screen.LooksBlank pages start) :=
  inferInstanceAs (Decidable (_ = _))

/-- Neither a blank nor a cell that is no field start and not under the cursor is shown as
a line feed. -/
structure NoLineFeed (pages : Ebcdic.Codepages) (screen : ScreenBuffer) : Prop where
  blank : screen.shown pages 0x40 ≠ '\n'
  cells : ∀ row col, row < screen.rows → col < screen.cols →
    row * screen.cols + col ∉ screen.fieldStarts →
    ¬ (row = screen.cursorRow ∧ col = screen.cursorCol) →
    screen.shown pages (screen.cell row col) ≠ '\n'

variable {pages : Ebcdic.Codepages} {screen : ScreenBuffer} {row col : Nat}

theorem maskedLine_eq (valid : screen.Valid) (inside : row < screen.rows)
    (mask : Nat → UInt8 → UInt8) :
    (Ebcdic.decode (pages.table screen.codepage)
        (((screen.buffer.drop (row * screen.cols)).take screen.cols).mapIdx mask)).map
          cleanDisplay =
      (List.range screen.cols).map fun col =>
        screen.shown pages (mask col (screen.cell row col)) := by
  have bytes := length_rowBytes valid inside
  apply List.ext_getElem?
  intro col
  unfold Ebcdic.decode
  rw [List.getElem?_map, List.getElem?_map, List.getElem?_mapIdx, List.getElem?_map]
  by_cases within : col < screen.cols
  · rw [rowBytes_getElem? valid inside within, List.getElem?_range within]
    rfl
  · have beyond : (List.range screen.cols).length ≤ col := by
      rw [List.length_range]
      omega
    rw [List.getElem?_eq_none (by omega), List.getElem?_eq_none beyond]
    rfl

theorem asciiLine_eq (valid : screen.Valid) (ebcdic : screen.asciiMode = false)
    (inside : row < screen.rows) :
    screen.asciiLine pages row = (List.range screen.cols).map fun col =>
      screen.shown pages (screen.maskByte row col (screen.cell row col)) := by
  unfold asciiLine
  dsimp only
  rw [if_neg (by rw [ebcdic]; decide)]
  exact maskedLine_eq valid inside fun col byte => screen.maskByte row col byte

theorem textLine_eq (valid : screen.Valid) (ebcdic : screen.asciiMode = false)
    (inside : row < screen.rows) :
    screen.textLine pages row = (List.range screen.cols).map fun col =>
      screen.shown pages (screen.textByte row col (screen.cell row col)) := by
  unfold textLine
  dsimp only
  rw [if_neg (by rw [ebcdic]; decide)]
  exact maskedLine_eq valid inside fun col byte => screen.textByte row col byte

theorem asciiLine_eq_textLine_iff (valid : screen.Valid) (ebcdic : screen.asciiMode = false)
    (inside : row < screen.rows) :
    screen.asciiLine pages row = screen.textLine pages row ↔
      ∀ col < screen.cols, row * screen.cols + col ∈ screen.fieldStarts →
        screen.LooksBlank pages (row * screen.cols + col) := by
  rw [asciiLine_eq valid ebcdic inside, textLine_eq valid ebcdic inside, List.map_inj_left]
  constructor
  · intro same col within start
    have here := same col (List.mem_range.mpr within)
    unfold maskByte textByte at here
    rwa [if_pos start, if_pos start] at here
  · intro blank col within
    unfold maskByte textByte
    by_cases start : row * screen.cols + col ∈ screen.fieldStarts
    · rw [if_pos start, if_pos start]
      exact blank col (List.mem_range.mp within) start
    · rw [if_neg start, if_neg start]

theorem length_textLine (valid : screen.Valid) (ebcdic : screen.asciiMode = false)
    (inside : row < screen.rows) : (screen.textLine pages row).length = screen.cols := by
  rw [textLine_eq valid ebcdic inside, List.length_map, List.length_range]

theorem asciiBuffer_eq_toText_iff (valid : screen.Valid) (ebcdic : screen.asciiMode = false) :
    screen.asciiBuffer pages = screen.toText pages ↔
      ∀ start ∈ screen.fieldStarts, screen.LooksBlank pages start := by
  have lengths : (screen.asciiLines pages).map List.length =
      ((List.range screen.rows).map (screen.textLine pages)).map List.length := by
    unfold asciiLines
    rw [List.map_map, List.map_map]
    refine List.map_congr_left fun row inside => ?_
    have below := List.mem_range.mp inside
    exact (length_asciiLine valid below).trans (length_textLine valid ebcdic below).symm
  unfold asciiBuffer toText
  rw [joinRows_inj lengths]
  unfold asciiLines
  rw [List.map_inj_left]
  constructor
  · intro same start member
    have below := valid.starts_lt start member
    have row : start / screen.cols < screen.rows :=
      Nat.div_lt_of_lt_mul (by rwa [Nat.mul_comm])
    have col : start % screen.cols < screen.cols := Nat.mod_lt _ screen.cols_pos
    have split : start / screen.cols * screen.cols + start % screen.cols = start := by
      rw [Nat.mul_comm, Nat.div_add_mod]
    have blank := (asciiLine_eq_textLine_iff valid ebcdic row).mp
      (same _ (List.mem_range.mpr row)) _ col
    rw [split] at blank
    exact blank member
  · intro blank row inside
    exact (asciiLine_eq_textLine_iff valid ebcdic (List.mem_range.mp inside)).mpr
      fun col _ start => blank _ start

theorem toText_lines_iff (valid : screen.Valid) (ebcdic : screen.asciiMode = false) :
    ((screen.toText pages).splitOn '\n').map List.length =
        List.replicate screen.rows screen.cols ↔ screen.NoLineFeed pages := by
  have lengths : ((List.range screen.rows).map (screen.textLine pages)).map List.length =
      List.replicate screen.rows screen.cols := by
    rw [List.map_map]
    refine (List.map_congr_left fun row inside =>
      length_textLine valid ebcdic (List.mem_range.mp inside)).trans ?_
    rw [List.map_const', List.length_range]
  have some : (List.range screen.rows).map (screen.textLine pages) ≠ [] := by
    rw [ne_eq, List.map_eq_nil_iff, List.range_eq_nil]
    exact Nat.ne_of_gt screen.rows_pos
  have feeds : ∀ {row}, row < screen.rows → ('\n' ∉ screen.textLine pages row ↔
      ∀ col < screen.cols,
        screen.shown pages (screen.textByte row col (screen.cell row col)) ≠ '\n') := by
    intro row inside
    rw [textLine_eq valid ebcdic inside]
    simp only [List.mem_map, List.mem_range, not_exists, not_and, ne_eq]
  unfold toText
  rw [← lengths, splitOn_joinRows_iff some]
  constructor
  · intro plain
    have cells : ∀ row col, row < screen.rows → col < screen.cols →
        screen.shown pages (screen.textByte row col (screen.cell row col)) ≠ '\n' :=
      fun row col inside within =>
        (feeds inside).mp (plain _ (List.mem_map_of_mem (List.mem_range.mpr inside))) col within
    refine ⟨?_, fun row col inside within noStart noCursor => ?_⟩
    · have cursor := cells screen.cursorRow screen.cursorCol valid.cursorRow_lt
        valid.cursorCol_lt
      unfold textByte at cursor
      split at cursor
      · exact cursor
      · rwa [if_pos ⟨rfl, rfl⟩] at cursor
    · have here := cells row col inside within
      unfold textByte at here
      rwa [if_neg noStart, if_neg noCursor] at here
  · intro plain line member
    obtain ⟨row, inside, rfl⟩ := List.mem_map.mp member
    rw [feeds (List.mem_range.mp inside)]
    intro col within
    unfold textByte
    split
    · exact plain.blank
    · rename_i noStart
      split
      · exact plain.blank
      · rename_i noCursor
        exact plain.cells row col (List.mem_range.mp inside) within noStart noCursor

/-- When the two renderings agree. -/
theorem renderingsAgree_iff (valid : screen.Valid) (ebcdic : screen.asciiMode = false) :
    screen.RenderingsAgree pages ↔
      (∀ start ∈ screen.fieldStarts, screen.LooksBlank pages start) ∧
        screen.NoLineFeed pages := by
  rw [← asciiBuffer_eq_toText_iff valid ebcdic, ← toText_lines_iff valid ebcdic]
  exact ⟨fun agree => ⟨agree.same, agree.lines⟩, fun both => ⟨both.1, both.2⟩⟩

/-- A field start with both upper bits. -/
theorem renderingsAgree_unprotected :
    RenderingsAgree cp037Pages
      ((DataStreamParser.smallParser 0 0).screen.setAttribute 0xC0 none) := by
  have valid := (DataStreamParser.smallParser_valid 0 0).setAttribute 0xC0 none
  have starts : ∀ start ∈ ((DataStreamParser.smallParser 0 0).screen.setAttribute 0xC0
      none).fieldStarts.toList,
      LooksBlank cp037Pages ((DataStreamParser.smallParser 0 0).screen.setAttribute 0xC0
        none) start := by decide +kernel
  refine (renderingsAgree_iff valid rfl).mpr ⟨starts, by decide +kernel, ?_⟩
  intro row col inside within noStart _
  have cells : ∀ row < 2, ∀ col < 3,
      row * 3 + col ∉ ((DataStreamParser.smallParser 0 0).screen.setAttribute 0xC0
        none).fieldStarts →
      shown cp037Pages ((DataStreamParser.smallParser 0 0).screen.setAttribute 0xC0 none)
        (cell ((DataStreamParser.smallParser 0 0).screen.setAttribute 0xC0 none) row col) ≠
          '\n' := by decide +kernel
  exact cells row inside col within noStart

/-- The attribute byte of a protected field is shown as a hyphen by one of the two. -/
theorem not_renderingsAgree_protected :
    ¬ RenderingsAgree cp037Pages
      ((DataStreamParser.smallParser 0 0).screen.setAttribute 0x60 none) := by
  intro agree
  have same := agree.same
  revert same
  decide +kernel

end ScreenBuffer

end Pure3270
