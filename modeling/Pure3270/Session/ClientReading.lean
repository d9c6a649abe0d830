import Pure3270.Emulation.ModifiedData
import Pure3270.Emulation.ScreenText
import Pure3270.Foundations.RowLines
import Pure3270.Session.P3270Client

/-!
# Reading the screen by coordinates

The client reads rows and columns out of a text whose blank lines at the top are
gone.  The coordinates are those of the screen exactly where its rows are
legible as the lines of that text.
-/

namespace Pure3270

open Foundations

/-- What `readTextArea` answers: one row, or a list of rows. -/
inductive AreaText where
  | text (line : List Char)
  | lines (list : List (List Char))
  deriving DecidableEq

namespace P3270Client

/-- `getScreen`: the lines of `ascii_buffer`, without white space at their ends,
without the empty ones at the top and at the bottom. -/
def getScreen (pages : Ebcdic.Codepages) (client : P3270Client) : List Char :=
  if client.connected then
    joinRows (trimLines isSpace
      (textLines (client.pureSession.screenBuffer.asciiBuffer pages)))
  else []

/-- Row and column count from 0. -/
def readTextAtPosition (pages : Ebcdic.Codepages) (row col length : Nat)
    (client : P3270Client) : List Char :=
  let lines := (client.getScreen pages).splitOn '\n'
  if lines.length ≤ row then []
  else
    let line := lines.getD row []
    if line.length ≤ col then []
    else (line.drop col).take (min (col + length) line.length - col)

/-- Row and column count from 1.  The loop ends at the last line of the text. -/
def readTextArea (pages : Ebcdic.Codepages) (row col rows cols : Nat)
    (client : P3270Client) : Except String AreaText :=
  if row < 1 ∨ col < 1 ∨ rows < 1 ∨ cols < 1 then
    .error "readTextArea: row, col, rows, cols must all be 1 or above"
  else
    let lines := (client.getScreen pages).splitOn '\n'
    let targets := ((List.range rows).map (row - 1 + ·)).takeWhile (· < lines.length)
    let result := targets.map fun target =>
      ((lines.getD target []).drop (col - 1)).take cols
    if rows = 1 then .ok (.text (result.head?.getD []))
    else .ok (.lines result)

end P3270Client

namespace ScreenBuffer

/-- The text is what cells of a row display, up to blanks at the end of the row
and the cell under the cursor. -/
def Agrees (pages : Ebcdic.Codepages) (screen : ScreenBuffer) (row col length : Nat)
    (text : List Char) : Prop :=
  text.length ≤ length ∧
    ∀ offset < length, ¬ screen.Hidden row (col + offset) →
      (∀ ch, text[offset]? = some ch → ch = screen.displayed pages row (col + offset)) ∧
        (text[offset]? = none → ∀ later < screen.cols, col + offset ≤ later →
          ¬ screen.Hidden row later → isSpace (screen.displayed pages row later) = true)

/-- The same for an area, with or without an entry for each of its rows. -/
def AreaAgrees (pages : Ebcdic.Codepages) (screen : ScreenBuffer) (complete : Bool)
    (row col rows cols : Nat) : Except String AreaText → Prop
  | .ok (.text line) => rows = 1 ∧ screen.Agrees pages (row - 1) (col - 1) cols line
  | .ok (.lines list) =>
      rows ≠ 1 ∧ list.length ≤ rows ∧ (complete = true → list.length = rows) ∧
        ∀ offset < rows,
          screen.Agrees pages (row - 1 + offset) (col - 1) cols (list.getD offset [])
  | .error _ => False

end ScreenBuffer

namespace ScreenBuffer

variable {pages : Ebcdic.Codepages} {screen : ScreenBuffer} {row : Nat}

section Row

variable (valid : screen.Valid) (inside : row < screen.rows)
  (space : pages.table screen.codepage 0x40 = ' ')
include valid inside

theorem lt_cols_of_asciiLine {col : Nat} {ch : Char}
    (found : (screen.asciiLine pages row)[col]? = some ch) : col < screen.cols := by
  have below := (List.getElem?_eq_some_iff.mp found).1
  rwa [length_asciiLine valid inside] at below

theorem displayed_of_asciiLine {col : Nat} {ch : Char}
    (found : (screen.asciiLine pages row)[col]? = some ch)
    (visible : ¬ screen.Hidden row col) : ch = screen.displayed pages row col := by
  have shown := @asciiLine_getElem? pages screen row col valid inside
    (lt_cols_of_asciiLine valid inside found) visible
  rw [found] at shown
  exact Option.some.inj shown

include space in
theorem space_of_asciiLine {col : Nat} {ch : Char}
    (found : (screen.asciiLine pages row)[col]? = some ch)
    (hidden : screen.Hidden row col) : ch = ' ' := by
  have blanked := asciiLine_hidden valid inside (lt_cols_of_asciiLine valid inside found)
    hidden space
  rw [found] at blanked
  exact Option.some.inj blanked

/-- A part of the trimmed row is what its cells display. -/
theorem agrees_trimmed (col length : Nat) :
    screen.Agrees pages row col length
      ((((screen.asciiLine pages row).rdropWhile isSpace).drop col).take length) := by
  refine ⟨List.length_take_le _ _, fun offset below visible => ?_⟩
  have parts := List.rdropWhile_append_rtakeWhile (p := isSpace)
    (l := screen.asciiLine pages row)
  rw [List.getElem?_take_of_lt below, List.getElem?_drop]
  constructor
  · intro ch found
    have within := (List.getElem?_eq_some_iff.mp found).1
    rw [← List.getElem?_append_left within, parts] at found
    exact displayed_of_asciiLine valid inside found visible
  · intro none later laterInside behind shown
    have found := @asciiLine_getElem? pages screen row later valid inside laterInside shown
    have beyond := List.getElem?_eq_none_iff.mp none
    rw [← parts, List.getElem?_append_right (by omega)] at found
    exact List.mem_rtakeWhile_imp (List.mem_of_getElem? found)

include space in
theorem endsInBreaks_of_agrees {line : List Char} (plain : '\n' ∉ line ∧ '\r' ∉ line)
    (agrees : screen.Agrees pages row 0 screen.cols (line.take screen.cols)) :
    EndsInBreaks isSpace (screen.asciiLine pages row) := by
  intro index breaks later ch behind found
  obtain ⟨broken, here, isBreak⟩ : ∃ broken,
      (screen.asciiLine pages row)[index]? = some broken ∧
        (broken = '\n' ∨ broken = '\r') := by
    rcases breaks with feed | carriage
    · exact ⟨_, feed, .inl rfl⟩
    · exact ⟨_, carriage, .inr rfl⟩
  have below := lt_cols_of_asciiLine valid inside here
  have visible : ¬ screen.Hidden row index := by
    intro hidden
    have blank := space_of_asciiLine valid inside space here hidden
    rw [blank] at isBreak
    revert isBreak
    decide
  have shown := displayed_of_asciiLine valid inside here visible
  have cell := agrees.2 index below (by rwa [Nat.zero_add])
  rw [Nat.zero_add] at cell
  have cut : (line.take screen.cols)[index]? = none := by
    cases read : (line.take screen.cols)[index]? with
    | none => rfl
    | some other =>
        have member : other ∈ line :=
          (List.take_subset _ _) (List.mem_of_getElem? read)
        rw [cell.1 other read, ← shown] at member
        rcases isBreak with rfl | rfl
        · exact absurd member plain.1
        · exact absurd member plain.2
  by_cases hidden : screen.Hidden row later
  · rw [space_of_asciiLine valid inside space found hidden]
    rfl
  · rw [displayed_of_asciiLine valid inside found hidden]
    exact cell.2 cut later (lt_cols_of_asciiLine valid inside found) (Nat.le_of_lt behind)
      hidden

include space in
theorem isBlank_of_agrees_nil (agrees : screen.Agrees pages row 0 screen.cols []) :
    IsBlank isSpace (screen.asciiLine pages row) := by
  intro ch member
  obtain ⟨col, found⟩ := List.mem_iff_getElem?.mp member
  have below := lt_cols_of_asciiLine valid inside found
  by_cases hidden : screen.Hidden row col
  · rw [space_of_asciiLine valid inside space found hidden]
    rfl
  · have cell := (agrees.2 col below (by rwa [Nat.zero_add])).2 rfl col below
    rw [displayed_of_asciiLine valid inside found hidden]
    exact cell (by omega) hidden

end Row

theorem length_asciiLines : (screen.asciiLines pages).length = screen.rows := by
  unfold asciiLines
  rw [List.length_map, List.length_range]

theorem asciiLines_getElem? (inside : row < screen.rows) :
    (screen.asciiLines pages)[row]? = some (screen.asciiLine pages row) := by
  unfold asciiLines
  rw [List.getElem?_map, List.getElem?_range inside]
  rfl

theorem asciiLines_found {line : List Char} (found : (screen.asciiLines pages)[row]? = some line) :
    row < screen.rows ∧ line = screen.asciiLine pages row := by
  have below := (List.getElem?_eq_some_iff.mp found).1
  unfold asciiLines at below
  rw [List.length_map, List.length_range] at below
  rw [asciiLines_getElem? below] at found
  exact ⟨below, (Option.some.inj found).symm⟩

end ScreenBuffer

namespace P3270Client

/-- All reads inside the screen give what the cells display. -/
def ReadsTrue (pages : Ebcdic.Codepages) (complete : Bool) (client : P3270Client) : Prop :=
  let screen := client.pureSession.screenBuffer
  (∀ row col length, row < screen.rows → col + length ≤ screen.cols →
    screen.Agrees pages row col length (client.readTextAtPosition pages row col length)) ∧
    ∀ row col rows cols, 1 ≤ row → 1 ≤ col → 1 ≤ rows → 1 ≤ cols →
      row - 1 + rows ≤ screen.rows → col - 1 + cols ≤ screen.cols →
        screen.AreaAgrees pages complete row col rows cols
          (client.readTextArea pages row col rows cols)

variable {pages : Ebcdic.Codepages} {client : P3270Client}

/-- The lines of the screen's text. -/
def textOf (pages : Ebcdic.Codepages) (client : P3270Client) : List (List Char) :=
  trimLines isSpace (textLines (client.pureSession.screenBuffer.asciiBuffer pages))

theorem splitOn_getScreen (connected : client.connected = true) :
    (client.getScreen pages).splitOn '\n' =
      if client.textOf pages = [] then [[]] else client.textOf pages := by
  unfold getScreen textOf
  rw [if_pos connected]
  split
  · rename_i empty
    rw [empty]
    rfl
  · rename_i some
    exact List.splitOn_intercalate '\n' (fun line listed => (plain_of_mem_trimLines listed).1)
      some

theorem getD_splitOn_getScreen (connected : client.connected = true) (row : Nat) :
    ((client.getScreen pages).splitOn '\n').getD row [] = (client.textOf pages).getD row [] := by
  rw [splitOn_getScreen connected]
  split
  · rename_i empty
    rw [empty]
    cases row <;> rfl
  · rfl

theorem readTextAtPosition_eq (connected : client.connected = true) (row col length : Nat) :
    client.readTextAtPosition pages row col length =
      (((client.textOf pages).getD row []).drop col).take length := by
  unfold readTextAtPosition
  rw [← getD_splitOn_getScreen connected]
  generalize (client.getScreen pages).splitOn '\n' = lines
  dsimp only
  split
  · rename_i outside
    rw [List.getD_eq_default _ _ outside, List.drop_nil, List.take_nil]
  · split
    · rename_i outside
      rw [List.drop_eq_nil_of_le outside, List.take_nil]
    · rename_i inside
      refine List.take_eq_take_iff.mpr ?_
      rw [List.length_drop]
      omega

theorem textOf_of_legible
    (legible : Legible isSpace (client.pureSession.screenBuffer.asciiLines pages)) :
    client.textOf pages =
      ((client.pureSession.screenBuffer.asciiLines pages).map
        (·.rdropWhile isSpace)).rdropWhile List.isEmpty :=
  trimLines_of_legible rfl rfl legible

theorem getD_textOf_of_legible {row : Nat}
    (legible : Legible isSpace (client.pureSession.screenBuffer.asciiLines pages))
    (inside : row < client.pureSession.screenBuffer.rows) :
    (client.textOf pages).getD row [] =
      (client.pureSession.screenBuffer.asciiLine pages row).rdropWhile isSpace := by
  rw [textOf_of_legible legible, getD_rdropWhile_isEmpty, List.getD_eq_getElem?_getD,
    List.getElem?_map, ScreenBuffer.asciiLines_getElem? inside]
  rfl

theorem legible_of_agrees (valid : client.pureSession.screenBuffer.Valid)
    (space : pages.table client.pureSession.screenBuffer.codepage 0x40 = ' ')
    (agree : ∀ row < client.pureSession.screenBuffer.rows,
      client.pureSession.screenBuffer.Agrees pages row 0 client.pureSession.screenBuffer.cols
        (((client.textOf pages).getD row []).take client.pureSession.screenBuffer.cols)) :
    Legible isSpace (client.pureSession.screenBuffer.asciiLines pages) := by
  have plain : ∀ row, '\n' ∉ (client.textOf pages).getD row [] ∧
      '\r' ∉ (client.textOf pages).getD row [] := by
    intro row
    rw [List.getD_eq_getElem?_getD]
    cases found : (client.textOf pages)[row]? with
    | none => exact ⟨List.not_mem_nil, List.not_mem_nil⟩
    | some line => exact plain_of_mem_trimLines (List.mem_of_getElem? found)
  refine legible_of_held rfl rfl (fun line listed => ?_) fun row line found shown empty => ?_
  · obtain ⟨row, found⟩ := List.mem_iff_getElem?.mp listed
    obtain ⟨inside, rfl⟩ := ScreenBuffer.asciiLines_found found
    exact ScreenBuffer.endsInBreaks_of_agrees valid inside space (plain row) (agree row inside)
  · obtain ⟨inside, rfl⟩ := ScreenBuffer.asciiLines_found found
    have here := agree row inside
    have nothing : (client.textOf pages).getD row [] = [] := empty
    rw [nothing, List.take_nil] at here
    exact shown (ScreenBuffer.isBlank_of_agrees_nil valid inside space here)

private theorem takeWhile_range' (count first last : Nat) :
    (List.range' first count).takeWhile (· < last) =
      List.range' first (min count (last - first)) := by
  induction count generalizing first with
  | zero => rw [Nat.zero_min]; rfl
  | succ count ih =>
      rw [List.range'_succ]
      by_cases below : first < last
      · have more : min (count + 1) (last - first) = min count (last - (first + 1)) + 1 := by
          omega
        rw [List.takeWhile_cons_of_pos (by simpa using below), ih, more, List.range'_succ]
      · have none : min (count + 1) (last - first) = 0 := by omega
        rw [List.takeWhile_cons_of_neg (by simpa using below), none]
        rfl

/-- The rows of an area, as many of them as there are lines. -/
def areaRows (pages : Ebcdic.Codepages) (row col rows cols : Nat) (client : P3270Client) :
    List (List Char) :=
  (List.range' (row - 1)
    (min rows (((client.getScreen pages).splitOn '\n').length - (row - 1)))).map
      fun target => (((client.textOf pages).getD target []).drop (col - 1)).take cols

theorem length_areaRows (row col rows cols : Nat) :
    (client.areaRows pages row col rows cols).length =
      min rows (((client.getScreen pages).splitOn '\n').length - (row - 1)) := by
  unfold areaRows
  rw [List.length_map, List.length_range']

theorem getD_areaRows (connected : client.connected = true) {row col rows cols offset : Nat}
    (below : offset < rows) :
    (client.areaRows pages row col rows cols).getD offset [] =
      (((client.textOf pages).getD (row - 1 + offset) []).drop (col - 1)).take cols := by
  have whole := @getD_splitOn_getScreen pages client connected (row - 1 + offset)
  unfold areaRows
  generalize (client.getScreen pages).splitOn '\n' = lines at *
  rw [List.getD_eq_getElem?_getD, List.getElem?_map]
  by_cases listed : offset < min rows (lines.length - (row - 1))
  · rw [List.getElem?_range' listed, Nat.one_mul]
    rfl
  · rw [List.getElem?_eq_none (by rw [List.length_range']; omega), ← whole,
      List.getD_eq_default _ _ (by omega), List.drop_nil, List.take_nil]
    rfl

theorem readTextArea_eq (connected : client.connected = true) {row col rows cols : Nat}
    (row_pos : 1 ≤ row) (col_pos : 1 ≤ col) (rows_pos : 1 ≤ rows) (cols_pos : 1 ≤ cols) :
    client.readTextArea pages row col rows cols =
      if rows = 1 then
        .ok (.text ((((client.textOf pages).getD (row - 1) []).drop (col - 1)).take cols))
      else .ok (.lines (client.areaRows pages row col rows cols)) := by
  have first := @getD_areaRows pages client connected row col rows cols 0 rows_pos
  have listed : client.areaRows pages row col rows cols =
      (((List.range rows).map (row - 1 + ·)).takeWhile
        (· < ((client.getScreen pages).splitOn '\n').length)).map fun target =>
          ((((client.getScreen pages).splitOn '\n').getD target []).drop (col - 1)).take cols := by
    unfold areaRows
    rw [← List.range'_eq_map_range, takeWhile_range']
    simp only [getD_splitOn_getScreen connected]
  have head : (client.areaRows pages row col rows cols).head?.getD [] =
      (client.areaRows pages row col rows cols).getD 0 [] := by
    cases client.areaRows pages row col rows cols <;> rfl
  rw [Nat.add_zero] at first
  unfold readTextArea
  rw [if_neg (by omega)]
  dsimp only
  rw [← listed, head, first]

theorem areaAgrees_iff (connected : client.connected = true) (complete : Bool)
    {row col rows cols : Nat} (row_pos : 1 ≤ row) (col_pos : 1 ≤ col) (rows_pos : 1 ≤ rows)
    (cols_pos : 1 ≤ cols) :
    client.pureSession.screenBuffer.AreaAgrees pages complete row col rows cols
        (client.readTextArea pages row col rows cols) ↔
      (complete = true → rows ≠ 1 →
        row - 1 + rows ≤ ((client.getScreen pages).splitOn '\n').length) ∧
        ∀ offset < rows, client.pureSession.screenBuffer.Agrees pages (row - 1 + offset)
          (col - 1) cols
            ((((client.textOf pages).getD (row - 1 + offset) []).drop (col - 1)).take cols) := by
  rw [readTextArea_eq connected row_pos col_pos rows_pos cols_pos]
  have length := @length_areaRows pages client row col rows cols
  split
  · rename_i one
    subst one
    constructor
    · rintro ⟨_, agrees⟩
      refine ⟨fun _ several => absurd rfl several, fun offset below => ?_⟩
      obtain rfl : offset = 0 := by omega
      exact agrees
    · rintro ⟨_, agree⟩
      exact ⟨rfl, agree 0 Nat.one_pos⟩
  · rename_i several
    constructor
    · rintro ⟨_, _, entries, agree⟩
      refine ⟨fun all _ => ?_, fun offset below => ?_⟩
      · have full := entries all
        omega
      · rw [← getD_areaRows connected below]
        exact agree offset below
    · rintro ⟨enough, agree⟩
      refine ⟨several, ?_, fun all => ?_, fun offset below => ?_⟩
      · rw [length]
        exact Nat.min_le_left _ _
      · have full := enough all several
        omega
      · rw [getD_areaRows connected below]
        exact agree offset below

theorem rows_le_length_iff (connected : client.connected = true)
    (legible : Legible isSpace (client.pureSession.screenBuffer.asciiLines pages)) :
    client.pureSession.screenBuffer.rows ≤ ((client.getScreen pages).splitOn '\n').length ↔
      client.pureSession.screenBuffer.rows = 1 ∨
        ¬ IsBlank isSpace (client.pureSession.screenBuffer.asciiLine pages
          (client.pureSession.screenBuffer.rows - 1)) := by
  have rows_pos := client.pureSession.screenBuffer.rows_pos
  have text := textOf_of_legible legible
  have some : 0 < ((client.getScreen pages).splitOn '\n').length :=
    List.length_pos_iff.mpr (List.splitOn_ne_nil _ _)
  have last : ((client.pureSession.screenBuffer.asciiLines pages).map
      (·.rdropWhile isSpace)).getLast? =
        Option.some ((client.pureSession.screenBuffer.asciiLine pages
          (client.pureSession.screenBuffer.rows - 1)).rdropWhile isSpace) := by
    rw [List.getLast?_eq_getElem?, List.length_map, List.getElem?_map,
      ScreenBuffer.length_asciiLines, ScreenBuffer.asciiLines_getElem? (by omega)]
    rfl
  have length : ((client.pureSession.screenBuffer.asciiLines pages).map
      (·.rdropWhile isSpace)).length = client.pureSession.screenBuffer.rows := by
    rw [List.length_map, ScreenBuffer.length_asciiLines]
  rw [splitOn_getScreen connected] at *
  generalize (client.pureSession.screenBuffer.asciiLines pages).map
    (·.rdropWhile isSpace) = rows at *
  have whole : client.textOf pages = rows ↔ ¬ IsBlank isSpace
      (client.pureSession.screenBuffer.asciiLine pages
        (client.pureSession.screenBuffer.rows - 1)) := by
    rw [text, List.rdropWhile_eq_self_iff, ← rdropWhile_eq_nil_iff_isBlank]
    constructor
    · intro kept
      have nonempty : rows ≠ [] := by
        rintro rfl
        cases last
      rw [List.getLast?_eq_some_getLast nonempty] at last
      have shown := kept nonempty
      rw [Option.some.inj last] at shown
      simpa using shown
    · intro shown nonempty
      rw [List.getLast?_eq_some_getLast nonempty] at last
      rw [Option.some.inj last]
      simpa using shown
  rw [← whole]
  constructor
  · intro enough
    by_cases empty : client.textOf pages = []
    · rw [if_pos empty, List.length_singleton] at enough
      exact .inl (by omega)
    · rw [if_neg empty, ← length] at enough
      refine .inr (List.IsPrefix.eq_of_length_le ?_ enough)
      rw [text]
      exact List.rdropWhile_prefix _ _
  · rintro (one | same)
    · omega
    · have nonempty : client.textOf pages ≠ [] := by
        rw [same]
        rintro rfl
        cases last
      rw [if_neg nonempty, same, length]

/-- All reads inside the screen give what the cells display exactly where there
are only blanks, or the first row shows something and nothing but blanks comes
behind a line break; for lists with an entry for each row the last row has to
show something, too. -/
theorem readsTrue_iff (connected : client.connected = true)
    (valid : client.pureSession.screenBuffer.Valid)
    (space : pages.table client.pureSession.screenBuffer.codepage 0x40 = ' ')
    (complete : Bool) :
    client.ReadsTrue pages complete ↔
      Legible isSpace (client.pureSession.screenBuffer.asciiLines pages) ∧
        (complete = true → client.pureSession.screenBuffer.rows = 1 ∨
          ¬ IsBlank isSpace (client.pureSession.screenBuffer.asciiLine pages
            (client.pureSession.screenBuffer.rows - 1))) := by
  have rows_pos := client.pureSession.screenBuffer.rows_pos
  have cols_pos := client.pureSession.screenBuffer.cols_pos
  constructor
  · rintro ⟨positions, areas⟩
    have legible := legible_of_agrees valid space fun row inside => by
      have whole := positions row 0 client.pureSession.screenBuffer.cols inside
        (by rw [Nat.zero_add])
      rwa [readTextAtPosition_eq connected, List.drop_zero] at whole
    refine ⟨legible, fun all => ?_⟩
    have whole := areas 1 1 client.pureSession.screenBuffer.rows
      client.pureSession.screenBuffer.cols (Nat.le_refl _) (Nat.le_refl _) rows_pos cols_pos
      (by omega) (by omega)
    rw [areaAgrees_iff connected complete (Nat.le_refl _) (Nat.le_refl _) rows_pos
      cols_pos] at whole
    by_cases one : client.pureSession.screenBuffer.rows = 1
    · exact .inl one
    · have enough := whole.1 all one
      exact (rows_le_length_iff connected legible).mp (by omega)
  · rintro ⟨legible, last⟩
    constructor
    · intro row col length inside _
      rw [readTextAtPosition_eq connected, getD_textOf_of_legible legible inside]
      exact ScreenBuffer.agrees_trimmed valid inside col length
    · intro row col rows cols firstRow firstCol someRows someCols rowsInside _
      rw [areaAgrees_iff connected complete firstRow firstCol someRows someCols]
      refine ⟨fun all several => ?_, fun offset below => ?_⟩
      · have enough := (rows_le_length_iff connected legible).mpr (last all)
        omega
      · rw [getD_textOf_of_legible legible (by omega)]
        exact ScreenBuffer.agrees_trimmed valid (by omega) (col - 1) cols

/-- A client on a small screen that the host has written a record to. -/
def afterRecord (record : List UInt8) : P3270Client where
  pureSession := AsyncSession.afterRecord record
  connected := true
  cursorRow := 0
  cursorCol := 0

/-- A letter in the first row. -/
theorem readsTrue_firstRow :
    (afterRecord AsyncSession.formRecord).ReadsTrue ScreenBuffer.cp037Pages false := by
  have lines : (afterRecord AsyncSession.formRecord).pureSession.screenBuffer.asciiLines
      ScreenBuffer.cp037Pages = [['-', 'A', ' '], [' ', ' ', ' ']] := by
    decide +kernel
  refine (readsTrue_iff rfl (AsyncSession.afterRecord_valid _) (by decide +kernel) false).mpr
    ⟨?_, nofun⟩
  rw [lines]
  exact legible_of_plain (by decide) (by decide)

/-- A letter in the second row, and none in the first. -/
def secondRowRecord : List UInt8 := [0xF5, 0xC3, 0x11, 0x40, 0xC3, 0xC1]

/-- A letter in the second row is read in the first. -/
theorem not_readsTrue_secondRow :
    ¬ ∀ (pages : Ebcdic.Codepages) (client : P3270Client), client.connected = true →
      client.pureSession.screenBuffer.Valid →
        pages.table client.pureSession.screenBuffer.codepage 0x40 = ' ' →
          client.ReadsTrue pages false := by
  intro claimed
  have reads := (claimed ScreenBuffer.cp037Pages (afterRecord secondRowRecord) rfl
    (AsyncSession.afterRecord_valid _) (by decide +kernel)).1 1 0 1 (by decide +kernel)
    (by decide +kernel)
  have visible : ¬ (afterRecord secondRowRecord).pureSession.screenBuffer.Hidden 1 0 := by
    intro hidden
    have col : 0 = (afterRecord secondRowRecord).pureSession.screenBuffer.cursorCol :=
      hidden.2.2.2
    revert col
    decide +kernel
  have nothing : (afterRecord secondRowRecord).readTextAtPosition ScreenBuffer.cp037Pages 1 0 1 =
      [] := by
    decide +kernel
  rw [nothing] at reads
  have blank := (reads.2 0 Nat.one_pos visible).2 rfl 0 (by decide +kernel) (Nat.le_refl _)
    visible
  revert blank
  decide +kernel

end P3270Client

end Pure3270
