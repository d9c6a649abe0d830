import Mathlib.Data.Nat.ModEq
import Pure3270.Emulation.Tabbing
import Pure3270.Session.EditedFields
import Pure3270.Session.P3270Client

/-!
# The cursor of the client

The client's cursor is to be that of the screen.  Every call moves the one or
the other in its own way, and exactly at some positions both ways agree.
-/

namespace Pure3270

open Foundations

namespace ScreenBuffer

private theorem div_mod_next {cols : Nat} (cols_pos : 0 < cols) (offset : Nat) :
    ((offset + 1) / cols, (offset + 1) % cols) =
      if cols ≤ offset % cols + 1 then (offset / cols + 1, 0)
      else (offset / cols, offset % cols + 1) := by
  have parts := Nat.div_add_mod offset cols
  have below := Nat.mod_lt offset cols_pos
  have next : cols * (offset / cols + 1) = cols * (offset / cols) + cols :=
    Nat.mul_succ _ _
  split
  · have unique := (Nat.div_mod_unique cols_pos).mpr
      (⟨by omega, cols_pos⟩ : 0 + cols * (offset / cols + 1) = offset + 1 ∧ 0 < cols)
    rw [unique.1, unique.2]
  · have unique := (Nat.div_mod_unique cols_pos).mpr
      (⟨by omega, by omega⟩ : (offset % cols + 1) + cols * (offset / cols) = offset + 1 ∧
        offset % cols + 1 < cols)
    rw [unique.1, unique.2]

theorem rightOf_iterate {screen : ScreenBuffer} {position : Nat × Nat}
    (inside : position.1 < screen.rows ∧ position.2 < screen.cols) (count : Nat) :
    screen.rightOf^[count] position =
      (min (screen.rows - 1) (position.1 + (position.2 + count) / screen.cols),
        (position.2 + count) % screen.cols) := by
  have cols_pos := screen.cols_pos
  induction count with
  | zero =>
      have row : min (screen.rows - 1) position.1 = position.1 :=
        Nat.min_eq_right (by omega)
      rw [Function.iterate_zero_apply, Nat.add_zero, Nat.div_eq_of_lt inside.2,
        Nat.mod_eq_of_lt inside.2, Nat.add_zero, row]
  | succ count ih =>
      have next := div_mod_next cols_pos (position.2 + count)
      rw [Function.iterate_succ_apply', ih, rightOf, ← Nat.add_assoc]
      by_cases wraps : screen.cols ≤ (position.2 + count) % screen.cols + 1
      · rw [if_pos wraps] at next
        rw [if_pos wraps, (Prod.mk.inj next).1, (Prod.mk.inj next).2]
        refine Prod.ext ?_ rfl
        simp only
        omega
      · rw [if_neg wraps] at next
        rw [if_neg wraps, (Prod.mk.inj next).1, (Prod.mk.inj next).2]

/-- Before the last cell of the screen a step to the right is one cell. -/
theorem rightOf_address {screen : ScreenBuffer} {position : Nat × Nat}
    (inside : position.1 < screen.rows ∧ position.2 < screen.cols)
    (further : position.1 * screen.cols + position.2 + 1 < screen.size) :
    (screen.rightOf position).1 * screen.cols + (screen.rightOf position).2 =
      position.1 * screen.cols + position.2 + 1 := by
  unfold rightOf
  split
  · have row : position.1 + 1 < screen.rows := by
      by_contra last
      have full : screen.rows = position.1 + 1 := by omega
      rw [size, full, Nat.add_mul] at further
      omega
    have next : min (screen.rows - 1) (position.1 + 1) = position.1 + 1 :=
      Nat.min_eq_right (by omega)
    dsimp only
    rw [next, Nat.add_mul]
    omega
  · rfl

/-- Only in the last row do steps to the right come back. -/
theorem rightOf_iterate_eq_iff {screen : ScreenBuffer} {position : Nat × Nat}
    (inside : position.1 < screen.rows ∧ position.2 < screen.cols) (count : Nat) :
    screen.rightOf^[count] position = position ↔
      count = 0 ∨ position.1 + 1 = screen.rows ∧ screen.cols ∣ count := by
  have cols_pos := screen.cols_pos
  rw [rightOf_iterate inside]
  constructor
  · intro same
    have row : min (screen.rows - 1) (position.1 + (position.2 + count) / screen.cols) =
        position.1 := congrArg Prod.fst same
    have col : (position.2 + count) % screen.cols = position.2 := congrArg Prod.snd same
    have divides : screen.cols ∣ count := by
      have congruent : Nat.ModEq screen.cols (position.2 + count) (position.2 + 0) := by
        show (position.2 + count) % screen.cols = (position.2 + 0) % screen.cols
        rw [col, Nat.add_zero, Nat.mod_eq_of_lt inside.2]
      exact (Nat.modEq_zero_iff_dvd).mp (Nat.ModEq.add_left_cancel' _ congruent)
    rcases Nat.eq_zero_or_pos count with none | some
    · exact .inl none
    · have full := Nat.le_of_dvd some divides
      have further : 1 ≤ (position.2 + count) / screen.cols :=
        (Nat.one_le_div_iff cols_pos).mpr (by omega)
      exact .inr ⟨by omega, divides⟩
  · rintro (rfl | ⟨last, rounds, rfl⟩)
    · rw [Nat.add_zero, Nat.div_eq_of_lt inside.2, Nat.mod_eq_of_lt inside.2,
        Nat.add_zero, Nat.min_eq_right (by omega)]
    · have bottom : screen.rows - 1 ≤ position.1 := by omega
      rw [Nat.add_mul_mod_self_left, Nat.mod_eq_of_lt inside.2,
        Nat.min_eq_left (bottom.trans (Nat.le_add_right _ _))]
      exact Prod.ext (by simp only; omega) rfl

end ScreenBuffer

namespace AsyncSession

/-- A text leaves the cursor as many steps to the right as it has characters. -/
theorem insertText_getPosition {session : AsyncSession}
    (valid : session.screenBuffer.Valid) (text : List Char) :
    (session.insertText text).screenBuffer.getPosition =
      session.screenBuffer.rightOf^[text.length] session.screenBuffer.getPosition := by
  rw [insertText_eq_run valid]
  induction text generalizing session with
  | nil => rfl
  | cons ch text ih =>
      have moved := insertChar_getPosition valid ch session.insertMode
        session.circumventProtection
      have frame := session.screenBuffer.insertChar_frame ch session.insertMode
        session.circumventProtection session.screenBuffer.getPosition
      have same : (session.press (.char ch)).screenBuffer.rightOf =
          session.screenBuffer.rightOf := by
        funext position
        unfold ScreenBuffer.rightOf press withScreen
        dsimp only
        rw [frame.rows, frame.cols]
      rw [List.map_cons, run, ih (press_valid valid (.char ch)), same, List.length_cons,
        Function.iterate_succ_apply]
      exact congrArg _ moved

end AsyncSession

namespace ScreenBuffer

/-- So many cells from a position on lie on the screen and are unprotected. -/
def HasRoom (pos count : Nat) (screen : ScreenBuffer) : Prop :=
  pos + count ≤ screen.size ∧
    ∀ cell, pos ≤ cell → cell < pos + count → screen.isProtectedCell cell = false

/-- The cells from a position on hold a text. -/
def Holds (pos : Nat) (text : List Char) (screen : ScreenBuffer) : Prop :=
  ∀ index ch, text[index]? = some ch →
    screen.buffer[pos + index]? = some (Ebcdic.encodeChar ch)

theorem refreshFields_attributes (row col : Nat) (screen : ScreenBuffer) :
    (screen.refreshFields row col).attributes = screen.attributes := by
  obtain ⟨_, _, _, _, same⟩ := refreshFields_lists row col screen
  rw [same]

/-- A character protects no cell and frees none. -/
theorem insertChar_isProtectedCell (ch : Char) (insertMode circumventProtection : Bool)
    (position : Nat × Nat) (cell : Nat) (screen : ScreenBuffer) :
    (screen.insertChar ch insertMode circumventProtection position).isProtectedCell cell =
      screen.isProtectedCell cell := by
  have room : (screen.makeRoom insertMode position).attributes = screen.attributes := by
    cases insertMode <;> rfl
  have written : ((screen.makeRoom insertMode position).writeChar (Ebcdic.encodeChar ch)
      (some position) false circumventProtection false).attributes[cell * 3]? =
        screen.attributes[cell * 3]? := by
    rw [writeChar_eq, ← room]
    split
    · rw [refreshFields_attributes, typed_attributes]
    · rfl
  have moved : (screen.insertChar ch insertMode circumventProtection position).attributes =
      ((screen.makeRoom insertMode position).writeChar (Ebcdic.encodeChar ch)
        (some position) false circumventProtection false).attributes := rfl
  unfold isProtectedCell
  rw [moved, written]

end ScreenBuffer

namespace AsyncSession

variable {session : AsyncSession}

theorem insertText_cons (valid : session.screenBuffer.Valid) (ch : Char)
    (text : List Char) :
    session.insertText (ch :: text) = (session.press (.char ch)).insertText text := by
  rw [insertText_eq_run valid, insertText_eq_run (press_valid valid (.char ch))]
  rfl

/-- Before the last cell of the screen a character moves on by one cell. -/
theorem press_char_cursorAddress (valid : session.screenBuffer.Valid) (ch : Char)
    (further : session.screenBuffer.cursorAddress + 1 < session.screenBuffer.size) :
    (session.press (.char ch)).screenBuffer.cursorAddress =
      session.screenBuffer.cursorAddress + 1 := by
  have frame := session.screenBuffer.insertChar_frame ch session.insertMode
    session.circumventProtection session.screenBuffer.getPosition
  have moved := insertChar_getPosition valid ch session.insertMode
    session.circumventProtection
  have row := congrArg Prod.fst moved
  have col := congrArg Prod.snd moved
  have next := @ScreenBuffer.rightOf_address session.screenBuffer
    session.screenBuffer.getPosition ⟨valid.cursorRow_lt, valid.cursorCol_lt⟩ further
  refine Eq.trans ?_ next
  rw [← frame.cols, ← row, ← col]
  rfl

theorem press_char_hasRoom (ch : Char) {pos count : Nat}
    (room : session.screenBuffer.HasRoom pos (count + 1)) :
    (session.press (.char ch)).screenBuffer.HasRoom (pos + 1) count := by
  have frame := session.screenBuffer.insertChar_frame ch session.insertMode
    session.circumventProtection session.screenBuffer.getPosition
  obtain ⟨inside, free⟩ := room
  constructor
  · have size : (session.press (.char ch)).screenBuffer.size = session.screenBuffer.size := by
      unfold ScreenBuffer.size
      exact congrArg₂ _ frame.rows frame.cols
    rw [size]
    omega
  · intro cell above below
    refine Eq.trans ?_ (free cell (by omega) (by omega))
    exact session.screenBuffer.insertChar_isProtectedCell ch session.insertMode
      session.circumventProtection session.screenBuffer.getPosition cell

theorem insertText_holds (valid : session.screenBuffer.Valid) (text : List Char)
    (room : session.screenBuffer.HasRoom session.screenBuffer.cursorAddress text.length) :
    (session.insertText text).screenBuffer.Holds session.screenBuffer.cursorAddress text ∧
      ∀ cell < session.screenBuffer.cursorAddress,
        (session.insertText text).screenBuffer.buffer[cell]? =
          session.screenBuffer.buffer[cell]? := by
  induction text generalizing session with
  | nil => exact ⟨fun _ _ => nofun, fun _ _ => rfl⟩
  | cons ch text ih =>
      have cells := press_byteAfter valid (.char ch)
      have accepts : session.screenBuffer.Accepts session.screenBuffer.cursorRow
          session.screenBuffer.cursorCol session.circumventProtection := by
        have free := room.2 session.screenBuffer.cursorAddress (Nat.le_refl _)
          (by rw [List.length_cons]; omega)
        have inside := valid.cursorAddress_lt
        refine ⟨⟨valid.cursorRow_lt, valid.cursorCol_lt⟩, ?_, ?_, ?_⟩
        · rw [valid.buffer_length]
          exact inside
        · rw [valid.attributes_length]
          unfold ScreenBuffer.cursorAddress at inside
          omega
        · unfold ScreenBuffer.cursorAddress at free
          rw [free, Bool.false_and]
      have typed : (session.press (.char ch)).screenBuffer.buffer[
          session.screenBuffer.cursorAddress]? = some (Ebcdic.encodeChar ch) := by
        rw [cells]
        unfold byteAfter stores
        dsimp only
        rw [if_pos rfl, if_pos accepts, Option.some_or]
      have before : ∀ cell < session.screenBuffer.cursorAddress,
          (session.press (.char ch)).screenBuffer.buffer[cell]? =
            session.screenBuffer.buffer[cell]? := by
        intro cell below
        rw [cells]
        unfold byteAfter stores
        dsimp only
        rw [if_neg (by omega), if_neg (by omega), Option.none_or]
      rw [insertText_cons valid]
      cases text with
      | nil =>
          refine ⟨fun index other found => ?_, before⟩
          cases index with
          | zero =>
              cases found
              exact typed
          | succ index => cases found
      | cons next text =>
          have further := room.1
          simp only [List.length_cons] at further
          have address := press_char_cursorAddress valid ch (by omega)
          have later := ih (press_valid valid (.char ch))
            (by rw [address]; exact press_char_hasRoom ch room)
          rw [address] at later
          refine ⟨fun index other found => ?_, fun cell below => ?_⟩
          · cases index with
            | zero =>
                cases found
                exact (later.2 _ (Nat.lt_succ_self _)).trans typed
            | succ index =>
                have held := later.1 index other found
                rwa [Nat.add_assoc, Nat.add_comm 1 index] at held
          · exact (later.2 cell (by omega)).trans (before cell below)

end AsyncSession

namespace AsyncSession

variable {session : AsyncSession}

theorem up_getPosition (valid : session.screenBuffer.Valid) :
    session.up.screenBuffer.getPosition =
      (session.screenBuffer.cursorRow - 1, session.screenBuffer.cursorCol) := by
  have row := valid.cursorRow_lt
  have above : (if 0 < session.screenBuffer.cursorRow then
      session.screenBuffer.cursorRow - 1 else session.screenBuffer.cursorRow) =
        session.screenBuffer.cursorRow - 1 := by
    split <;> omega
  unfold up withScreen
  dsimp only
  rw [above]
  exact ScreenBuffer.getPosition_setPosition (by omega) valid.cursorCol_lt

theorem down_getPosition (valid : session.screenBuffer.Valid) :
    session.down.screenBuffer.getPosition =
      (min (session.screenBuffer.rows - 1) (session.screenBuffer.cursorRow + 1),
        session.screenBuffer.cursorCol) := by
  have row := valid.cursorRow_lt
  exact ScreenBuffer.getPosition_setPosition (by omega) valid.cursorCol_lt

theorem left_getPosition (valid : session.screenBuffer.Valid) :
    session.left.screenBuffer.getPosition =
      session.screenBuffer.leftOf session.screenBuffer.getPosition := by
  have inside := @ScreenBuffer.leftOf_inside session.screenBuffer
    session.screenBuffer.getPosition ⟨valid.cursorRow_lt, valid.cursorCol_lt⟩
  exact ScreenBuffer.getPosition_setPosition inside.1 inside.2

theorem right_getPosition (valid : session.screenBuffer.Valid) :
    session.right.screenBuffer.getPosition =
      session.screenBuffer.rightOf session.screenBuffer.getPosition := by
  have inside := @ScreenBuffer.rightOf_inside session.screenBuffer
    session.screenBuffer.getPosition ⟨valid.cursorRow_lt, valid.cursorCol_lt⟩
  exact ScreenBuffer.getPosition_setPosition inside.1 inside.2

end AsyncSession

namespace ScreenBuffer

variable {screen : ScreenBuffer}

theorem goToStart_stays_iff {target : Option Field}
    (inside : ∀ field ∈ target, field.InBounds screen.rows screen.cols) :
    (screen.goToStart target).getPosition = screen.getPosition ↔
      ∀ field ∈ target, field.start = screen.getPosition := by
  cases target with
  | none => exact ⟨fun _ => nofun, fun _ => rfl⟩
  | some field =>
      have start := (inside field rfl).1
      have moved : (screen.goToStart (some field)).getPosition = field.start :=
        getPosition_setPosition start.1 start.2
      rw [moved]
      constructor
      · intro same other found
        cases found
        exact same
      · intro every
        exact every field rfl

theorem previousField_inBounds (valid : screen.Valid) :
    ∀ field ∈ screen.previousField, field.InBounds screen.rows screen.cols := by
  intro field found
  unfold previousField at found
  split at found
  · cases found
  · split at found
    · exact valid.fields_inBounds field (List.mem_of_getElem? found)
    · cases found

theorem moveCursorToNextInputField_stays_iff (valid : screen.Valid) :
    screen.moveCursorToNextInputField.getPosition = screen.getPosition ↔
      screen.TabStays := by
  rw [← nextInputPosition_stays_iff valid]
  unfold moveCursorToNextInputField
  cases screen.nextInputPosition with
  | none => exact ⟨fun _ _ => nofun, fun _ => rfl⟩
  | some position =>
      constructor
      · intro same other found
        cases found
        exact same
      · intro every
        exact every position rfl

theorem leftOf_stays_iff :
    screen.leftOf screen.getPosition = screen.getPosition ↔
      screen.getPosition = (0, 0) := by
  unfold leftOf getPosition
  dsimp only
  split
  · simp only [Prod.mk.injEq]
    omega
  · split
    · simp only [Prod.mk.injEq]
      omega
    · simp only [Prod.mk.injEq, true_iff]
      omega

end ScreenBuffer

namespace P3270Client

/-- The screen of the client's session. -/
def screen (client : P3270Client) : ScreenBuffer := client.pureSession.screenBuffer

/-- The client's cursor is that of the screen. -/
def OneCursor (client : P3270Client) : Prop :=
  client.cursorRow = client.screen.cursorRow ∧ client.cursorCol = client.screen.cursorCol

/-- `moveTo` and then `sendText` write the text from the position on. -/
def WritesAt (row col : Int) (text : List Char) (client : P3270Client) : Prop :=
  ∀ targetRow targetCol : Nat, row = targetRow → col = targetCol →
    targetRow < client.screen.rows → targetCol < client.screen.cols →
      client.screen.HasRoom (targetRow * client.screen.cols + targetCol) text.length →
        ((client.moveTo row col).sendText text).screen.Holds
          (targetRow * client.screen.cols + targetCol) text

/-- Wherever a text follows a move it is written at the position. -/
def WritesWhereMoved (calls : List ClientCall) (client : P3270Client) : Prop :=
  ∀ before row col text after,
    calls = before ++ .moveTo row col :: .sendText text :: after →
      WritesAt row col text (run call before client)

/-- A call that moves neither cursor, or both in the same way. -/
def Coincides (next : ClientCall) (client : P3270Client) : Prop :=
  let screen := client.screen
  match next with
  | .moveTo row col => row = screen.cursorRow ∧ col = screen.cursorCol
  | .moveCursorUp => True
  | .moveCursorDown => screen.cursorRow + 1 < 24 ↔ screen.cursorRow + 1 < screen.rows
  | .moveCursorLeft => 0 < screen.cursorCol ∨ screen.cursorRow = 0
  | .moveCursorRight => screen.cursorCol + 1 < 80 ∧ screen.cursorCol + 1 < screen.cols
  | .sendText text =>
      text.length = 0 ∨ screen.cursorRow + 1 = screen.rows ∧ screen.cols ∣ text.length
  | .sendTab => screen.TabStays
  | .sendBackTab => ∀ field ∈ screen.previousField, field.start = screen.getPosition
  | .sendHome =>
      ∀ field ∈ screen.getFieldAtPosition screen.cursorRow screen.cursorCol,
        field.start = screen.getPosition
  | .sendBackSpace => screen.getPosition = (0, 0)
  | .clearScreen => screen.getPosition = (0, 0)

instance (next : ClientCall) (client : P3270Client) :
    Decidable (Coincides next client) :=
  match next with
  | .moveTo _ _ => inferInstanceAs (Decidable (_ ∧ _))
  | .moveCursorUp => inferInstanceAs (Decidable True)
  | .moveCursorDown => inferInstanceAs (Decidable (_ ↔ _))
  | .moveCursorLeft => inferInstanceAs (Decidable (_ ∨ _))
  | .moveCursorRight => inferInstanceAs (Decidable (_ ∧ _))
  | .sendText _ => inferInstanceAs (Decidable (_ ∨ _ ∧ _))
  | .sendTab => inferInstanceAs (Decidable (ScreenBuffer.TabStays _))
  | .sendBackTab => inferInstanceAs (Decidable (∀ field ∈ client.screen.previousField, _))
  | .sendHome =>
      inferInstanceAs (Decidable (∀ field ∈ client.screen.getFieldAtPosition _ _, _))
  | .sendBackSpace => inferInstanceAs (Decidable (_ = _))
  | .clearScreen => inferInstanceAs (Decidable (_ = _))

variable {client : P3270Client}

theorem oneCursor_of_getPosition {moved : AsyncSession} {position : Nat × Nat}
    (reached : moved.screenBuffer.getPosition = position) {row col : Int}
    {connected : Bool} :
    OneCursor ⟨moved, connected, row, col⟩ ↔
      row = (position.1 : Int) ∧ col = (position.2 : Int) := by
  subst reached
  exact Iff.rfl

/-- Where only the session moves, the cursors agree if it stays. -/
theorem oneCursor_withSession_iff (one : client.OneCursor)
    {f : AsyncSession → AsyncSession} :
    (client.withSession f).OneCursor ↔
      (f client.pureSession).screenBuffer.getPosition = client.screen.getPosition := by
  obtain ⟨row, col⟩ := one
  unfold OneCursor withSession screen ScreenBuffer.getPosition at *
  dsimp only at *
  rw [row, col, Prod.mk_inj]
  constructor
  · rintro ⟨sameRow, sameCol⟩
    exact ⟨(Int.ofNat_inj.mp sameRow).symm, (Int.ofNat_inj.mp sameCol).symm⟩
  · rintro ⟨sameRow, sameCol⟩
    exact ⟨(Int.ofNat_inj.mpr sameRow).symm, (Int.ofNat_inj.mpr sameCol).symm⟩

/-- Exactly the calls that coincide keep the cursors together. -/
theorem oneCursor_call_iff (connected : client.connected = true)
    (valid : client.screen.Valid) (one : client.OneCursor) (next : ClientCall) :
    (client.call next).OneCursor ↔ Coincides next client := by
  have stays := @oneCursor_withSession_iff client one
  obtain ⟨session, _, clientRow, clientCol⟩ := client
  cases connected
  obtain ⟨row, col⟩ := one
  have inRow := valid.cursorRow_lt
  have inCol := valid.cursorCol_lt
  dsimp only [screen] at *
  subst row col
  cases next with
  | moveTo targetRow targetCol => exact Iff.rfl
  | moveCursorUp =>
      refine (oneCursor_of_getPosition (AsyncSession.up_getPosition valid)).trans ?_
      refine iff_true_intro ⟨?_, rfl⟩
      simp only [sendCommand, withSession, ↓reduceIte]
      split <;> omega
  | moveCursorDown =>
      refine (oneCursor_of_getPosition (AsyncSession.down_getPosition valid)).trans ?_
      simp only [Coincides, screenRows, screen, sendCommand, withSession, ↓reduceIte,
        and_true]
      split <;> omega
  | moveCursorLeft =>
      have moved : session.left.screenBuffer.getPosition = session.screenBuffer.leftOf
          (session.screenBuffer.cursorRow, session.screenBuffer.cursorCol) :=
        AsyncSession.left_getPosition valid
      refine (oneCursor_of_getPosition moved).trans ?_
      unfold ScreenBuffer.leftOf
      simp only [Coincides, screen, sendCommand, withSession, ↓reduceIte]
      by_cases first : 0 < session.screenBuffer.cursorCol
      · rw [if_pos first, if_pos (by omega)]
        dsimp only
        omega
      · have mirror : ¬ (0 : Int) < session.screenBuffer.cursorCol := by omega
        rw [if_neg first, if_neg mirror]
        split
        · dsimp only
          omega
        · dsimp only
          omega
  | moveCursorRight =>
      have moved : session.right.screenBuffer.getPosition = session.screenBuffer.rightOf
          (session.screenBuffer.cursorRow, session.screenBuffer.cursorCol) :=
        AsyncSession.right_getPosition valid
      refine (oneCursor_of_getPosition moved).trans ?_
      unfold ScreenBuffer.rightOf
      simp only [Coincides, screenCols, screen, sendCommand, withSession, ↓reduceIte]
      by_cases wraps : session.screenBuffer.cols ≤ session.screenBuffer.cursorCol + 1
      · rw [if_pos wraps]
        dsimp only
        split <;> omega
      · rw [if_neg wraps]
        dsimp only
        split <;> omega
  | sendText text =>
      refine stays.trans ?_
      show (session.insertText text).screenBuffer.getPosition = _ ↔ _
      rw [AsyncSession.insertText_getPosition valid]
      exact ScreenBuffer.rightOf_iterate_eq_iff ⟨inRow, inCol⟩ text.length
  | sendTab => exact stays.trans (ScreenBuffer.moveCursorToNextInputField_stays_iff valid)
  | sendBackTab =>
      exact stays.trans (ScreenBuffer.goToStart_stays_iff
        (ScreenBuffer.previousField_inBounds valid))
  | sendHome =>
      refine stays.trans (ScreenBuffer.goToStart_stays_iff fun field found => ?_)
      exact ScreenBuffer.getFieldAtPosition_inBounds valid.sound found
  | sendBackSpace =>
      refine stays.trans ?_
      have moved : session.backspace.screenBuffer.getPosition =
          session.screenBuffer.leftOf session.screenBuffer.getPosition :=
        AsyncSession.left_getPosition valid
      rw [moved]
      exact ScreenBuffer.leftOf_stays_iff
  | clearScreen =>
      have home : session.clear.screenBuffer.getPosition = (0, 0) :=
        ScreenBuffer.getPosition_setPosition session.screenBuffer.rows_pos
          session.screenBuffer.cols_pos
      refine stays.trans ?_
      rw [home]
      exact eq_comm

/-- A connected client with a well-formed screen. -/
def InSession (client : P3270Client) : Prop :=
  client.connected = true ∧ client.screen.Valid

theorem inSession_call (next : ClientCall) (inSession : client.InSession) :
    (client.call next).InSession := by
  obtain ⟨session, _, clientRow, clientCol⟩ := client
  obtain ⟨connected, valid⟩ := inSession
  cases connected
  refine ⟨by cases next <;> rfl, ?_⟩
  have started : ∀ target : Option Field,
      (session.screenBuffer.goToStart target).Valid := by
    intro target
    cases target with
    | none => exact valid
    | some field => exact valid.setPosition _ _
  cases next with
  | moveTo row col => exact valid
  | moveCursorUp => exact valid.setPosition _ _
  | moveCursorDown => exact valid.setPosition _ _
  | moveCursorLeft => exact valid.setPosition _ _
  | moveCursorRight => exact valid.setPosition _ _
  | sendText text =>
      show (session.insertText text).screenBuffer.Valid
      rw [AsyncSession.insertText_eq_run valid]
      exact @run_invariant AsyncSession Keystroke AsyncSession.press
        (fun session => session.screenBuffer.Valid)
        (fun key _ here => AsyncSession.press_valid here key) _ _ valid
  | sendTab => exact valid.programTab
  | sendBackTab => exact started _
  | sendHome => exact started _
  | sendBackSpace => exact valid.backSpace
  | clearScreen => exact valid.clear

/-- Where the client's cursor is that of the screen a text is written there. -/
theorem writesAt_of_coincides (inSession : client.InSession) {row col : Int}
    (here : Coincides (.moveTo row col) client) (text : List Char) :
    WritesAt row col text client := by
  intro targetRow targetCol sameRow sameCol _ _ room
  obtain ⟨session, _, clientRow, clientCol⟩ := client
  obtain ⟨connected, valid⟩ := inSession
  cases connected
  have onRow : targetRow = session.screenBuffer.cursorRow :=
    Int.ofNat_inj.mp (sameRow.symm.trans here.1)
  have onCol : targetCol = session.screenBuffer.cursorCol :=
    Int.ofNat_inj.mp (sameCol.symm.trans here.2)
  subst onRow onCol
  exact (AsyncSession.insertText_holds valid text room).1

/-- In a run of calls the client's cursor is always that of the screen, and
every text that follows a move is written where the move went, exactly where
every call of the run moves neither cursor or both alike. -/
theorem oneCursor_throughout_iff (connected : client.connected = true)
    (valid : client.screen.Valid) (one : client.OneCursor) (calls : List ClientCall) :
    Always call OneCursor calls client ∧ client.WritesWhereMoved calls ↔
      Along call Coincides calls client := by
  have inSession : client.InSession := ⟨connected, valid⟩
  have keeps : ∀ next {client : P3270Client}, client.InSession →
      (client.call next).InSession := fun next _ here => inSession_call next here
  have exactly : Always call OneCursor calls client ↔ Along call Coincides calls client :=
    always_iff_along keeps
      (fun next _ here one => oneCursor_call_iff here.1 here.2 one next) inSession one
  constructor
  · intro holds
    exact exactly.mp holds.1
  · intro along
    refine ⟨exactly.mpr along, fun before row col text after split => ?_⟩
    rw [split] at along
    have reached : (run call before client).InSession := run_invariant keeps before inSession
    exact writesAt_of_coincides reached (along_append.mp along).2.1 text

/-- A client on a small screen. -/
def small : P3270Client where
  pureSession := {
    screenBuffer := (DataStreamParser.smallParser 0 0).screen
    insertMode := false
    circumventProtection := false }
  connected := true
  cursorRow := 0
  cursorCol := 0

theorem oneCursor_throughout_small :
    let calls : List ClientCall :=
      [.moveCursorDown, .sendText ['a', 'b', 'c'], .moveTo 1 0, .sendText ['d', 'e', 'f'],
        .moveCursorRight, .sendTab, .sendBackTab, .moveCursorLeft, .moveCursorUp, .sendHome,
        .sendBackSpace, .clearScreen]
    Always call OneCursor calls small ∧ small.WritesWhereMoved calls := by
  have valid : small.screen.Valid := DataStreamParser.smallParser_valid 0 0
  exact (oneCursor_throughout_iff rfl valid ⟨rfl, rfl⟩ _).mpr (by decide +kernel)

/-- A move leaves the cursor of the screen where it is. -/
theorem moveTo_leaves_session :
    ¬ ∀ client : P3270Client, client.connected = true → client.screen.Valid →
      client.OneCursor → ∀ calls : List ClientCall,
        Always call OneCursor calls client ∧ client.WritesWhereMoved calls := by
  intro claimed
  have holds := claimed (init 24 80 (by omega) (by omega)) rfl
    (ScreenBuffer.valid_init 24 80 _ _ _ _) ⟨rfl, rfl⟩ [.moveTo 5 10]
  have row : (5 : Int) = (0 : Nat) := holds.1.2.1
  omega

end P3270Client

end Pure3270
