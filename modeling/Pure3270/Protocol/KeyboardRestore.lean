import Pure3270.Protocol.WriteRollback

/-!
# Records and the keyboard lock

Only the write control character of what is parsed as 3270 data changes the
keyboard lock: its restore bit unlocks the keyboard.  A record without a write
command has its first byte taken for one.
-/

namespace Pure3270

open Foundations

namespace ScreenBuffer

theorem writeNvt_shell (data : List UInt8) (position : Nat × Nat) (screen : ScreenBuffer) :
    SameShell screen (screen.writeNvt data position) := by
  induction data generalizing position screen with
  | nil => exact ⟨rfl, rfl, rfl⟩
  | cons byte rest ih =>
      have written := (screen.writeChar_frame byte (some position) false true false).shell
      unfold writeNvt
      split
      · exact ih _ _
      · split
        · exact ih _ _
        · simp only
          split
          · exact trans_of SameShell written (ih _ _)
          · exact trans_of SameShell written (ih _ _)

theorem endBulkUpdate_shell (screen : ScreenBuffer) :
    SameShell screen screen.endBulkUpdate := by
  unfold endBulkUpdate
  simp only
  split
  · exact ⟨rfl, rfl, rfl⟩
  · exact ⟨rfl, rfl, rfl⟩

theorem handleNvtData_shell (data : List UInt8) (screen : ScreenBuffer) :
    SameShell screen (screen.handleNvtData data) := by
  have started : SameShell screen (screen.setAsciiMode true).beginBulkUpdate :=
    ⟨rfl, rfl, rfl⟩
  unfold handleNvtData
  split
  · exact refl_of SameShell screen
  · exact trans_of SameShell started
      (trans_of SameShell (writeNvt_shell data _ _) (endBulkUpdate_shell _))

end ScreenBuffer

namespace DataStreamParser

theorem skipOneByteOuter_screen (parser : DataStreamParser) :
    (finalState (handleParseError.skipOneByteOuter parser)).screen = parser.screen := by
  show (if _ then _ else _ : DataStreamParser).screen = _
  split
  · rfl
  · rfl

theorem handleParseError_shell (snapshot : Option ScreenSnapshot) (fault : Fault) :
    Within KeepsShell (handleParseError snapshot fault) := by
  intro parser
  cases fault with
  | other text => exact refl_of KeepsShell parser
  | parseError errorMsg =>
      have back := restored_shell snapshot errorMsg parser
      unfold WithinAt
      rw [handleParseError_run]
      split
      · exact back
      · unfold KeepsShell
        rw [finalState_ok, skipOneByteOuter_screen]
        exact back

/-- The write control character of 3270 data: the byte behind a write command, or
the first byte where there is none. -/
def writeControl (data : List UInt8) : Option UInt8 :=
  match data with
  | [] => none
  | first :: rest =>
      if isWriteCommand first || isEraseWriteCommand first then rest.head? else some first

/-- The write control character has the keyboard-restore bit. -/
def restoresKeyboard (data : List UInt8) : Bool :=
  (writeControl data).any fun wcc => wcc &&& 0x40 ≠ 0

/-- The order loop of a record keeps the lock, however it ends. -/
theorem loop_keyboardLocked (snapshot : Option ScreenSnapshot) (parser : DataStreamParser) :
    (finalState (tryCatch (parseLoop snapshot) (handleParseError snapshot)
      parser)).screen.keyboardLocked = parser.screen.keyboardLocked := by
  have shell : KeepsShell parser _ := Within.tryCatch (parseLoop_shell snapshot)
    (handleParseError_shell snapshot) parser
  exact shell.keyboardLocked

theorem parseRecord_keyboardLocked {parser : DataStreamParser} {data : List UInt8}
    (here : parser.data = data) (fresh : parser.parserPos = 0) :
    (finalState (parseRecord parser)).screen.keyboardLocked =
      (parser.screen.keyboardLocked && !restoresKeyboard data) := by
  have control (wcc : UInt8) (screen : ScreenBuffer) :
      (screen.applyWcc wcc).keyboardLocked =
        (screen.keyboardLocked && !decide (wcc &&& 0x40 ≠ 0)) := by
    rw [(applyWcc_shell wcc screen).2.2]
    by_cases restore : wcc &&& 0x40 ≠ 0
    · simp [restore]
    · simp [restore]
  have erasing : (parser.screen.erased parser.data).keyboardLocked =
      parser.screen.keyboardLocked := (erased_shell _ _).keyboardLocked
  rcases data with _ | ⟨first, rest⟩
  · rw [parseRecord_empty here]
    exact (Bool.and_true _).symm
  by_cases write : (isWriteCommand first || isEraseWriteCommand first) = true
  case neg =>
    have plain := Bool.eq_false_iff.mpr write
    have read : writeControl (first :: rest) = some first := if_neg write
    unfold restoresKeyboard
    rw [parseRecord_plain plain here fresh, loop_keyboardLocked, read]
    exact control first parser.screen
  have read : writeControl (first :: rest) = rest.head? := if_pos write
  unfold restoresKeyboard
  rw [read]
  cases rest with
  | nil =>
      rw [parseRecord_missingWcc write here fresh]
      have unlocked : (parser.screen.keyboardLocked && !Option.any
          (fun wcc : UInt8 => decide (wcc &&& 0x40 ≠ 0)) none) =
          parser.screen.keyboardLocked := Bool.and_true _
      split
      · exact erasing.trans unlocked.symm
      · have shell := handleParseError_shell (some parser.screen.snapshot)
          (.parseError "Incomplete WCC order")
          { parser with screen := parser.screen.erased parser.data, parserPos := 1 }
        exact shell.keyboardLocked.trans (erasing.trans unlocked.symm)
  | cons wcc rest =>
      rw [parseRecord_write write here fresh, loop_keyboardLocked]
      refine (control wcc (parser.screen.erased parser.data)).trans ?_
      rw [erasing]
      rfl

/-- A parse unlocks the keyboard where it takes its data for 3270 data with the
keyboard-restore bit, and does not touch the lock otherwise. -/
theorem parse_keyboardLocked (data : List UInt8) (dataType : UInt8)
    (parser : DataStreamParser) :
    (finalState (parse data dataType parser)).screen.keyboardLocked =
      (parser.screen.keyboardLocked &&
        !(takesFor3270 dataType parser && restoresKeyboard data)) := by
  rcases parse_taken data dataType parser with
    ⟨other, after, ignored, same⟩ | ⟨taken, tn3270⟩ | ⟨other, nvt⟩
  · rw [ignored, finalState_ok, same.screen, other]
    exact (Bool.and_true _).symm
  · rw [tn3270, taken, parse_tn3270, finalState_mapState]
    generalize decide (bulkThreshold < data.length) = bulkMode
    have record := parseRecord_keyboardLocked
      (rfl : (prepare bulkMode data parser).data = data) rfl
    cases bulkMode with
    | false => exact record
    | true => exact (ScreenBuffer.endBulkUpdate_shell _).keyboardLocked.trans record
  · rw [nvt, parse_nvt, other]
    exact (ScreenBuffer.handleNvtData_shell data _).keyboardLocked.trans
      (Bool.and_true _).symm

end DataStreamParser

end Pure3270
