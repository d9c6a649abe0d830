import Pure3270.Emulation.FieldWrites
import Pure3270.Protocol.ScreenChanges

/-!
# Write records

A write record starts from an erased screen without fields.  What its changes
make of this screen is what the record leaves, unless it is rolled back; a
write command alone leaves the erased screen.
-/

namespace Pure3270

open Foundations

namespace ScreenBuffer

theorem Valid.change {screen : ScreenBuffer} (valid : screen.Valid)
    (next : ScreenChange) : (screen.change next).Valid := by
  cases next with
  | setPosition row col => exact valid.setPosition row col
  | insertByte byte => exact valid.insertByte byte
  | setAttribute attr => exact valid.setAttribute attr none
  | setExtended attrType attrValue position =>
      exact valid.setExtendedAttributeSfe attrType attrValue position
  | eraseCell position => exact valid.writeChar _ _ _ _ _
  | firstInput => exact valid.moveCursorToFirstInputField
  | programTab => exact valid.programTab

theorem change_frame (next : ScreenChange) (screen : ScreenBuffer) :
    SameFrame screen (screen.change next) := by
  cases next with
  | setPosition row col => exact (ScreenStep.setPosition row col).frame
  | insertByte byte =>
      simp only [change, insertByte]
      split <;> exact ⟨rfl, rfl, rfl, rfl, rfl, rfl, rfl, rfl⟩
  | setAttribute attr => exact screen.setAttribute_frame attr none
  | setExtended attrType attrValue position =>
      exact screen.setExtendedAttributeSfe_frame attrType attrValue position
  | eraseCell position => exact screen.writeChar_frame _ _ _ _ _
  | firstInput => exact (ScreenStep.firstInput).frame
  | programTab => exact (ScreenStep.programTab).frame

theorem eraseCell_buffer {screen : ScreenBuffer} (valid : screen.Valid)
    (position : Nat × Nat) :
    (screen.change (.eraseCell position)).buffer =
      if position.1 < screen.rows ∧ position.2 < screen.cols then
        screen.buffer.set (position.1 * screen.cols + position.2) 0x40
      else screen.buffer := by
  show (screen.writeChar 0x40 (some position) false true false).buffer = _
  rw [writeChar_buffer]
  simp only [Option.getD_some]
  by_cases inside : position.1 < screen.rows ∧ position.2 < screen.cols
  · rw [if_pos (valid.accepts inside), if_pos inside]
  · rw [if_neg fun accepted => inside accepted.1, if_neg inside]

theorem eraseCell_fieldStarts (screen : ScreenBuffer) (position : Nat × Nat) :
    (screen.change (.eraseCell position)).fieldStarts = screen.fieldStarts := by
  show (screen.writeChar 0x40 (some position) false true false).fieldStarts = _
  rw [writeChar_fieldStarts, if_neg (by simp)]

theorem endBulkUpdate_fieldStarts (screen : ScreenBuffer) :
    screen.endBulkUpdate.fieldStarts = screen.fieldStarts := by
  unfold endBulkUpdate
  simp only
  split
  · rfl
  · rfl

theorem Valid.changes {screen : ScreenBuffer} (valid : screen.Valid) (list : List ScreenChange) :
    (screen.changes list).Valid :=
  run_invariant (fun next _ here => here.change next) list valid

theorem changes_suspended (list : List ScreenChange) (screen : ScreenBuffer) :
    (screen.changes list).suspendFieldDetection = screen.suspendFieldDetection := by
  induction list generalizing screen with
  | nil => rfl
  | cons next list ih => exact (ih _).trans (screen.change_frame next).suspended

end ScreenBuffer

open DataStreamParser in
/-- A record that starts with a write command. -/
structure WriteRecord where
  command : UInt8
  rest : List UInt8
  write : isWriteCommand command || isEraseWriteCommand command

namespace WriteRecord

def data (record : WriteRecord) : List UInt8 :=
  record.command :: record.rest

end WriteRecord

namespace DataStreamParser

theorem erased_fieldStarts (data : List UInt8) (screen : ScreenBuffer) :
    (screen.erased data).fieldStarts = SortedSet.empty := by
  unfold ScreenBuffer.erased
  split <;> rfl

theorem writeStart_fieldStarts (wcc : UInt8) (data : List UInt8)
    (parser : DataStreamParser) :
    (writeStart wcc data parser).screen.fieldStarts = SortedSet.empty := by
  have erased := erased_fieldStarts data
    (prepare (decide (bulkThreshold < data.length)) data parser).screen
  rw [← erased]
  show (ScreenBuffer.applyWcc wcc _).fieldStarts = _
  unfold ScreenBuffer.applyWcc
  split <;> rfl

theorem erased_fields (data : List UInt8) (screen : ScreenBuffer) :
    (screen.erased data).fields = [] := by
  unfold ScreenBuffer.erased
  split <;> rfl

theorem erased_suspended (data : List UInt8) (screen : ScreenBuffer) :
    (screen.erased data).suspendFieldDetection = screen.suspendFieldDetection := by
  unfold ScreenBuffer.erased
  split <;> rfl

/-- A write begins without fields, with detection suspended for a long record. -/
theorem writeStart_fields (wcc : UInt8) (data : List UInt8)
    (parser : DataStreamParser) : (writeStart wcc data parser).screen.fields = [] := by
  have erased := erased_fields data
    (prepare (decide (bulkThreshold < data.length)) data parser).screen
  rw [← erased]
  show (ScreenBuffer.applyWcc wcc _).fields = _
  unfold ScreenBuffer.applyWcc
  split <;> rfl

theorem writeStart_suspended (wcc : UInt8) (data : List UInt8)
    (parser : DataStreamParser) :
    (writeStart wcc data parser).screen.suspendFieldDetection =
      parser.screen.suspendFieldDetection +
        if bulkThreshold < data.length then 1 else 0 := by
  have prepared : (prepare (decide (bulkThreshold < data.length)) data
      parser).screen.suspendFieldDetection =
        parser.screen.suspendFieldDetection +
          if bulkThreshold < data.length then 1 else 0 := by
    by_cases long : bulkThreshold < data.length
    · simp [prepare, prepareScreen, long, ScreenBuffer.beginBulkUpdate,
        ScreenBuffer.setPosition, ScreenBuffer.setAsciiMode]
    · simp [prepare, prepareScreen, long, ScreenBuffer.setPosition,
        ScreenBuffer.setAsciiMode]
  rw [← prepared]
  have erased := erased_suspended data
    (prepare (decide (bulkThreshold < data.length)) data parser).screen
  rw [← erased]
  show (ScreenBuffer.applyWcc wcc _).suspendFieldDetection = _
  unfold ScreenBuffer.applyWcc
  split <;> rfl

theorem resumeScreen_fieldStarts (data : List UInt8) (screen : ScreenBuffer) :
    (resumeScreen data screen).fieldStarts = screen.fieldStarts := by
  unfold resumeScreen
  split
  · exact screen.endBulkUpdate_fieldStarts
  · rfl

theorem resumeScreen_buffer (data : List UInt8) (screen : ScreenBuffer) :
    (resumeScreen data screen).buffer = screen.buffer := by
  unfold resumeScreen ScreenBuffer.endBulkUpdate
  simp only
  split
  · split <;> rfl
  · rfl

theorem parse_missingWcc {command : UInt8} (parser : DataStreamParser)
    (write : isWriteCommand command || isEraseWriteCommand command)
    (kept : ¬ Aborted (parse [command] 0x00 parser)) :
    (finalState (parse [command] 0x00 parser)).screen =
      (prepare false [command] parser).screen.erased [command] := by
  have short : decide (bulkThreshold < [command].length) = false := rfl
  rw [parse_tn3270, short] at kept ⊢
  have record :=
    @parseRecord_missingWcc (prepare false [command] parser) command write rfl rfl
  rw [record] at kept ⊢
  split
  · rfl
  · rename_i erase
    rw [if_neg erase] at kept
    refine absurd ?_ kept
    rw [handleParseError_run, if_pos (by decide)]
    exact .missingWcc _

end DataStreamParser

end Pure3270
