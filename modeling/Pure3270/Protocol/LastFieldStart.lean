import Pure3270.Protocol.FieldStartCells

/-!
# The remembered field start

The parser remembers where SF last started a field.  No other order touches
this, and neither does what happens around the orders: the erase of a write,
its rollback, data of the other types.
-/

namespace Pure3270

open Foundations

namespace ScreenBuffer

theorem writeNvt_fieldStarts (data : List UInt8) (position : Nat × Nat)
    (screen : ScreenBuffer) :
    (screen.writeNvt data position).fieldStarts = screen.fieldStarts := by
  induction data generalizing position screen with
  | nil => rfl
  | cons byte rest ih =>
      have written : (screen.writeChar byte (some position) false true
          false).fieldStarts = screen.fieldStarts := by
        rw [writeChar_fieldStarts, if_neg (by simp)]
      unfold writeNvt
      split
      · exact ih _ _
      · split
        · exact ih _ _
        · simp only
          split
          · exact (ih _ _).trans written
          · exact (ih _ _).trans written

theorem handleNvtData_fieldStarts (data : List UInt8) (screen : ScreenBuffer) :
    (screen.handleNvtData data).fieldStarts = screen.fieldStarts := by
  unfold handleNvtData
  split
  · rfl
  · rw [endBulkUpdate_fieldStarts, writeNvt_fieldStarts]
    rfl

end ScreenBuffer

namespace DataStreamParser

/-- The reader stands at an SF that has its operand. -/
def startsSf (parser : DataStreamParser) : Bool :=
  parser.data[parser.parserPos]? = some 0x1D &&
    parser.parserPos + 1 < parser.data.length

/-- What is remembered once the byte at the reader has been handled. -/
def nextLast (parser : DataStreamParser) : Option Nat :=
  if startsSf parser then some parser.screen.cursorAddress
  else parser.lastFieldStartPos

theorem nextLast_of_other {parser : DataStreamParser}
    (other : startsSf parser = false) : nextLast parser = parser.lastFieldStartPos := by
  unfold nextLast
  rw [other]
  rfl

theorem handleSf_short {parser : DataStreamParser} (short : parser.remaining < 1) :
    ∃ fault, handleSf parser = .error fault parser :=
  ⟨_, run_bind_error (validateMinData_short short)⟩

theorem processByte_last {parser : DataStreamParser}
    (mirrored : parser.pos ≤ parser.parserPos) :
    (finalState (processByte parser)).lastFieldStartPos = nextLast parser := by
  cases here : parser.data[parser.parserPos]? with
  | none =>
      rw [processByte_none here, nextLast_of_other (by simp [startsSf, here])]
      rfl
  | some byte =>
      rw [processByte_run here]
      by_cases field : byte = 0x1D
      · subst field
        have isSf : orderHandlers 0x1D = some handleSf := rfl
        by_cases operand : parser.parserPos + 1 < parser.data.length
        · have starts : startsSf parser = true := by simp [startsSf, here, operand]
          have split : parser.data.drop (parser.parserPos + 1) =
              parser.data[parser.parserPos + 1] ::
                parser.data.drop (parser.parserPos + 1 + 1) :=
            List.drop_eq_getElem_cons operand
          have ran := @handleSf_at { parser with parserPos := parser.parserPos + 1 }
            _ [] ⟨_, split⟩ (Nat.le_succ_of_le mirrored)
          rw [dispatch_handled isSf ran]
          unfold nextLast
          rw [if_pos starts]
          rfl
        · obtain ⟨fault, raised⟩ := @handleSf_short
            { parser with parserPos := parser.parserPos + 1 }
            (by unfold remaining; simp only; omega)
          rw [dispatch_failed isSf raised,
            nextLast_of_other (by simp [startsSf, operand])]
          rfl
      · have other : startsSf parser = false := by simp [startsSf, here, field]
        rw [nextLast_of_other other]
        exact (dispatch_ordinary field
          { parser with parserPos := parser.parserPos + 1 }).last

theorem restored_last (snapshot : Option ScreenSnapshot) (errMsg : String)
    (parser : DataStreamParser) :
    (restored snapshot errMsg parser).lastFieldStartPos = parser.lastFieldStartPos := by
  cases snapshot with
  | none => rfl
  | some snapshot =>
      unfold restored
      simp only
      split
      · rfl
      · rfl

theorem handleOrderError_last (snapshot : Option ScreenSnapshot) (fault : Fault)
    (parser : DataStreamParser) :
    (finalState (handleOrderError snapshot fault parser)).lastFieldStartPos =
      parser.lastFieldStartPos := by
  cases fault with
  | other text => rfl
  | parseError errMsg =>
      rw [handleOrderError_run]
      split
      · exact restored_last snapshot errMsg parser
      · split
        · exact restored_last snapshot errMsg parser
        · rfl

theorem startsSf_ended {parser : DataStreamParser} (ended : parser.hasMore = false) :
    startsSf parser = false := by
  have beyond : ¬ parser.parserPos < parser.data.length := by
    simpa [hasMore] using ended
  unfold startsSf
  rw [List.getElem?_eq_none_iff.mpr (Nat.le_of_not_lt beyond)]
  rfl

/-- A round remembers what its byte makes it remember, however it ends. -/
theorem parseRound_last {snapshot : Option ScreenSnapshot} {parser : DataStreamParser}
    (mirrored : parser.pos ≤ parser.parserPos) :
    (finalState (parseRound snapshot parser)).lastFieldStartPos = nextLast parser := by
  have handled := processByte_last mirrored
  rw [parseRound_run]
  cases more : parser.hasMore with
  | false => exact (nextLast_of_other (startsSf_ended more)).symm
  | true =>
      simp only [if_true]
      cases outcome : processByte parser with
      | ok value after =>
          rw [outcome] at handled
          exact handled
      | error fault after =>
          rw [outcome] at handled
          exact (handleOrderError_last snapshot fault after).trans handled

theorem handleParseError_last (snapshot : Option ScreenSnapshot) (fault : Fault)
    (parser : DataStreamParser) :
    (finalState (handleParseError snapshot fault parser)).lastFieldStartPos =
      parser.lastFieldStartPos := by
  cases fault with
  | other text => rfl
  | parseError errorMsg =>
      have back := restored_last snapshot errorMsg parser
      rw [handleParseError_run]
      split
      · exact back
      · refine Eq.trans ?_ back
        show (if _ then _ else _ : DataStreamParser).lastFieldStartPos = _
        split
        · rfl
        · rfl

theorem parse_untaken {dataType : UInt8} {parser : DataStreamParser}
    (untaken : takesFor3270 dataType parser = false) (data : List UInt8) :
    (finalState (parse data dataType parser)).lastFieldStartPos =
        parser.lastFieldStartPos ∧
      (finalState (parse data dataType parser)).screen.fieldStarts =
        parser.screen.fieldStarts := by
  rcases parse_taken data dataType parser with
    ⟨-, after, ignored, same⟩ | ⟨taken, -⟩ | ⟨-, nvt⟩
  · rw [ignored]
    exact ⟨same.last, congrArg ScreenBuffer.fieldStarts same.screen⟩
  · rw [untaken] at taken
    cases taken
  · rw [nvt, parse_nvt]
    exact ⟨rfl, ScreenBuffer.handleNvtData_fieldStarts data parser.screen⟩

end DataStreamParser

end Pure3270
