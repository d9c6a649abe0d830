import Pure3270.Session.MirroredContents

/-!
# Fitted contents

The content of a field has one byte for each cell of the field.  Records, NVT
data and keystrokes keep it so.
-/

namespace Pure3270

open Foundations

namespace ScreenBuffer

/-- Every field has one byte for each of its cells. -/
def Fitted (screen : ScreenBuffer) : Prop :=
  ∀ field ∈ screen.fields,
    field.content.length = field.endIndex screen.cols + 1 - field.startIndex screen.cols

theorem length_contentOf {rows cols : Nat} {buffer : List UInt8} {field : Field}
    (inside : field.InBounds rows cols) (length : buffer.length = rows * cols) :
    (contentOf cols buffer field).length =
      field.endIndex cols + 1 - field.startIndex cols := by
  have below := Field.endIndex_lt inside
  unfold contentOf slice
  rw [List.length_take, List.length_drop, length]
  omega

theorem Valid.fitted {screen : ScreenBuffer} (valid : screen.Valid)
    (detected : screen.fields = screen.detectedFields) : screen.Fitted := by
  intro field member
  rw [detected] at member
  rw [detectedFields_content member]
  exact length_contentOf (detectedFields_inBounds valid.starts_lt member)
    valid.buffer_length

variable {screen : ScreenBuffer}

/-- A renewed field has the bytes of its cells. -/
theorem fitted_replaceContent {rows cols : Nat} {buffer : List UInt8} {field : Field}
    (inside : field.InBounds rows cols) (length : buffer.length = rows * cols) :
    (field.replaceContent (contentOf cols buffer field)).content.length =
      (field.replaceContent (contentOf cols buffer field)).endIndex cols + 1 -
        (field.replaceContent (contentOf cols buffer field)).startIndex cols := by
  rw [replaceContent_shows]
  exact length_contentOf (Field.inBounds_replaceContent inside _) length

theorem Fitted.writeChar (valid : screen.Valid) (fitted : screen.Fitted) (byte : UInt8)
    (position : Nat × Nat) (circumventProtection : Bool) :
    (screen.writeChar byte (some position) false circumventProtection false).Fitted := by
  have frame := screen.writeChar_frame byte (some position) false circumventProtection
    false
  have after := valid.writeChar byte (some position) false circumventProtection false
  have length := after.buffer_length
  unfold size at length
  rw [frame.rows, frame.cols] at length
  unfold Fitted
  rw [frame.cols]
  refine (writeChar_fields_iff valid byte position circumventProtection).mpr ?_
  split
  · exact fitted
  split
  · intro field member
    exact length_contentOf (detectedFields_inBounds valid.starts_lt member) length
  · refine ⟨fun field member => fitted field (List.mem_of_mem_eraseP member), ?_⟩
    intro field found
    exact fitted_replaceContent
      (valid.fields_inBounds field (List.mem_of_find?_eq_some found)) length

theorem Fitted.step {before after : ScreenBuffer} (valid : before.Valid)
    (fitted : before.Fitted) (step : ScreenStep before after) : after.Fitted := by
  cases step with
  | setPosition row col => exact fitted
  | insertByte byte row col =>
      unfold ScreenBuffer.insertByte
      simp only
      split <;> exact fitted
  | setAttribute attr =>
      unfold ScreenBuffer.setAttribute
      simp only [Option.getD_none]
      split
      · rename_i inside
        split
        · exact (valid.storeAttribute attr inside).detectFields.fitted rfl
        · exact fitted
      · exact fitted
  | markCursor => exact fitted
  | setExtended attrType attrValue position =>
      unfold ScreenBuffer.setExtendedAttributeSfe
      simp only
      split <;> exact fitted
  | eraseCell position => exact fitted.writeChar valid _ _ _
  | firstInput =>
      unfold ScreenBuffer.moveCursorToFirstInputField
      split <;> exact fitted
  | programTab =>
      unfold ScreenBuffer.programTab ScreenBuffer.moveCursorToNextInputField
      split <;> exact fitted

theorem Fitted.endBulkUpdate {screen : ScreenBuffer} (valid : screen.Valid)
    (fitted : screen.Fitted) : screen.endBulkUpdate.Fitted := by
  have after := valid.endBulkUpdate
  unfold ScreenBuffer.endBulkUpdate at after ⊢
  simp only at after ⊢
  split at after
  · rename_i outermost
    rw [if_pos outermost]
    exact after.fitted rfl
  · rename_i nested
    rw [if_neg nested]
    exact fitted

/-- A well-formed screen whose contents fit. -/
def ValidFitted (screen : ScreenBuffer) : Prop :=
  screen.Valid ∧ screen.Fitted

theorem ValidFitted.writeNvt (data : List UInt8) (position : Nat × Nat)
    {screen : ScreenBuffer} (here : screen.ValidFitted) :
    (screen.writeNvt data position).ValidFitted := by
  induction data generalizing position screen with
  | nil => exact ⟨here.1.setPosition _ _, here.2⟩
  | cons byte rest ih =>
      have written : (screen.writeChar byte (some position) false true false).ValidFitted :=
        ⟨here.1.writeChar _ _ _ _ _, here.2.writeChar here.1 _ _ _⟩
      unfold ScreenBuffer.writeNvt
      split
      · exact ih _ here
      · split
        · exact ih _ here
        · simp only
          split <;> exact ih _ written

theorem ValidFitted.endBulkUpdate {screen : ScreenBuffer} (here : screen.ValidFitted) :
    screen.endBulkUpdate.ValidFitted :=
  ⟨here.1.endBulkUpdate, here.2.endBulkUpdate here.1⟩

theorem ValidFitted.handleNvtData {screen : ScreenBuffer} (here : screen.ValidFitted)
    (data : List UInt8) : (screen.handleNvtData data).ValidFitted := by
  unfold ScreenBuffer.handleNvtData
  split
  · exact here
  · have started : (screen.setAsciiMode true).beginBulkUpdate.ValidFitted :=
      ⟨(here.1.setAsciiMode true).beginBulkUpdate, here.2⟩
    exact (started.writeNvt data _).endBulkUpdate

end ScreenBuffer

theorem RecordStep.fitted {saved before after : ScreenBuffer}
    (step : RecordStep saved before after) (valid : before.Valid)
    (afterValid : after.Valid) (fitted : before.Fitted) : after.Fitted := by
  cases step with
  | order step => exact fitted.step valid step
  | unlock => exact fitted
  | clear => exact afterValid.fitted rfl
  | fillSpaces => exact fitted
  | restore => exact afterValid.fitted rfl

namespace DataStreamParser

/-- Whatever a parser is given, the contents fit as before. -/
theorem parse_fitted {parser : DataStreamParser} (valid : parser.screen.Valid)
    (fitted : parser.screen.Fitted) (data : List UInt8) (dataType : UInt8) :
    (finalState (parse data dataType parser)).screen.Fitted := by
  have text := (ScreenBuffer.ValidFitted.handleNvtData ⟨valid, fitted⟩ data).2
  have kept := @parse_keeps
    (fun screen => ValidLike parser.screen screen ∧ screen.Fitted) parser data
    ⟨⟨valid, rfl, rfl⟩, fitted⟩ (fun bulkMode => ⟨prepareScreen_valid valid _, ?_⟩) ?_
    (fun here => ⟨ScreenBuffer.ValidLike.endBulkUpdate here.1,
      here.2.endBulkUpdate here.1.1⟩)
    ⟨valid.handleNvtData data, text⟩ dataType
  · exact kept.2
  · cases bulkMode <;> exact fitted
  · intro bulkMode before after here step
    have kept := keepsValid_prepared step valid here.1
    exact ⟨kept, step.fitted here.1.1 kept.1 here.2⟩

end DataStreamParser

namespace AsyncSession

variable {session : AsyncSession}

theorem insertChar_fitted (valid : session.screenBuffer.Valid)
    (fitted : session.screenBuffer.Fitted) (ch : Char) :
    (session.press (.char ch)).screenBuffer.Fitted := by
  have frame := session.screenBuffer.insertChar_frame ch session.insertMode
    session.circumventProtection session.screenBuffer.getPosition
  have length := (press_valid valid (.char ch)).buffer_length
  unfold ScreenBuffer.size at length
  rw [show (session.press (.char ch)).screenBuffer.rows = _ from frame.rows,
    press_cols] at length
  unfold ScreenBuffer.Fitted
  rw [press_cols]
  refine (ScreenBuffer.insertChar_fields_iff valid ch session.insertMode
    session.circumventProtection).mpr ?_
  split
  · exact fitted
  split
  · intro field member
    exact ScreenBuffer.length_contentOf
      (ScreenBuffer.detectedFields_inBounds valid.starts_lt member) length
  · refine ⟨fun field member => fitted field (List.mem_of_mem_eraseP member), ?_⟩
    intro field found
    exact ScreenBuffer.fitted_replaceContent
      (valid.fields_inBounds field (List.mem_of_find?_eq_some found)) length

theorem eraseInput_fitted (fitted : session.screenBuffer.Fitted) :
    (session.press .eraseInput).screenBuffer.Fitted := by
  show ∀ field ∈ session.screenBuffer.fields.map Field.eraseInput, field.content.length =
    field.endIndex session.screenBuffer.cols + 1 -
      field.startIndex session.screenBuffer.cols
  refine List.forall_mem_map.mpr fun field member => ?_
  unfold Field.eraseInput
  split
  · exact fitted field member
  · exact List.length_replicate.trans (fitted field member)

theorem press_fitted (valid : session.screenBuffer.Valid)
    (fitted : session.screenBuffer.Fitted) (key : Keystroke) :
    (session.press key).screenBuffer.Fitted := by
  have kept : KeepsFields key → (session.press key).screenBuffer.Fitted := by
    intro keeps
    unfold ScreenBuffer.Fitted
    rw [press_fields keeps, press_cols]
    exact fitted
  cases key with
  | char ch => exact insertChar_fitted valid fitted ch
  | eraseInput => exact eraseInput_fitted fitted
  | backSpace => exact kept trivial
  | delete => exact kept trivial
  | eraseEof => exact kept trivial
  | deleteField => exact kept trivial
  | moveCursor row col => exact kept trivial
  | insert => exact kept trivial
  | circumNot => exact kept trivial

end AsyncSession

namespace HostSession

/-- The screen is well formed and its contents fit. -/
def Fitted (host : HostSession) : Prop :=
  host.parser.screen.ValidFitted

theorem handle_fitted (event : SessionEvent) {host : HostSession}
    (fitted : host.Fitted) : (host.handle event).Fitted := by
  cases event with
  | record record =>
      exact ⟨(DataStreamParser.parse_valid fitted.1 record.data 0x00).2.1,
        DataStreamParser.parse_fitted fitted.1 fitted.2 record.data 0x00⟩
  | key key =>
      have here : host.session.screenBuffer.Valid := fitted.1
      exact ⟨AsyncSession.press_valid here key,
        AsyncSession.press_fitted here fitted.2 key⟩

/-- The contents fit after any records and keystrokes. -/
theorem fitted_run (events : List SessionEvent) {host : HostSession}
    (fitted : host.Fitted) : (run handle events host).Fitted :=
  run_invariant (fun event _ here => handle_fitted event here) events fitted

end HostSession

end Pure3270
