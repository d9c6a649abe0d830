import Pure3270.Protocol.RecordSteps

/-!
# The safety envelope of the parser

Whatever bytes arrive, a parse ends, raises at most a parse error, and leaves
a valid screen.  Orders keep the screen valid because every elementary screen
change does; a rollback keeps it valid because the snapshot was taken from a
valid screen of the same size.
-/

namespace Pure3270

open Foundations Relation

namespace ScreenBuffer

theorem Valid.insertByte {screen : ScreenBuffer} (valid : screen.Valid)
    (byte : UInt8) : (screen.insertByte byte).Valid := by
  have stored : Valid { screen with
      buffer := screen.buffer.set screen.cursorAddress byte } :=
    { valid with buffer_length := by simpa [size] using valid.buffer_length }
  unfold ScreenBuffer.insertByte
  simp only
  split <;> exact stored.setPosition _ _

theorem Valid.step {before after : ScreenBuffer} (valid : before.Valid)
    (step : ScreenStep before after) : after.Valid := by
  cases step with
  | setPosition row col => exact valid.setPosition row col
  | insertByte byte row col => exact valid.insertByte byte
  | setAttribute attr => exact valid.setAttribute attr none
  | markCursor => exact valid.insertFieldStart valid.cursorAddress_lt
  | setExtended attrType attrValue position =>
      exact valid.setExtendedAttributeSfe attrType attrValue position
  | eraseCell position => exact valid.writeChar _ _ _ _ _
  | firstInput => exact valid.moveCursorToFirstInputField
  | programTab => exact valid.programTab

theorem Valid.fillSpaces {screen : ScreenBuffer} (valid : screen.Valid) :
    screen.fillSpaces.Valid :=
  { valid with
    buffer_length := by
      simpa [ScreenBuffer.fillSpaces, size] using valid.buffer_length }

theorem Valid.restore {saved screen : ScreenBuffer} (valid : screen.Valid)
    (savedValid : saved.Valid) (rows : screen.rows = saved.rows)
    (cols : screen.cols = saved.cols) :
    (screen.restore saved.snapshot).Valid := by
  have size_eq : screen.size = saved.size := by
    unfold size
    rw [rows, cols]
  have restored : Valid { screen with
      buffer := if saved.buffer = [] then screen.buffer else saved.buffer
      attributes :=
        if saved.attributes = [] then screen.attributes else saved.attributes
      extendedAttributes := fun key =>
        (saved.snapshot.extended key).map fun data =>
          (ExtendedAttributeSet.fromDict data).getD ExtendedAttributeSet.empty
      fieldStarts := saved.fieldStarts
      cursorRow := saved.cursorRow
      cursorCol := saved.cursorCol
      asciiMode := saved.asciiMode
      lightPenSelectedPosition := saved.lightPenSelectedPosition } :=
    { valid with
      buffer_length := by
        simp only
        split
        · exact valid.buffer_length
        · exact savedValid.buffer_length.trans size_eq.symm
      attributes_length := by
        simp only
        split
        · exact valid.attributes_length
        · exact savedValid.attributes_length.trans (by rw [← size_eq]; rfl)
      cursorRow_lt := savedValid.cursorRow_lt.trans_eq rows.symm
      cursorCol_lt := savedValid.cursorCol_lt.trans_eq cols.symm
      starts_lt := fun start member =>
        (savedValid.starts_lt start member).trans_eq size_eq.symm }
  exact restored.detectFields

end ScreenBuffer

/-- A valid screen of the size of another one. -/
def ValidLike (saved screen : ScreenBuffer) : Prop :=
  screen.Valid ∧ screen.rows = saved.rows ∧ screen.cols = saved.cols

/-- Validity at a fixed size is kept. -/
def KeepsValid (saved : ScreenBuffer) (before after : DataStreamParser) : Prop :=
  ValidLike saved before.screen → ValidLike saved after.screen

instance (saved : ScreenBuffer) :
    IsPreorder DataStreamParser (KeepsValid saved) where
  refl _ := id
  trans _ _ _ left right := right ∘ left

instance : IsPreorder ScreenBuffer fun before after =>
    before.Valid → after.Valid where
  refl _ := id
  trans _ _ _ left right := right ∘ left

theorem HandlerSteps.keepsValid {saved : ScreenBuffer}
    {before after : DataStreamParser} (steps : HandlerSteps before after) :
    KeepsValid saved before after := by
  intro ⟨valid, rows, cols⟩
  have stepValid : ∀ {first second : ScreenBuffer}, ScreenStep first second →
      first.Valid → second.Valid := fun step holds => holds.step step
  exact ⟨steps.screen stepValid valid, steps.frame.rows.trans rows,
    steps.frame.cols.trans cols⟩

theorem RecordStep.keepsValid {saved before after : ScreenBuffer}
    (step : RecordStep saved before after) (savedValid : saved.Valid)
    (valid : ValidLike saved before) : ValidLike saved after := by
  cases step with
  | order step =>
      exact ⟨valid.1.step step, step.frame.rows.trans valid.2.1,
        step.frame.cols.trans valid.2.2⟩
  | unlock => exact ⟨valid.1.setKeyboardLock false, valid.2⟩
  | clear => exact ⟨valid.1.clear, valid.2⟩
  | fillSpaces => exact ⟨valid.1.fillSpaces, valid.2⟩
  | restore => exact ⟨valid.1.restore savedValid valid.2.1 valid.2.2, valid.2⟩

namespace ScreenBuffer

theorem ValidLike.writeNvt {saved : ScreenBuffer} (data : List UInt8)
    (position : Nat × Nat) {screen : ScreenBuffer}
    (valid : ValidLike saved screen) :
    ValidLike saved (screen.writeNvt data position) := by
  induction data generalizing position screen with
  | nil => exact ⟨valid.1.setPosition _ _, valid.2⟩
  | cons byte rest ih =>
      unfold ScreenBuffer.writeNvt
      split
      · exact ih _ valid
      · split
        · exact ih _ valid
        · have frame := screen.writeChar_frame byte (some position) false true false
          have written : ValidLike saved
              (screen.writeChar byte (some position) false true false) :=
            ⟨valid.1.writeChar _ _ _ _ _, frame.rows.trans valid.2.1,
              frame.cols.trans valid.2.2⟩
          simp only
          split <;> exact ih _ written

theorem endBulkUpdate_geometry (screen : ScreenBuffer) :
    screen.endBulkUpdate.rows = screen.rows ∧
      screen.endBulkUpdate.cols = screen.cols := by
  unfold endBulkUpdate
  simp only
  split <;> exact ⟨rfl, rfl⟩

theorem ValidLike.endBulkUpdate {saved screen : ScreenBuffer}
    (valid : ValidLike saved screen) : ValidLike saved screen.endBulkUpdate :=
  ⟨valid.1.endBulkUpdate, (screen.endBulkUpdate_geometry).1.trans valid.2.1,
    (screen.endBulkUpdate_geometry).2.trans valid.2.2⟩

theorem Valid.handleNvtData {screen : ScreenBuffer} (valid : screen.Valid)
    (data : List UInt8) : ValidLike screen (screen.handleNvtData data) := by
  unfold ScreenBuffer.handleNvtData
  split
  · exact ⟨valid, rfl, rfl⟩
  · have started : ValidLike screen (screen.setAsciiMode true).beginBulkUpdate :=
      ⟨(valid.setAsciiMode true).beginBulkUpdate, rfl, rfl⟩
    exact ValidLike.endBulkUpdate (ValidLike.writeNvt data _ started)

theorem writeNvt_suspended (data : List UInt8) (position : Nat × Nat)
    (screen : ScreenBuffer) :
    (screen.writeNvt data position).suspendFieldDetection =
      screen.suspendFieldDetection := by
  induction data generalizing position screen with
  | nil => rfl
  | cons byte rest ih =>
      unfold ScreenBuffer.writeNvt
      split
      · exact ih _ _
      · split
        · exact ih _ _
        · have written := (screen.writeChar_frame byte (some position) false true
            false).suspended
          simp only
          split
          · exact (ih _ _).trans written
          · exact (ih _ _).trans written

theorem endBulkUpdate_suspended (screen : ScreenBuffer) :
    screen.endBulkUpdate.suspendFieldDetection = screen.suspendFieldDetection - 1 := by
  unfold endBulkUpdate
  simp only
  split
  · rfl
  · rfl

theorem handleNvtData_suspended (data : List UInt8) (screen : ScreenBuffer) :
    (screen.handleNvtData data).suspendFieldDetection =
      screen.suspendFieldDetection := by
  unfold handleNvtData
  split
  · rfl
  · rw [endBulkUpdate_suspended, writeNvt_suspended]
    rfl

end ScreenBuffer

theorem RecordStep.suspended {saved before after : ScreenBuffer}
    (step : RecordStep saved before after) :
    after.suspendFieldDetection = before.suspendFieldDetection := by
  cases step with
  | order step => exact step.frame.suspended
  | unlock => rfl
  | clear => rfl
  | fillSpaces => rfl
  | restore => rfl

namespace DataStreamParser

/-- How a parse may end: it returns, or it raises a parse error. -/
def EndsProperly : EStateM.Result Fault DataStreamParser ParseExit → Prop
  | .ok exit _ => exit ≠ .outOfFuel
  | .error (.parseError _) _ => True
  | .error (.other _) _ => False

theorem endsProperly_mapState {f : DataStreamParser → DataStreamParser}
    {result : EStateM.Result Fault DataStreamParser ParseExit}
    (ends : EndsProperly result) : EndsProperly (mapState f result) := by
  cases result with
  | ok exit after => exact ends
  | error fault after => cases fault <;> exact ends

theorem handleParseError_ends (snapshot : Option ScreenSnapshot) (fault : Fault)
    (parser : DataStreamParser) :
    EndsProperly (handleParseError snapshot fault parser) := by
  cases fault with
  | other text => exact trivial
  | parseError errorMsg =>
      rw [handleParseError_run]
      split
      · exact trivial
      · exact fun equal => by cases equal

theorem tryCatch_handleParseError_ends {m : ParserM ParseExit}
    {snapshot : Option ScreenSnapshot} {parser : DataStreamParser}
    (finishes : ∀ after, m parser ≠ .ok .outOfFuel after) :
    EndsProperly (tryCatch m (handleParseError snapshot) parser) := by
  cases outcome : m parser with
  | ok exit after =>
      rw [run_tryCatch_ok outcome]
      rintro rfl
      exact finishes after outcome
  | error fault after =>
      rw [run_tryCatch_error outcome]
      exact handleParseError_ends snapshot fault after

theorem parseRecord_ends {parser : DataStreamParser}
    (fresh : parser.parserPos = 0) : EndsProperly (parseRecord parser) := by
  match data : parser.data with
  | [] =>
      rw [parseRecord_empty data]
      exact fun equal => by cases equal
  | firstByte :: rest =>
      cases write : isWriteCommand firstByte || isEraseWriteCommand firstByte with
      | false =>
          rw [parseRecord_plain write data fresh]
          refine tryCatch_handleParseError_ends (parseLoop_ne_outOfFuel ?_)
          exact ⟨Nat.le_refl _, by simp [afterWcc, data]⟩
      | true =>
          match rest with
          | [] =>
              rw [parseRecord_missingWcc write data fresh]
              split
              · exact fun equal => by cases equal
              · exact handleParseError_ends _ _ _
          | wcc :: rest =>
              rw [parseRecord_write write data fresh]
              refine tryCatch_handleParseError_ends (parseLoop_ne_outOfFuel ?_)
              exact ⟨Nat.le_refl _, by simp [startWrite, afterWcc, data]⟩

theorem prepareScreen_valid {screen : ScreenBuffer} (valid : screen.Valid)
    (bulkMode : Bool) : ValidLike screen (prepareScreen bulkMode screen) := by
  have home := (valid.setAsciiMode false).setPosition 0 0
  cases bulkMode with
  | false => exact ⟨home, rfl, rfl⟩
  | true => exact ⟨home.beginBulkUpdate, rfl, rfl⟩

theorem keepsValid_prepared {screen before after : ScreenBuffer} {bulkMode : Bool}
    (step : RecordStep (prepareScreen bulkMode screen) before after)
    (valid : screen.Valid) (here : ValidLike screen before) : ValidLike screen after := by
  obtain ⟨start, rows, cols⟩ := prepareScreen_valid valid bulkMode
  have kept := step.keepsValid start
    ⟨here.1, here.2.1.trans rows.symm, here.2.2.trans cols.symm⟩
  exact ⟨kept.1, kept.2.1.trans rows, kept.2.2.trans cols⟩

/-- Neither the screen nor what is remembered of its fields has changed. -/
structure Undisturbed (before after : DataStreamParser) : Prop where
  screen : after.screen = before.screen
  last : after.lastFieldStartPos = before.lastFieldStartPos

private theorem swallow_returns (m : ParserM Unit) (parser : DataStreamParser) :
    swallow m parser = .ok () (finalState (m parser)) := by
  unfold swallow
  cases outcome : m parser with
  | ok value after => exact run_tryCatch_ok outcome
  | error fault after => exact run_tryCatch_error outcome

private theorem writeToPrinter_undisturbed (data : List UInt8)
    (parser : DataStreamParser) :
    Undisturbed parser (finalState (writeToPrinter data parser)) := by
  unfold writeToPrinter
  rw [run_get_bind]
  cases parser.printer with
  | none => exact ⟨rfl, rfl⟩
  | some printer =>
      have called : call (.writeScsData data) parser =
          .ok () { parser with calls := parser.calls ++ [.writeScsData data] } := rfl
      simp only
      rw [run_bind_ok called]
      cases printer.writeScsDataRaises data <;> exact ⟨rfl, rfl⟩

/-- A step that returns and leaves the screen alone. -/
private def Silent (m : ParserM Unit) (parser : DataStreamParser) : Prop :=
  ∃ after, m parser = .ok () after ∧ Undisturbed parser after

private theorem Silent.ignored {m : ParserM Unit} {parser : DataStreamParser}
    {data : List UInt8}
    (quiet : Silent m { parser with data, parserPos := 0, pos := 0 }) :
    ∃ after, (do
        m
        return ParseExit.ignored : ParserM ParseExit)
          { parser with data, parserPos := 0, pos := 0 } = .ok .ignored after ∧
      Undisturbed parser after := by
  obtain ⟨after, run, same⟩ := quiet
  exact ⟨after, run_bind_ok run, same.screen, same.last⟩

private theorem quiet_callIf (condition : Bool) (made : CollaboratorCall)
    (parser : DataStreamParser) :
    Silent (if condition then call made else pure ()) parser := by
  cases condition
  · exact ⟨parser, rfl, rfl, rfl⟩
  · exact ⟨_, rfl, rfl, rfl⟩

private theorem quiet_handleRequest (data : List UInt8)
    (parser : DataStreamParser) : Silent (handleRequest data) parser := by
  cases data with
  | nil => exact ⟨parser, rfl, rfl, rfl⟩
  | cons requestFlags rest =>
      unfold Silent handleRequest
      rw [run_get_bind]
      simp only
      split
      · exact ⟨_, rfl, rfl, rfl⟩
      · exact ⟨parser, rfl, rfl, rfl⟩

/-- The data types that `parse` takes for 3270 data. -/
def takesFor3270 (dataType : UInt8) (parser : DataStreamParser) : Bool :=
  !(dataType = 0x01 && parser.printer.isSome) &&
    dataType ∉ [0x02, 0x03, 0x04, 0x05, 0x06, 0x07, 0x08, 0x09]

theorem takesFor3270_of_listed {dataType : UInt8} (parser : DataStreamParser)
    (listed : dataType ∈ ([0x02, 0x03, 0x04, 0x05, 0x06, 0x07, 0x08, 0x09] : List UInt8)) :
    takesFor3270 dataType parser = false := by
  unfold takesFor3270
  rw [Bool.and_eq_false_iff]
  exact .inr (decide_eq_false (not_not.mpr listed))

/-- The printer takes the data of its sessions, whatever comes of it. -/
theorem parse_printed (data : List UInt8) {parser : DataStreamParser}
    (printer : parser.printer.isSome = true) :
    ∃ after, parse data 0x01 parser = .ok .ignored after ∧
      Undisturbed parser after := by
  let started := { parser with data, parserPos := 0, pos := 0 }
  have written := writeToPrinter_undisturbed data started
  refine ⟨{ finalState (writeToPrinter data started) with pos := data.length }, ?_,
    written.screen, written.last⟩
  show (if (0x01 : UInt8) = 0x01 ∧ parser.printer.isSome then do
      swallow (writeToPrinter data)
      modify fun parser => { parser with pos := data.length }
      return .ignored
    else _ : ParserM ParseExit) started = _
  rw [if_pos ⟨rfl, printer⟩, run_bind_ok (swallow_returns _ _)]
  rfl

/-- Control data leaves the screen alone. -/
theorem parse_control {dataType : UInt8}
    (control : dataType ∈ ([0x02, 0x03, 0x04, 0x06, 0x07, 0x08, 0x09] : List UInt8))
    (data : List UInt8) (parser : DataStreamParser) :
    ∃ after, parse data dataType parser = .ok .ignored after ∧
      Undisturbed parser after := by
  simp only [List.mem_cons, List.not_mem_nil, or_false] at control
  rcases control with rfl | rfl | rfl | rfl | rfl | rfl | rfl
  · exact ⟨_, rfl, rfl, rfl⟩
  · exact (quiet_callIf _ _ _).ignored
  · exact ⟨_, rfl, rfl, rfl⟩
  · exact (quiet_handleRequest data _).ignored
  · exact ⟨_, rfl, rfl, rfl⟩
  · show ∃ after, (if parser.printer.isSome then do
        call .endJob
        return .ignored
      else return .ignored : ParserM ParseExit) _ = .ok .ignored after ∧ _
    cases parser.printer.isSome with
    | true => exact ⟨_, rfl, rfl, rfl⟩
    | false => exact ⟨_, rfl, rfl, rfl⟩
  · exact (quiet_callIf _ _ _).ignored

theorem parse_unlisted {dataType : UInt8} {parser : DataStreamParser}
    (unprinted : ¬ (dataType = 0x01 ∧ parser.printer.isSome = true))
    (unlisted : dataType ∉
      ([0x02, 0x03, 0x04, 0x05, 0x06, 0x07, 0x08, 0x09] : List UInt8))
    (data : List UInt8) : parse data dataType parser = parse data 0x00 parser := by
  simp only [List.mem_cons, List.not_mem_nil, or_false, not_or] at unlisted
  obtain ⟨two, three, four, five, six, seven, eight, nine⟩ := unlisted
  have started : (modify fun parser => { parser with data, parserPos := 0, pos := 0 } :
      ParserM Unit) parser = .ok () { parser with data, parserPos := 0, pos := 0 } := rfl
  unfold parse
  rw [run_bind_ok started, run_get_bind]
  dsimp only
  rw [if_neg unprinted, if_neg seven, if_neg eight, if_neg three, if_neg nine,
    if_neg four, if_neg five, if_neg two, if_neg six]
  rfl

theorem parse_taken (data : List UInt8) (dataType : UInt8) (parser : DataStreamParser) :
    (takesFor3270 dataType parser = false ∧
      ∃ after, parse data dataType parser = .ok .ignored after ∧
        Undisturbed parser after) ∨
    (takesFor3270 dataType parser = true ∧
      parse data dataType parser = parse data 0x00 parser) ∨
    (takesFor3270 dataType parser = false ∧
      parse data dataType parser = parse data 0x05 parser) := by
  by_cases printed : dataType = 0x01 ∧ parser.printer.isSome = true
  · obtain ⟨rfl, printer⟩ := printed
    have printing : takesFor3270 0x01 parser = false := by
      unfold takesFor3270
      rw [printer]
      rfl
    exact .inl ⟨printing, parse_printed data printer⟩
  by_cases listed : dataType ∈
      ([0x02, 0x03, 0x04, 0x05, 0x06, 0x07, 0x08, 0x09] : List UInt8)
  · have untaken := takesFor3270_of_listed parser listed
    by_cases nvt : dataType = 0x05
    · subst nvt
      exact .inr (.inr ⟨untaken, rfl⟩)
    · refine .inl ⟨untaken, parse_control ?_ data parser⟩
      simp only [List.mem_cons, List.not_mem_nil, or_false] at listed ⊢
      simpa only [nvt, false_or] using listed
  · have taken : takesFor3270 dataType parser = true := by
      unfold takesFor3270
      rw [Bool.and_eq_true, Bool.not_eq_true', ← Bool.not_eq_true, Bool.and_eq_true,
        decide_eq_true_eq]
      exact ⟨printed, decide_eq_true listed⟩
    exact .inr (.inl ⟨taken, parse_unlisted printed listed data⟩)

theorem parse_of_taken {dataType : UInt8} {parser : DataStreamParser}
    (taken : takesFor3270 dataType parser = true) (data : List UInt8) :
    parse data dataType parser = parse data 0x00 parser := by
  rcases parse_taken data dataType parser with
    ⟨untaken, -⟩ | ⟨-, same⟩ | ⟨untaken, -⟩
  · rw [taken] at untaken
    cases untaken
  · exact same
  · rw [taken] at untaken
    cases untaken

theorem parse_dispatch (data : List UInt8) (dataType : UInt8)
    (parser : DataStreamParser) :
    (∃ after, parse data dataType parser = .ok .ignored after ∧
      after.screen = parser.screen) ∨
    parse data dataType parser = parse data 0x00 parser ∨
    parse data dataType parser = parse data 0x05 parser :=
  (parse_taken data dataType parser).imp
    (fun ⟨_, after, ignored, same⟩ => ⟨after, ignored, same.screen⟩)
    (Or.imp And.right And.right)

theorem parse_ends (data : List UInt8) (dataType : UInt8) (parser : DataStreamParser) :
    EndsProperly (parse data dataType parser) := by
  rcases parse_dispatch data dataType parser with
    ⟨after, ignored, same⟩ | tn3270 | nvt
  · rw [ignored]
    exact fun equal => by cases equal
  · rw [tn3270, parse_tn3270]
    exact endsProperly_mapState (parseRecord_ends rfl)
  · rw [nvt, parse_nvt]
    exact fun equal => by cases equal

/-- The rule for what a parse keeps of the screen: the preparation, the steps of
the record, the end of the bulk update and NVT data have to keep it. -/
theorem parse_keeps {Kept : ScreenBuffer → Prop} {parser : DataStreamParser}
    {data : List UInt8} (start : Kept parser.screen)
    (prepared : ∀ bulkMode, Kept (prepareScreen bulkMode parser.screen))
    (step : ∀ bulkMode {before after}, Kept before →
      RecordStep (prepareScreen bulkMode parser.screen) before after → Kept after)
    (ended : ∀ {screen}, Kept screen → Kept screen.endBulkUpdate)
    (nvt : Kept (parser.screen.handleNvtData data)) (dataType : UInt8) :
    Kept (finalState (parse data dataType parser)).screen := by
  rcases parse_dispatch data dataType parser with
    ⟨after, ignored, same⟩ | tn3270 | text
  · rw [ignored, finalState_ok, same]
    exact start
  · rw [tn3270, parse_tn3270, finalState_mapState]
    generalize decide (bulkThreshold < data.length) = bulkMode
    have steps : RecordSteps _ _ _ := parseRecord_recordSteps
      (rfl : (prepare bulkMode data parser).screen.snapshot = _)
    unfold RecordSteps at steps
    have kept : Kept (finalState (parseRecord (prepare bulkMode data parser))).screen := by
      generalize (finalState (parseRecord (prepare bulkMode data parser))).screen =
        reached at steps ⊢
      induction steps with
      | refl => exact prepared bulkMode
      | tail _ last ih => exact step bulkMode ih last
    cases bulkMode with
    | false => exact kept
    | true => exact ended kept
  · rw [text, parse_nvt]
    exact nvt

theorem parse_valid {parser : DataStreamParser} (valid : parser.screen.Valid)
    (data : List UInt8) (dataType : UInt8) :
    EndsProperly (parse data dataType parser) ∧
      ValidLike parser.screen (finalState (parse data dataType parser)).screen := by
  have prepared := prepareScreen_valid valid
  refine ⟨parse_ends data dataType parser, parse_keeps ⟨valid, rfl, rfl⟩ prepared ?_
    ScreenBuffer.ValidLike.endBulkUpdate (valid.handleNvtData data) dataType⟩
  exact fun bulkMode {_ _} here step => keepsValid_prepared step valid here

/-- The parser after a sequence of calls, whether they raised or not. -/
def afterCalls (parser : DataStreamParser) (calls : List (List UInt8 × UInt8)) :
    DataStreamParser :=
  calls.foldl (fun reached call => finalState (parse call.1 call.2 reached)) parser

theorem afterCalls_valid {parser : DataStreamParser} (valid : parser.screen.Valid)
    (calls : List (List UInt8 × UInt8)) :
    ValidLike parser.screen (afterCalls parser calls).screen := by
  induction calls generalizing parser with
  | nil => exact ⟨valid, rfl, rfl⟩
  | cons call calls ih =>
      have first := (parse_valid valid call.1 call.2).2
      have later := ih first.1
      exact ⟨later.1, later.2.1.trans first.2.1, later.2.2.trans first.2.2⟩

instance : IsPreorder ScreenBuffer fun before after =>
    after.suspendFieldDetection = before.suspendFieldDetection where
  refl _ := rfl
  trans _ _ _ left right := right.trans left

/-- Suspensions are balanced: a parse leaves the counter as it found it. -/
theorem parse_suspended (data : List UInt8) (dataType : UInt8)
    (parser : DataStreamParser) :
    (finalState (parse data dataType parser)).screen.suspendFieldDetection =
      parser.screen.suspendFieldDetection := by
  rcases parse_dispatch data dataType parser with
    ⟨after, ignored, same⟩ | tn3270 | nvt
  · rw [ignored, finalState_ok, same]
  · rw [tn3270, parse_tn3270, finalState_mapState]
    have kept := RecordSteps.run RecordStep.suspended (parseRecord_recordSteps
      (rfl : (prepare (decide (bulkThreshold < data.length)) data
        parser).screen.snapshot = _))
    cases bulk : decide (bulkThreshold < data.length) with
    | false =>
        rw [bulk] at kept
        exact kept
    | true =>
        rw [bulk] at kept
        refine (ScreenBuffer.endBulkUpdate_suspended _).trans ?_
        rw [kept]
        rfl
  · rw [nvt, parse_nvt]
    exact ScreenBuffer.handleNvtData_suspended data parser.screen

theorem afterCalls_suspended (parser : DataStreamParser)
    (calls : List (List UInt8 × UInt8)) :
    (afterCalls parser calls).screen.suspendFieldDetection =
      parser.screen.suspendFieldDetection := by
  induction calls generalizing parser with
  | nil => rfl
  | cons call calls ih =>
      exact (ih _).trans (parse_suspended call.1 call.2 parser)

/-- The safety envelope: after any sequence of parses, of 3270, NVT or other data,
the next one ends, raises nothing but a parse error, and leaves arrays of the
right size, the cursor, the field starts and both ends of every field on the
screen. -/
theorem parse_safety_envelope {parser : DataStreamParser}
    (valid : parser.screen.Valid) (calls : List (List UInt8 × UInt8))
    (data : List UInt8) (dataType : UInt8) :
    EndsProperly (parse data dataType (afterCalls parser calls)) ∧
      ∀ screen,
        (finalState (parse data dataType (afterCalls parser calls))).screen = screen →
          screen.rows = parser.screen.rows ∧ screen.cols = parser.screen.cols ∧
          screen.buffer.length = screen.rows * screen.cols ∧
          screen.attributes.length = 3 * (screen.rows * screen.cols) ∧
          screen.cursorRow < screen.rows ∧ screen.cursorCol < screen.cols ∧
          (∀ start ∈ screen.fieldStarts, start < screen.rows * screen.cols) ∧
          ∀ field ∈ screen.fields,
            field.InBounds screen.rows screen.cols ∧
              Position.le field.start field.finish := by
  have reached := afterCalls_valid valid calls
  obtain ⟨ends, kept⟩ := parse_valid reached.1 data dataType
  refine ⟨ends, ?_⟩
  rintro screen rfl
  exact ⟨kept.2.1.trans reached.2.1, kept.2.2.trans reached.2.2,
    kept.1.buffer_length, kept.1.attributes_length, kept.1.cursorRow_lt,
    kept.1.cursorCol_lt, kept.1.starts_lt,
    fun field member => ⟨kept.1.fields_inBounds field member, field.ordered⟩⟩

/-- A parser on a blank screen of two rows and three columns with the cursor
somewhere on it. -/
def smallParser (row col : Nat) : DataStreamParser :=
  init ((ScreenBuffer.init 2 3 (Nat.succ_pos 1) (Nat.succ_pos 2) 0x40 "cp037").setPosition
    row col) none false .mode12Bit

theorem smallParser_valid (row col : Nat) : (smallParser row col).screen.Valid :=
  (ScreenBuffer.valid_init 2 3 _ _ _ _).setPosition row col

/-- Two records and a piece of text on a small screen. -/
theorem parse_safety_envelope_small :
    EndsProperly (parse [0xC1, 0x0A, 0xC2] 0x05
      (afterCalls (smallParser 0 0)
        [([0xF5, 0xC3, 0x1D, 0x60, 0xC1], 0x00), ([0x11], 0x00)])) :=
  (parse_safety_envelope (smallParser_valid 0 0) _ [0xC1, 0x0A, 0xC2] 0x05).1

end DataStreamParser

end Pure3270
