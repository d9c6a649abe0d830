import Pure3270.Protocol.AddressLaw

/-!
# Data transparency

Graphic bytes, those from `0x40` up, are to be stored as they are.  The order
table claims two of them: `0x40`, which is stored all the same because no
control code follows it, and `0x88`, which starts a structured field and takes
bytes of text with it.
-/

namespace Pure3270

open Foundations Relation

namespace ScreenBuffer

def storeText (bytes : List UInt8) (screen : ScreenBuffer) : ScreenBuffer :=
  bytes.foldl (fun reached byte => reached.storeData byte) screen

/-- The field state of a screen. -/
def fieldState (screen : ScreenBuffer) : SortedSet × List Field :=
  (screen.fieldStarts, screen.fields)

theorem insertByte_fieldState (byte : UInt8) (screen : ScreenBuffer) :
    (screen.insertByte byte).fieldState = screen.fieldState := by
  unfold insertByte
  simp only
  split <;> rfl

private theorem splice_cons {buffer bytes : List UInt8} {byte : UInt8}
    {address : Nat} (inside : address < buffer.length) :
    (buffer.set address byte).take (address + 1) ++ bytes ++
        (buffer.set address byte).drop (address + 1 + bytes.length) =
      buffer.take address ++ byte :: bytes ++
        buffer.drop (address + (byte :: bytes).length) := by
  have head : (buffer.set address byte).take (address + 1) =
      buffer.take address ++ [byte] := by
    rw [List.take_succ_eq_append_getElem (by simpa using inside),
      List.getElem_set_self, List.take_set_of_le (Nat.le_refl _)]
  have tail : (buffer.set address byte).drop (address + 1 + bytes.length) =
      buffer.drop (address + 1 + bytes.length) :=
    List.drop_set_of_lt (by omega)
  have width : address + 1 + bytes.length = address + (byte :: bytes).length := by
    rw [List.length_cons]
    omega
  rw [head, tail, width]
  simp

theorem storeText_spec {screen : ScreenBuffer} (valid : screen.Valid)
    {bytes : List UInt8} (graphic : ∀ byte ∈ bytes, byte ≠ 0x00)
    (fits : screen.cursorAddress + bytes.length ≤ screen.size) :
    (screen.storeText bytes).buffer =
        screen.buffer.take screen.cursorAddress ++ bytes ++
          screen.buffer.drop (screen.cursorAddress + bytes.length) ∧
      (screen.storeText bytes).fieldState = screen.fieldState := by
  induction bytes generalizing screen with
  | nil => exact ⟨by simp [storeText], rfl⟩
  | cons byte bytes ih =>
      have here : byte ≠ 0x00 := graphic byte List.mem_cons_self
      have stored : screen.storeData byte = screen.insertByte byte := if_neg here
      have inside : screen.cursorAddress < screen.buffer.length := by
        rw [valid.buffer_length]
        exact valid.cursorAddress_lt
      have buffer := insertByte_buffer byte screen
      have state := insertByte_fieldState byte screen
      have step : screen.storeText (byte :: bytes) =
          (screen.insertByte byte).storeText bytes := by
        rw [← stored]
        rfl
      rw [step]
      cases bytes with
      | nil =>
          refine ⟨?_, state⟩
          refine buffer.trans ?_
          rw [← splice_cons inside, List.append_nil]
          exact (List.take_append_drop _ _).symm
      | cons next rest =>
          have room : screen.cursorAddress + 1 < screen.rows * screen.cols := by
            simp only [List.length_cons] at fits
            unfold size at fits
            omega
          have moved : (screen.insertByte byte).cursorAddress =
              screen.cursorAddress + 1 := by
            rw [cursorAddress_insertByte valid, if_pos room]
          have frame := (ScreenStep.insertByte byte valid.cursorRow_lt
            valid.cursorCol_lt).frame
          have sameSize : (screen.insertByte byte).size = screen.size := by
            unfold size
            rw [frame.rows, frame.cols]
          have fitsLater : (screen.insertByte byte).cursorAddress +
              (next :: rest).length ≤ (screen.insertByte byte).size := by
            rw [moved, sameSize]
            simp only [List.length_cons] at fits ⊢
            omega
          obtain ⟨laterBuffer, laterState⟩ := ih (valid.insertByte byte)
            (fun other member => graphic other (List.mem_cons_of_mem _ member))
            fitsLater
          refine ⟨?_, laterState.trans state⟩
          rw [laterBuffer, moved, buffer]
          exact splice_cons inside

end ScreenBuffer

namespace DataStreamParser

/-- The reader is past the control character and only graphic bytes follow it. -/
def Graphic (parser : DataStreamParser) : Prop :=
  2 ≤ parser.parserPos ∧ ∀ byte ∈ parser.data.drop 2, 0x40 ≤ byte

theorem Graphic.byte {parser : DataStreamParser} {byte : UInt8}
    (graphic : Graphic parser) {index : Nat} (past : 2 ≤ index)
    (here : parser.data[index]? = some byte) : 0x40 ≤ byte := by
  apply graphic.2
  rw [List.mem_iff_getElem?]
  refine ⟨index - 2, ?_⟩
  rw [List.getElem?_drop, Nat.add_sub_of_le past]
  exact here

theorem Graphic.ofSteps {before after : DataStreamParser}
    (graphic : Graphic before) (steps : HandlerSteps before after) :
    Graphic after := by
  have progress := steps.readerProgress
  refine ⟨graphic.1.trans progress.forward, ?_⟩
  rw [progress.data]
  exact graphic.2

/-- A computation that returns and leaves the screen alone. -/
def Quiet (m : ParserM α) (parser : DataStreamParser) : Prop :=
  ∃ value after, m parser = .ok value after ∧ after.screen = parser.screen

theorem Quiet.pure (value : α) (parser : DataStreamParser) :
    Quiet (pure value : ParserM α) parser :=
  ⟨value, parser, rfl, rfl⟩

theorem Quiet.bind {m : ParserM α} {f : α → ParserM β} {parser : DataStreamParser}
    (first : Quiet m parser)
    (next : ∀ value after, m parser = .ok value after → Quiet (f value) after) :
    Quiet (m >>= f) parser := by
  obtain ⟨value, middle, ran, same⟩ := first
  obtain ⟨result, after, later, laterSame⟩ := next value middle ran
  exact ⟨result, after, (run_bind_ok ran).trans later, laterSame.trans same⟩

theorem attempt_readByte_run (parser : DataStreamParser) :
    (attempt readByte parser = .ok none parser) ∨
      ∃ byte, parser.data[parser.parserPos]? = some byte ∧
        attempt readByte parser = .ok (some byte) (parser.read 1) := by
  have failed : ∀ text, readByte parser = .error (.parseError text) parser →
      attempt readByte parser = .ok none parser := by
    intro text raised
    exact run_tryCatch_error (run_bind_error raised)
  by_cases ended : parser.data.length ≤ parser.pos
  · left
    apply failed "Overflow"
    unfold readByte
    rw [run_get_bind]
    simp only [if_pos ended]
    rfl
  · cases here : parser.data[parser.parserPos]? with
    | none => exact .inl (failed "Overflow" (readByte_none here))
    | some byte =>
        right
        have ran : readByte parser = .ok byte (parser.read 1) := by
          unfold readByte
          rw [run_get_bind]
          simp only [here, if_neg ended]
          rfl
        exact ⟨byte, rfl, run_tryCatch_ok (run_bind_ok ran)⟩

theorem attempt_readByte_quiet (parser : DataStreamParser) :
    Quiet (attempt readByte) parser := by
  rcases attempt_readByte_run parser with ran | ⟨byte, _, ran⟩
  · exact ⟨none, parser, ran, rfl⟩
  · exact ⟨some byte, _, ran, rfl⟩

theorem attempt_readByte_graphic {parser after : DataStreamParser} {byte : UInt8}
    (graphic : Graphic parser)
    (ran : attempt readByte parser = .ok (some byte) after) : 0x40 ≤ byte := by
  rcases attempt_readByte_run parser with failed | ⟨other, here, read⟩
  · rw [failed] at ran
    cases ran
  · rw [read] at ran
    cases ran
    exact graphic.byte graphic.1 here

theorem graphic_afterAttempt {parser after : DataStreamParser}
    {result : Option UInt8} (graphic : Graphic parser)
    (ran : attempt readByte parser = .ok result after) : Graphic after := by
  have steps : HandlerSteps parser _ :=
    within_ordinary (attempt_steps readByte_steps) parser
  rw [ran] at steps
  exact graphic.ofSteps steps

/-- The structured field types that change the screen are no graphic bytes. -/
theorem sfHandlers_quiet {sfType : UInt8} (graphic : 0x40 ≤ sfType)
    (data : List UInt8) (parser : DataStreamParser) :
    Quiet (swallow (sfHandlers sfType data)) parser := by
  have calls : ∀ m : ParserM Unit, Quiet m parser → Quiet (swallow m) parser := by
    rintro m ⟨value, after, ran, same⟩
    exact ⟨value, after, run_tryCatch_ok ran, same⟩
  apply calls
  unfold sfHandlers
  split
  · exact absurd graphic (by decide)
  · exact absurd graphic (by decide)
  · exact absurd graphic (by decide)
  · exact absurd graphic (by decide)
  · unfold handleIndfileSf
    by_cases handled : data ≠ [] ∧ parser.hasIndFileHandler = true
    · refine ⟨(), { parser with
        calls := parser.calls ++ [.handleIncomingData data] }, ?_, rfl⟩
      rw [run_get_bind, if_pos handled]
      rfl
    · refine ⟨(), _, ?_, rfl⟩
      rw [run_get_bind, if_neg handled]
      rfl
  · exact Quiet.pure () parser

theorem skipStructuredField_quiet (parser : DataStreamParser) :
    Quiet skipStructuredField parser :=
  ⟨(), _, rfl, rfl⟩

theorem readStructuredFieldBody_quiet {parser : DataStreamParser}
    (graphic : Graphic parser) (length : Nat) :
    Quiet (readStructuredFieldBody length) parser := by
  refine (attempt_readByte_quiet parser).bind fun result middle ran => ?_
  cases result with
  | none => exact Quiet.pure () middle
  | some sfType =>
      have type := attempt_readByte_graphic graphic ran
      obtain ⟨value, after, ran, same⟩ := sfHandlers_quiet type
        ((middle.data.drop middle.parserPos).take (min (length - 1) middle.remaining))
        { middle with
          parserPos := middle.parserPos + min (length - 1) middle.remaining }
      exact ⟨value, after, ran, same⟩

theorem readHeader_quiet {parser : DataStreamParser} (graphic : Graphic parser) :
    Quiet handleStructuredField.readHeader parser := by
  unfold handleStructuredField.readHeader
  show Quiet (if parser.remaining < 3 then skipStructuredField else _) parser
  split
  · exact skipStructuredField_quiet parser
  · refine (attempt_readByte_quiet parser).bind fun high afterHigh ranHigh => ?_
    cases high with
    | none => exact skipStructuredField_quiet afterHigh
    | some high =>
        have graphicHigh := graphic_afterAttempt graphic ranHigh
        refine (attempt_readByte_quiet afterHigh).bind fun low afterLow ranLow => ?_
        cases low with
        | none => exact skipStructuredField_quiet afterLow
        | some low =>
            show Quiet (if afterLow.remaining + 1000 < u16 high low
              then skipStructuredField else _) afterLow
            split
            · exact skipStructuredField_quiet afterLow
            · split
              · exact skipStructuredField_quiet afterLow
              · exact readStructuredFieldBody_quiet
                  (graphic_afterAttempt graphicHigh ranLow) _

/-- A structured field in text takes bytes and leaves the screen alone. -/
theorem handleStructuredField_quiet {parser : DataStreamParser}
    (graphic : Graphic parser) : Quiet handleStructuredField parser := by
  unfold handleStructuredField
  show Quiet (if parser.data[parser.parserPos]? = some 0x88 then _ else _) parser
  split
  · refine (attempt_readByte_quiet parser).bind fun result middle ran => ?_
    cases result with
    | none => exact Quiet.pure () middle
    | some byte => exact readHeader_quiet (graphic_afterAttempt graphic ran)
  · exact readHeader_quiet graphic

theorem orderHandlers_graphic {byte : UInt8} (graphic : 0x40 ≤ byte)
    (notSpace : byte ≠ 0x40) (notField : byte ≠ 0x88) :
    orderHandlers byte = none := by
  unfold orderHandlers
  split
  all_goals first
    | rfl
    | exact absurd graphic (by decide)
    | exact absurd rfl notSpace
    | exact absurd rfl notField

/-- In the loop on text: a valid screen on which no cell holds `0x88`. -/
structure OnText (parser : DataStreamParser) : Prop where
  valid : parser.screen.Valid
  positioned : Positioned parser
  graphic : Graphic parser
  clean : 0x88 ∉ parser.screen.buffer

private theorem clean_storeData {screen : ScreenBuffer} {byte : UInt8}
    (clean : 0x88 ∉ screen.buffer) (other : byte ≠ 0x88) :
    0x88 ∉ (screen.storeData byte).buffer := by
  unfold ScreenBuffer.storeData
  split
  · exact clean
  · rw [ScreenBuffer.insertByte_buffer]
    intro member
    rcases List.mem_or_eq_of_mem_set member with old | new
    · exact clean old
    · exact other new.symm

/-- A graphic byte is handled without an error, and what it stores is not
`0x88`. -/
theorem processByte_onText {parser : DataStreamParser} (onText : OnText parser)
    (more : parser.hasMore = true) :
    ∃ after, processByte parser = .ok () after ∧ OnText after := by
  have inside : parser.parserPos < parser.data.length := by
    simpa [hasMore] using more
  have here : parser.data[parser.parserPos]? =
      some parser.data[parser.parserPos] := List.getElem?_eq_getElem inside
  generalize parser.data[parser.parserPos] = byte at here
  have graphic := onText.graphic.byte onText.graphic.1 here
  have advanced : Graphic { parser with parserPos := parser.parserPos + 1 } :=
    ⟨onText.graphic.1.trans (Nat.le_succ _), onText.graphic.2⟩
  have there : ({ parser with
      parserPos := parser.parserPos + 1 } : DataStreamParser).screen.Valid :=
    onText.valid
  have handled : ∃ after, processByte parser = .ok () after ∧
      0x88 ∉ after.screen.buffer := by
    rw [processByte_run here]
    by_cases field : byte = 0x88
    · subst field
      obtain ⟨value, after, ran, same⟩ := handleStructuredField_quiet advanced
      refine ⟨_, dispatch_handled (rfl :
        orderHandlers 0x88 = some handleStructuredField) ran, ?_⟩
      show 0x88 ∉ after.screen.buffer
      rw [same]
      exact onText.clean
    · have stored := clean_storeData onText.clean field
      by_cases space : byte = 0x40
      · subst space
        have notControl : parser.data[parser.parserPos + 1]? ≠ some 0x01 := by
          intro control
          exact absurd (onText.graphic.byte
            (onText.graphic.1.trans (Nat.le_succ _)) control) (by decide)
        have ran := (handleDataStreamCtlOrder_eq { parser with
          parserPos := parser.parserPos + 1 }).trans (if_neg notControl)
        exact ⟨_, dispatch_handled (rfl :
          orderHandlers 0x40 = some handleDataStreamCtlOrder)
            (ran.trans (insertData_run there 0x40)), stored⟩
      · have plain := orderHandlers_graphic graphic space field
        have notNull : byte ≠ 0x00 := by
          rintro rfl
          exact absurd graphic (by decide)
        refine ⟨{ parser with
          parserPos := parser.parserPos + 1
          pos := parser.parserPos + 1
          screen := parser.screen.storeData byte }, ?_, stored⟩
        unfold dispatch
        rw [plain]
        simp only [if_neg notNull]
        rw [run_bind_ok (insertData_run there byte)]
        rfl
  obtain ⟨after, ran, clean⟩ := handled
  have steps : HandlerSteps parser _ := processByte_steps parser
  have progress := processByte_progress onText.positioned more
  have valid : KeepsValid parser.screen parser _ := HandlerSteps.keepsValid steps
  rw [ran] at steps progress valid
  exact ⟨after, ran, (valid ⟨onText.valid, rfl, rfl⟩).1, progress.2.1,
    onText.graphic.ofSteps steps, clean⟩

theorem parseLoop_onText {parser : DataStreamParser} (onText : OnText parser)
    (snapshot : Option ScreenSnapshot) :
    ∃ after, parseLoop snapshot parser = .ok .finished after ∧
      0x88 ∉ after.screen.buffer := by
  let R := fun before after : DataStreamParser => OnText before → OnText after
  have preorder : IsPreorder DataStreamParser R :=
    { refl := fun _ => id, trans := fun _ _ _ left right => right ∘ left }
  have rounds : ∀ {before : DataStreamParser}, OnText before →
      (parseRound snapshot before = .ok (some .finished) before) ∨
        ∃ after, parseRound snapshot before = .ok none after ∧ OnText after := by
    intro before here
    rw [parseRound_run]
    split
    · rename_i more
      obtain ⟨after, ran, later⟩ := processByte_onText here more
      rw [ran]
      exact .inr ⟨after, rfl, later⟩
    · exact .inl rfl
  have step : ∀ {before after : DataStreamParser},
      parseRound snapshot before = .ok none after → R before after := by
    intro before after round here
    rcases rounds here with left | ⟨next, continued, later⟩
    · rw [left] at round
      cases round
    · rw [continued] at round
      cases round
      exact later
  generalize looped : iterate (parseRound snapshot) (roundLimit parser.data.length)
    parser = result
  have decided : ∀ after, result ≠ .ok none after := by
    intro after
    rw [← looped]
    exact iterate_ne_none (parseRound_progress snapshot) onText.positioned
      (loopMeasure_lt_roundLimit parser) after
  obtain ⟨last, reached, round⟩ := iterate_exit step looped decided
  rcases rounds (reached onText) with left | ⟨next, continued, _⟩
  · rw [left] at round
    rw [parseLoop_run, looped, ← round]
    exact ⟨_, rfl, (reached onText).clean⟩
  · rw [continued] at round
    exact absurd round.symm (decided next)

/-- An erased screen of the size of another one, the cursor at home. -/
structure Erased (before after : ScreenBuffer) : Prop where
  rows : after.rows = before.rows
  cols : after.cols = before.cols
  buffer : after.buffer = List.replicate before.size 0x40
  cursorAddress : after.cursorAddress = 0
  fieldState : after.fieldState = (SortedSet.empty, [])

private theorem home_cursorAddress (screen : ScreenBuffer) :
    (screen.setPosition 0 0).cursorAddress = 0 := by
  rw [ScreenBuffer.cursorAddress_setPosition]
  simp

theorem erased_prepareScreen (bulkMode : Bool) (data : List UInt8)
    (screen : ScreenBuffer) :
    Erased screen ((prepareScreen bulkMode screen).erased data) := by
  have cleared : Erased screen
      ((prepareScreen bulkMode screen).clear.setPosition 0 0) := by
    cases bulkMode <;> exact ⟨rfl, rfl, rfl, home_cursorAddress _, rfl⟩
  unfold ScreenBuffer.erased
  split
  · exact { cleared with
      buffer := by
        unfold ScreenBuffer.fillSpaces
        rw [cleared.buffer, List.length_replicate] }
  · exact cleared

theorem Erased.applyWcc {before after : ScreenBuffer} (erased : Erased before after)
    (wcc : UInt8) : Erased before (after.applyWcc wcc) := by
  have moved : ∀ screen : ScreenBuffer, Erased before screen →
      Erased before (screen.setPosition 0 0) :=
    fun screen here => { here with cursorAddress := home_cursorAddress screen }
  unfold ScreenBuffer.applyWcc
  split
  · exact moved _ { erased with cursorAddress := erased.cursorAddress }
  · exact moved after erased

/-- The screen shows the text from its first cell on, blanks after it, and no
field. -/
structure Shows (text : List UInt8) (screen : ScreenBuffer) : Prop where
  stored : ∀ index (inside : index < text.length),
    screen.buffer[index]? = some text[index]
  blank : ∀ index, text.length ≤ index → index < screen.size →
    screen.buffer[index]? = some 0x40
  noFields : screen.fieldStarts = SortedSet.empty ∧ screen.fields = []

/-- The end of a parse changes no cell, and finds no field where there is no
field start. -/
theorem resume_buffer (bulkMode : Bool) (parser : DataStreamParser) :
    (resume bulkMode parser).screen.buffer = parser.screen.buffer := by
  unfold resume
  split
  · unfold ScreenBuffer.endBulkUpdate
    simp only
    split <;> rfl
  · rfl

theorem resume_noFields (bulkMode : Bool) {parser : DataStreamParser}
    (none : parser.screen.fieldState = (SortedSet.empty, [])) :
    (resume bulkMode parser).screen.fieldState = (SortedSet.empty, []) := by
  have starts : parser.screen.fieldStarts = SortedSet.empty := congrArg Prod.fst none
  unfold resume
  split
  · unfold ScreenBuffer.endBulkUpdate
    simp only
    split
    · unfold ScreenBuffer.detectFields ScreenBuffer.detectedFields
        ScreenBuffer.fieldState
      simp only [starts]
      rfl
    · exact none
  · exact none

theorem afterItems_data (text : List UInt8) (parser : DataStreamParser) :
    (afterItems (text.map Item.data) parser).screen =
      parser.screen.storeText text := by
  induction text generalizing parser with
  | nil => rfl
  | cons byte text ih => exact ih ((Item.data byte).after parser)

theorem encodeItems_data (text : List UInt8) :
    encodeItems (text.map Item.data) = text := by
  induction text with
  | nil => rfl
  | cons byte text ih =>
      rw [List.map_cons]
      exact congrArg (byte :: ·) ih

theorem framed_text {text : List UInt8} (graphic : ∀ byte ∈ text, 0x40 ≤ byte)
    (clean : 0x88 ∉ text) : Framed (text.map Item.data) [] := by
  induction text with
  | nil => trivial
  | cons byte text ih =>
      have here := graphic byte List.mem_cons_self
      refine ⟨?_, ?_, ih (fun other member =>
        graphic other (List.mem_cons_of_mem _ member))
        (fun member => clean (List.mem_cons_of_mem _ member))⟩
      · by_cases space : byte = 0x40
        · exact .inr space
        · exact .inl (orderHandlers_graphic here space
            (fun field => clean (field ▸ List.mem_cons_self)))
      · intro _
        rw [encodeItems_data, List.append_nil]
        intro control
        have later := graphic 0x01
          (List.mem_cons_of_mem _ (List.mem_of_mem_head? control))
        exact absurd later (by decide)

/-- Text of graphic bytes that fits on the screen is shown as it is exactly when
it does not hold `0x88`. -/
theorem parse_shows_iff {parser : DataStreamParser} (valid : parser.screen.Valid)
    (wcc : UInt8) {text : List UInt8} (graphic : ∀ byte ∈ text, 0x40 ≤ byte)
    (fits : text.length ≤ parser.screen.rows * parser.screen.cols) :
    Shows text (finalState (parse (0xF5 :: wcc :: text) 0x00 parser)).screen ↔
      0x88 ∉ text := by
  have kept := (parse_valid valid (0xF5 :: wcc :: text) 0x00).2
  rw [parse_tn3270] at kept ⊢
  generalize decide (bulkThreshold < (0xF5 :: wcc :: text).length) = bulkMode at *
  have reader : Graphic
      (startWrite wcc (prepare bulkMode (0xF5 :: wcc :: text) parser)) :=
    ⟨Nat.le_refl 2, graphic⟩
  have before := startWrite_before valid bulkMode 0xF5 wcc text
  have record := parseRecord_write (rfl : (isWriteCommand 0xF5 ||
    isEraseWriteCommand 0xF5) = true) (rfl : (prepare bulkMode
      (0xF5 :: wcc :: text) parser).data = _) rfl
  have erased : Erased parser.screen
      (startWrite wcc (prepare bulkMode (0xF5 :: wcc :: text) parser)).screen :=
    (erased_prepareScreen bulkMode (0xF5 :: wcc :: text) parser.screen).applyWcc wcc
  generalize startWrite wcc (prepare bulkMode (0xF5 :: wcc :: text) parser) =
    started at before record erased reader
  constructor
  · intro shown member
    have onText : OnText started := by
      refine ⟨before.valid, before.positioned, reader, ?_⟩
      rw [erased.buffer]
      intro blank
      exact absurd (List.eq_of_mem_replicate blank) (by decide)
    obtain ⟨after, looped, clean⟩ := parseLoop_onText onText
      (some (prepare bulkMode (0xF5 :: wcc :: text) parser).screen.snapshot)
    rw [record, run_tryCatch_ok looped] at shown
    obtain ⟨index, inside, field⟩ := List.getElem_of_mem member
    have cell := shown.stored index inside
    rw [field, finalState_mapState, resume_buffer] at cell
    exact clean (List.mem_of_getElem? cell)
  · intro clean
    have items : Before (encodeItems (text.map Item.data)) started := by
      rw [encodeItems_data]
      exact before
    obtain ⟨after, looped, screen⟩ := parseLoop_items items
      (framed_text graphic clean)
      (some (prepare bulkMode (0xF5 :: wcc :: text) parser).screen.snapshot)
    have sameSize : started.screen.size = parser.screen.size := by
      unfold ScreenBuffer.size
      rw [erased.rows, erased.cols]
    have notNull : ∀ byte ∈ text, byte ≠ 0x00 := by
      rintro byte member rfl
      exact absurd (graphic 0x00 member) (by decide)
    obtain ⟨buffer, fieldState⟩ := ScreenBuffer.storeText_spec before.valid notNull
      (by rwa [erased.cursorAddress, sameSize, Nat.zero_add])
    rw [← afterItems_data, ← screen] at buffer fieldState
    rw [erased.cursorAddress, erased.buffer] at buffer
    simp only [List.take_zero, List.nil_append, Nat.zero_add,
      List.drop_replicate] at buffer
    rw [record, run_tryCatch_ok looped, finalState_mapState] at kept ⊢
    have noFields := resume_noFields bulkMode (fieldState.trans erased.fieldState)
    refine ⟨fun index inside => ?_, fun index past inside => ?_,
      congrArg Prod.fst noFields, congrArg Prod.snd noFields⟩
    · rw [resume_buffer, finalState_ok, buffer, List.getElem?_append_left inside]
      exact List.getElem?_eq_getElem inside
    · have within : index - text.length < parser.screen.size - text.length := by
        unfold ScreenBuffer.size at inside
        rw [kept.2.1, kept.2.2] at inside
        unfold ScreenBuffer.size
        omega
      rw [resume_buffer, finalState_ok, buffer, List.getElem?_append_right past,
        List.getElem?_replicate, if_pos within]

/-- Four letters on a screen of six cells. -/
theorem parse_shows_small :
    Shows [0xC1, 0xC2, 0x40, 0xC3]
      (finalState (parse [0xF5, 0xC3, 0xC1, 0xC2, 0x40, 0xC3] 0x00
        (smallParser 1 2))).screen :=
  (parse_shows_iff (smallParser_valid 1 2) 0xC3 (by decide +kernel) (by decide)).mpr
    (by decide)

/-- The letter `0x88` and the text after it are taken for a structured field. -/
theorem not_shows_structuredField :
    ¬ Shows [0x88, 0x81, 0x82]
      (finalState (parse [0xF5, 0xC3, 0x88, 0x81, 0x82] 0x00
        (smallParser 0 0))).screen :=
  fun shown => absurd (shown.stored 0 (by decide)) (by decide +kernel)

end DataStreamParser

end Pure3270
