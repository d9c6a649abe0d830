import Pure3270.Protocol.CurrentFields
import Pure3270.Protocol.FieldBlindness
import Pure3270.Protocol.OrderFraming

/-!
# Bulk mode and plain mode

A long record is parsed with field detection suspended and detects once at its
end; a short one detects after every attribute.  The two runs keep step as
long as EUA, IC and PT find the same in the field lists of both.  What they
leave then differs in the field list alone, and only if the plain run ends
with a list that detection would replace.
-/

namespace Pure3270

open Foundations

namespace DataStreamParser

variable {suspended : Nat}

/-- The order the reader stands on finds the same in the field lists of both
parsers. -/
structure LooksAlike (left right : DataStreamParser) : Prop where
  insertCursor : left.data[left.parserPos]? = some 0x13 →
    (left.screen.firstInputField.map fun field => field.start) =
      right.screen.firstInputField.map fun field => field.start
  programTab : left.data[left.parserPos]? = some 0x05 →
    left.screen.nextInputPosition = right.screen.nextInputPosition
  eraseUnprotected : ∀ {high low target},
    left.data[left.parserPos]? = some 0x12 →
    left.data[left.parserPos + 1]? = some high →
    left.data[left.parserPos + 2]? = some low →
    left.screen.targetOf (decodeAddress left.addressingMode high low)
      left.addressingMode = some target →
    ScreenBuffer.ErasesAlike (left.screen.cellsUpTo target)
      left.screen.getPosition left.screen right.screen

theorem readByte_ok {parser after : DataStreamParser} {byte : UInt8}
    (read : readByte parser = .ok byte after) :
    parser.data[parser.parserPos]? = some byte ∧
      after = { parser with
        parserPos := parser.parserPos + 1
        pos := parser.parserPos + 1 } := by
  unfold readByte at read
  rw [run_get_bind] at read
  by_cases past : parser.data.length ≤ parser.pos
  · rw [if_pos past] at read
    cases read
  · rw [if_neg past] at read
    cases here : parser.data[parser.parserPos]? with
    | none =>
        rw [here] at read
        cases read
    | some found =>
        rw [here] at read
        cases read
        exact ⟨rfl, rfl⟩

theorem readAddress_ok {parser after : DataStreamParser} {address : Nat}
    (read : readAddress parser = .ok address after) :
    ∃ high low, parser.data[parser.parserPos]? = some high ∧
      parser.data[parser.parserPos + 1]? = some low ∧
      address = decodeAddress parser.addressingMode high low ∧
      after.screen = parser.screen := by
  unfold readAddress at read
  cases first : readByte parser with
  | error failure middle =>
      rw [run_bind_error first] at read
      cases read
  | ok high middle =>
      rw [run_bind_ok first] at read
      obtain ⟨highHere, rfl⟩ := readByte_ok first
      cases second : readByte { parser with
          parserPos := parser.parserPos + 1
          pos := parser.parserPos + 1 } with
      | error failure last =>
          rw [run_bind_error second] at read
          cases read
      | ok low last =>
          rw [run_bind_ok second] at read
          obtain ⟨lowHere, rfl⟩ := readByte_ok second
          cases read
          exact ⟨high, low, highHere, lowHere, rfl, rfl⟩

private theorem validateMinData_ok {operation : String} {minBytes : Nat}
    {parser after : DataStreamParser}
    (validated : validateMinData operation minBytes parser = .ok () after) :
    after = parser := by
  unfold validateMinData at validated
  rw [run_get_bind] at validated
  split at validated
  · cases validated
  · cases validated
    rfl

theorem handleEua_lockstep {parser : DataStreamParser} {lists : FieldLists}
    (alike : ∀ {high low target},
      parser.data[parser.parserPos]? = some high →
      parser.data[parser.parserPos + 1]? = some low →
      parser.screen.targetOf (decodeAddress parser.addressingMode high low)
        parser.addressingMode = some target →
      ScreenBuffer.ErasesAlike (parser.screen.cellsUpTo target)
        parser.screen.getPosition parser.screen
        (parser.screen.withLists suspended lists)) :
    LockstepAt (Twins suspended) handleEua handleEua parser
      (parser.withLists suspended lists) := by
  refine (RunsAlike.blind (validateMinData_alike "EUA" 2) ⟨lists, rfl⟩).bind
    fun _ before twin validated validated' _ => ?_
  cases validateMinData_ok validated
  cases validateMinData_ok validated'
  apply LockstepAt.getBind
  refine (RunsAlike.blind readAddress_alike ⟨lists, rfl⟩).bind
    fun address after twin read read' kept => ?_
  obtain ⟨high, low, highHere, lowHere, rfl, screen⟩ := readAddress_ok read
  obtain ⟨_, _, _, _, _, screen'⟩ := readAddress_ok read'
  have sameTarget : (parser.withLists suspended lists).screen.targetOf
      (decodeAddress parser.addressingMode high low)
      (parser.withLists suspended lists).addressingMode =
    parser.screen.targetOf (decodeAddress parser.addressingMode high low)
      parser.addressingMode := rfl
  simp only [sameTarget]
  cases found : parser.screen.targetOf
      (decodeAddress parser.addressingMode high low) parser.addressingMode with
  | none => exact .pure kept ()
  | some target =>
      obtain ⟨lists', rfl⟩ := kept
      obtain ⟨lists'', erased⟩ := ScreenBuffer.eraseUnprotected_lists
        (alike highHere lowHere found)
      refine LockstepAt.bind (.modify ⟨lists'', ?_⟩) fun _ _ _ _ _ moved =>
        RunsAlike.blind (setPosition_alike _ _) moved
      have sameErasure : (after.withLists suspended lists').screen.eraseUnprotected
          (parser.screen.cellsUpTo target) parser.screen.getPosition =
        (after.screen.eraseUnprotected (parser.screen.cellsUpTo target)
          parser.screen.getPosition).withLists suspended lists'' := by
        rw [screen', screen]
        exact erased
      show { after with
        screen := (after.withLists suspended lists').screen.eraseUnprotected
          (parser.screen.cellsUpTo target) parser.screen.getPosition } = _
      rw [sameErasure]
      rfl

theorem handleIc_lockstep {left right : DataStreamParser}
    (twins : Twins suspended left right)
    (alike : (left.screen.firstInputField.map fun field => field.start) =
      right.screen.firstInputField.map fun field => field.start) :
    LockstepAt (Twins suspended) handleIc handleIc left right := by
  obtain ⟨lists, rfl⟩ := twins
  have moved : ∀ screen : ScreenBuffer, screen.moveCursorToFirstInputField =
      (screen.firstInputField.map fun field => field.start).elim screen
        fun position => screen.moveCursorTo position := by
    intro screen
    unfold ScreenBuffer.moveCursorToFirstInputField
    cases screen.firstInputField with
    | none => rfl
    | some field => rfl
  refine .modify ⟨lists, ?_⟩
  simp only [moved, ← alike]
  cases left.screen.firstInputField.map fun field => field.start with
  | none => rfl
  | some position => rfl

theorem handlePt_lockstep {left right : DataStreamParser}
    (twins : Twins suspended left right)
    (alike : left.screen.nextInputPosition = right.screen.nextInputPosition) :
    LockstepAt (Twins suspended) handlePt handlePt left right := by
  obtain ⟨lists, rfl⟩ := twins
  refine .modify ⟨lists, ?_⟩
  simp only [ScreenBuffer.programTab, ScreenBuffer.moveCursorToNextInputField, ← alike]
  cases left.screen.nextInputPosition with
  | none => rfl
  | some position => rfl

theorem processByte_lockstep {left right : DataStreamParser}
    (twins : Twins suspended left right) (alike : LooksAlike left right) :
    LockstepAt (Twins suspended) processByte processByte left right := by
  obtain ⟨lists, rfl⟩ := twins
  cases here : left.data[left.parserPos]? with
  | none =>
      refine (RunsAlike.blind parserReadByte_alike ⟨lists, rfl⟩).bind
        fun byte after _ read _ _ => ?_
      have beyond : parserReadByte left =
          .error (.parseError "Unexpected end of data stream") left := by
        unfold parserReadByte
        rw [run_get_bind, here]
        rfl
      rw [beyond] at read
      cases read
  | some byte =>
      have there : (left.withLists suspended lists).data[
          (left.withLists suspended lists).parserPos]? = some byte := here
      unfold LockstepAt
      rw [processByte_run here, processByte_run there]
      have twins : Twins suspended { left with parserPos := left.parserPos + 1 }
          { left.withLists suspended lists with
            parserPos := (left.withLists suspended lists).parserPos + 1 } :=
        ⟨lists, rfl⟩
      by_cases looks : looksUp byte = true
      · have cases : byte = 0x12 ∨ byte = 0x13 ∨ byte = 0x05 := by
          simpa [looksUp] using looks
        rcases cases with rfl | rfl | rfl
        · refine LockstepAt.bind (@handleEua_lockstep _ _ lists ?_)
            fun _ _ _ _ _ kept => RunsAlike.blind mirrorPos_alike kept
          exact fun high low target => alike.eraseUnprotected here high low target
        · exact LockstepAt.bind (handleIc_lockstep twins (alike.insertCursor here))
            fun _ _ _ _ _ kept => RunsAlike.blind mirrorPos_alike kept
        · exact LockstepAt.bind (handlePt_lockstep twins (alike.programTab here))
            fun _ _ _ _ _ kept => RunsAlike.blind mirrorPos_alike kept
      · exact RunsAlike.blind (dispatch_alike (by simpa using looks)) twins

theorem parseLoop_lockstep {snapshot : Option ScreenSnapshot}
    {left right : DataStreamParser} (twins : Twins suspended left right)
    (alike : Throughout LooksAlike (parseRound snapshot) (parseRound snapshot)
      left right) :
    LockstepAt (Twins suspended) (parseLoop snapshot) (parseLoop snapshot)
      left right :=
  lockstepAt_twins.mpr (parseLoop_alike
    (fun kept looks => lockstepAt_twins.mp
      (processByte_lockstep (twins_iff_alike.mpr kept) looks))
    (twins_iff_alike.mp twins) alike)

/-- What a record with a write command keeps for a rollback. -/
def recordSnapshot (parser : DataStreamParser) : Option ScreenSnapshot :=
  match parser.data with
  | command :: _ =>
      if isWriteCommand command || isEraseWriteCommand command then
        some parser.screen.snapshot
      else none
  | [] => none

/-- The parser when the order loop of a record begins. -/
def loopStart (parser : DataStreamParser) : DataStreamParser :=
  match parser.data with
  | command :: wcc :: _ =>
      if isWriteCommand command || isEraseWriteCommand command then
        startWrite wcc parser
      else afterWcc command 1 parser
  | _ => parser

theorem parseRecord_loop {parser : DataStreamParser} (fresh : parser.parserPos = 0)
    (long : 2 ≤ parser.data.length) :
    parseRecord parser =
      tryCatch (parseLoop (recordSnapshot parser))
        (handleParseError (recordSnapshot parser)) (loopStart parser) := by
  obtain ⟨command, wcc, rest, data⟩ : ∃ command wcc rest,
      parser.data = command :: wcc :: rest := by
    match data : parser.data with
    | [] => simp [data] at long
    | [_] => simp [data] at long
    | command :: wcc :: rest => exact ⟨command, wcc, rest, rfl⟩
  unfold recordSnapshot loopStart
  simp only [data]
  by_cases write : (isWriteCommand command || isEraseWriteCommand command) = true
  · rw [if_pos write, if_pos write]
    exact parseRecord_write write data fresh
  · rw [if_neg write, if_neg write]
    exact parseRecord_plain (by simpa using write) data fresh

private theorem afterWcc_twins (wcc : UInt8) (read : Nat)
    {left right : DataStreamParser} (twins : Twins suspended left right) :
    Twins suspended (afterWcc wcc read left) (afterWcc wcc read right) := by
  obtain ⟨lists, rfl⟩ := twins
  refine ⟨lists, ?_⟩
  unfold afterWcc ScreenBuffer.applyWcc
  split
  · rfl
  · rfl

private theorem erased_twins (data : List UInt8) {left right : DataStreamParser}
    (twins : Twins suspended left right) :
    Twins suspended { left with screen := left.screen.erased data }
      { right with screen := right.screen.erased data } := by
  obtain ⟨lists, rfl⟩ := twins
  unfold ScreenBuffer.erased
  split
  · exact ⟨⟨_, _, _, _⟩, rfl⟩
  · exact ⟨⟨_, _, _, _⟩, rfl⟩

theorem loopStart_twins {left right : DataStreamParser}
    (twins : Twins suspended left right) :
    Twins suspended (loopStart left) (loopStart right) := by
  unfold loopStart
  rw [twins.same.1]
  split
  · rename_i command wcc rest data
    split
    · obtain ⟨lists, rfl⟩ := twins
      exact afterWcc_twins wcc 2 (erased_twins left.data ⟨lists, rfl⟩)
    · exact afterWcc_twins command 1 twins
  · exact twins

/-- `parse` of 3270 data the way it runs for a short record. -/
def parsePlain (data : List UInt8) : ParserM ParseExit := do
  modify fun parser => { parser with data, parserPos := 0, pos := 0 }
  parseTn3270 false

theorem parsePlain_run (data : List UInt8) (parser : DataStreamParser) :
    parsePlain data parser = parseRecord (prepare false data parser) := by
  show parseTn3270 false { parser with data, parserPos := 0, pos := 0 } = _
  rw [parseTn3270_run]
  cases parseRecord (prepare false data parser) with
  | ok exit after => rfl
  | error fault after => rfl

/-- Every short record takes this way. -/
theorem parse_short {data : List UInt8} (short : data.length ≤ bulkThreshold)
    (parser : DataStreamParser) : parse data 0x00 parser = parsePlain data parser := by
  have plain : decide (bulkThreshold < data.length) = false :=
    decide_eq_false (Nat.not_lt.mpr short)
  rw [parse_tn3270, plain, ← parseTn3270_run]
  rfl

/-- In the two runs of a record, EUA, IC and PT find the same in the field
lists. -/
def LooksAlikeThroughout (data : List UInt8) (parser : DataStreamParser) : Prop :=
  let left := prepare false data parser
  let right := prepare true data parser
  Throughout LooksAlike (parseRound (recordSnapshot left))
    (parseRound (recordSnapshot right)) (loopStart left) (loopStart right)

end DataStreamParser

/-- The screens hold the same characters, attributes, fields and cursor. -/
structure ModesAgree (first second : ScreenBuffer) : Prop where
  buffer : first.buffer = second.buffer
  attributes : first.attributes = second.attributes
  fieldStarts : first.fieldStarts = second.fieldStarts
  fields : first.fields = second.fields
  cursor : first.getPosition = second.getPosition

theorem modesAgree_detectFields_iff (suspended : Nat) (lists : FieldLists)
    (screen : ScreenBuffer) :
    ModesAgree (screen.withLists suspended lists).detectFields screen ↔
      screen.FieldsCurrent := by
  constructor
  · intro agree
    exact agree.fields.symm
  · intro current
    exact ⟨rfl, rfl, rfl, current.symm, rfl⟩

namespace DataStreamParser

/-- Up to the last detection of the long run the two runs differ in their
field lists alone. -/
theorem parseRecord_twins {data : List UInt8} {parser : DataStreamParser}
    (long : bulkThreshold < data.length) (alike : LooksAlikeThroughout data parser) :
    SameExit (Twins (parser.screen.suspendFieldDetection + 1))
      (parseRecord (prepare false data parser))
      (parseRecord (prepare true data parser)) := by
  have twins : Twins (parser.screen.suspendFieldDetection + 1)
      (prepare false data parser) (prepare true data parser) :=
    ⟨parser.screen.fieldLists, rfl⟩
  have enough : 2 ≤ data.length := by
    unfold bulkThreshold at long
    omega
  rw [parseRecord_loop rfl enough, parseRecord_loop rfl enough]
  refine LockstepAt.tryCatch ?_ fun fault _ _ kept =>
    RunsAlike.blind (handleParseError_alike _ fault) kept
  exact parseLoop_lockstep (loopStart_twins twins) alike

theorem parse_bulk_screen {data : List UInt8} {parser : DataStreamParser}
    (resumed : parser.screen.suspendFieldDetection = 0)
    (long : bulkThreshold < data.length) (alike : LooksAlikeThroughout data parser) :
    ∃ lists, (finalState (parse data 0x00 parser)).screen =
      ((finalState (parsePlain data parser)).screen.withLists 0 lists).detectFields := by
  obtain ⟨lists, same⟩ := (parseRecord_twins long alike).finalState
  have bulk : decide (bulkThreshold < data.length) = true := decide_eq_true long
  rw [parse_tn3270, bulk, finalState_mapState, parsePlain_run, same, resumed]
  exact ⟨lists, rfl⟩

theorem parseRound_data {snapshot : Option ScreenSnapshot}
    {before after : DataStreamParser}
    (round : parseRound snapshot before = .ok none after) :
    after.data = before.data := by
  have moved := (processByte_steps before).readerProgress.data
  rw [parseRound_run] at round
  split at round
  · split at round
    · rename_i outcome
      cases round
      rwa [outcome] at moved
    · rename_i outcome
      rw [outcome] at moved
      rw [handleOrderError_none round]
      exact moved
  · cases round

theorem loopStart_data (parser : DataStreamParser) :
    (loopStart parser).data = parser.data := by
  unfold loopStart
  split
  · split
    · rfl
    · rfl
  · rfl

theorem looksAlike_of_noLookups {data : List UInt8}
    (none : ∀ byte ∈ data, looksUp byte = false) (parser : DataStreamParser) :
    LooksAlikeThroughout data parser := by
  intro count left right rounds _
  have sameData : left.data = data :=
    afterRounds_invariant (fun holds round => (parseRound_data round).trans holds)
      (loopStart_data _) rounds
  have absent : ∀ {byte}, left.data[left.parserPos]? = some byte →
      looksUp byte = false := by
    intro byte here
    rw [sameData] at here
    exact none byte (List.mem_of_getElem? here)
  exact
    { insertCursor := fun here => absurd (absent here) (by decide)
      programTab := fun here => absurd (absent here) (by decide)
      eraseUnprotected := fun here => absurd (absent here) (by decide) }

/-- Items followed by nulls. -/
def padded (items : List Item) (count : Nat) : List UInt8 :=
  0xF5 :: 0xC3 :: encodeItems (items ++ List.replicate count (.data 0x00))

theorem padded_eq (items : List Item) (count : Nat) :
    padded items count =
      0xF5 :: 0xC3 :: (encodeItems items ++ List.replicate count 0x00) := by
  have nulls : encodeItems (List.replicate count (.data 0x00)) =
      List.replicate count 0x00 := by
    induction count with
    | zero => rfl
    | succ count ih => exact congrArg (0x00 :: ·) ih
  unfold padded
  rw [← nulls]
  unfold encodeItems
  rw [List.flatMap_append]

theorem padded_length (items : List Item) (count : Nat) :
    (padded items count).length = (encodeItems items).length + count + 2 := by
  rw [padded_eq]
  simp

theorem padded_noLookups {items : List Item}
    (none : ∀ byte ∈ encodeItems items, looksUp byte = false) (count : Nat) :
    ∀ byte ∈ padded items count, looksUp byte = false := by
  intro byte member
  rw [padded_eq, List.mem_cons, List.mem_cons, List.mem_append] at member
  rcases member with rfl | rfl | item | null
  · rfl
  · rfl
  · exact none byte item
  · rw [List.eq_of_mem_replicate null]
    rfl

theorem afterItems_nulls (count : Nat) (parser : DataStreamParser) :
    (afterItems (List.replicate count (.data 0x00)) parser).screen =
      parser.screen := by
  induction count generalizing parser with
  | zero => rfl
  | succ count ih => exact ih ((Item.data 0x00).after parser)

theorem framed_nulls (count : Nat) :
    Framed (List.replicate count (.data 0x00)) [] := by
  induction count with
  | zero => trivial
  | succ count ih => exact ⟨.inl rfl, nofun, ih⟩

/-- Nulls at the end of a record leave the screen alone. -/
theorem parsePlain_padded {parser : DataStreamParser} (valid : parser.screen.Valid)
    {items : List Item} {count : Nat}
    (framed : Framed (items ++ List.replicate count (.data 0x00)) []) :
    (finalState (parsePlain (padded items count) parser)).screen =
      (afterItems items
        (startWrite 0xC3 (prepare false (padded items count) parser))).screen := by
  have before : Before (encodeItems (items ++ List.replicate count (.data 0x00)))
      (startWrite 0xC3 (prepare false (padded items count) parser)) :=
    startWrite_before valid false 0xF5 0xC3 _
  have record := parseRecord_write (rfl : (isWriteCommand 0xF5 ||
    isEraseWriteCommand 0xF5) = true) (rfl : (prepare false
      (padded items count) parser).data = _) rfl
  obtain ⟨after, looped, screen⟩ := parseLoop_items before framed
    (some (prepare false (padded items count) parser).screen.snapshot)
  rw [parsePlain_run, record, run_tryCatch_ok looped]
  refine screen.trans ?_
  unfold afterItems
  rw [List.foldl_append]
  exact afterItems_nulls count _

end DataStreamParser

end Pure3270
