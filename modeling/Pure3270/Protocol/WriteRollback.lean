import Pure3270.Protocol.OrderFraming

/-!
# Rollback of a write

A write that meets an incomplete SBA, SA or EUA order, or an erase/write
without its control character, brings back the snapshot that was taken when
the record began.  By then the parser has already switched the screen to
EBCDIC and moved the cursor home, and the snapshot holds neither the keyboard
lock nor the fields.
-/

namespace Pure3270

open Foundations

namespace ScreenBuffer

theorem createFieldFromRange_congr {left right : ScreenBuffer}
    (cols : left.cols = right.cols) (buffer : left.buffer = right.buffer)
    (attributes : left.attributes = right.attributes)
    (extended : left.extendedAttributes = right.extendedAttributes)
    (startIdx endIdx : Nat) :
    left.createFieldFromRange startIdx endIdx =
      right.createFieldFromRange startIdx endIdx := by
  unfold createFieldFromRange calculateCoords
  rw [cols, buffer, attributes, extended]

/-- The fields detection finds depend on the size, the arrays and the starts. -/
theorem detectedFields_congr {left right : ScreenBuffer}
    (rows : left.rows = right.rows) (cols : left.cols = right.cols)
    (buffer : left.buffer = right.buffer)
    (attributes : left.attributes = right.attributes)
    (extended : left.extendedAttributes = right.extendedAttributes)
    (starts : left.fieldStarts = right.fieldStarts) :
    left.detectedFields = right.detectedFields := by
  unfold detectedFields size
  rw [rows, cols, starts]
  congr 1
  funext range
  exact createFieldFromRange_congr cols buffer attributes extended range.1 range.2

/-- The attribute sets a rollback brings back. -/
def reloadExtended (saved : ScreenBuffer) :
    Nat × Nat → Option ExtendedAttributeSet :=
  fun key =>
    (saved.snapshot.extended key).map fun data =>
      (ExtendedAttributeSet.fromDict data).getD ExtendedAttributeSet.empty

theorem reloadExtended_none {saved : ScreenBuffer} {key : Nat × Nat}
    (absent : saved.extendedAttributes key = none) :
    saved.reloadExtended key = none := by
  simp [reloadExtended, snapshot, absent]

theorem reloadExtended_some {saved : ScreenBuffer} {key : Nat × Nat}
    {set : ExtendedAttributeSet}
    (present : saved.extendedAttributes key = some set) :
    saved.reloadExtended key =
      some (if set.allWrapped then set else ExtendedAttributeSet.empty) := by
  have loaded : saved.reloadExtended key =
      some ((ExtendedAttributeSet.fromDict (set.toDict.getD fun _ => none)).getD
        ExtendedAttributeSet.empty) := by
    simp [reloadExtended, snapshot, present]
  rw [loaded]
  cases wrapped : set.allWrapped with
  | true =>
      have trip := ExtendedAttributeSet.fromDict_toDict wrapped
      cases dict : set.toDict with
      | none =>
          rw [dict] at trip
          cases trip
      | some data =>
          rw [dict, Option.bind_some] at trip
          simp [trip]
  | false =>
      rw [ExtendedAttributeSet.toDict_eq_none wrapped]
      congr 1

theorem reloadExtended_eq_iff (saved : ScreenBuffer) :
    saved.reloadExtended = saved.extendedAttributes ↔
      ∀ key set, saved.extendedAttributes key = some set →
        set.allWrapped = true := by
  constructor
  · intro same key set present
    have here := congrFun same key
    rw [reloadExtended_some present, present, Option.some_inj] at here
    by_contra raw
    rw [if_neg raw] at here
    rw [← here, ExtendedAttributeSet.empty_allWrapped] at raw
    exact raw rfl
  · intro wrapped
    funext key
    cases present : saved.extendedAttributes key with
    | none => exact reloadExtended_none present
    | some set =>
        rw [reloadExtended_some present, if_pos (wrapped key set present)]

end ScreenBuffer

/-- What neither an order nor a rollback changes. -/
structure SameShell (before after : ScreenBuffer) : Prop where
  rows : after.rows = before.rows
  cols : after.cols = before.cols
  keyboardLocked : after.keyboardLocked = before.keyboardLocked

instance : IsPreorder ScreenBuffer SameShell where
  refl _ := ⟨rfl, rfl, rfl⟩
  trans _ _ _ left right :=
    ⟨right.rows.trans left.rows, right.cols.trans left.cols,
      right.keyboardLocked.trans left.keyboardLocked⟩

theorem SameFrame.shell {before after : ScreenBuffer}
    (frame : SameFrame before after) : SameShell before after :=
  ⟨frame.rows, frame.cols, frame.keyboardLocked⟩

namespace DataStreamParser

/-- The shell of the screen is kept. -/
def KeepsShell (before after : DataStreamParser) : Prop :=
  SameShell before.screen after.screen

instance : IsPreorder DataStreamParser KeepsShell where
  refl parser := refl_of SameShell parser.screen
  trans _ _ _ left right := trans_of SameShell left right

theorem processByte_shell : Within KeepsShell processByte :=
  fun parser => (HandlerSteps.frame (processByte_steps parser)).shell

theorem restored_shell (snapshot : Option ScreenSnapshot) (errMsg : String)
    (parser : DataStreamParser) :
    KeepsShell parser (restored snapshot errMsg parser) := by
  cases snapshot with
  | none => exact refl_of KeepsShell parser
  | some snapshot =>
      unfold restored
      simp only
      split
      · exact ⟨rfl, rfl, rfl⟩
      · exact refl_of KeepsShell parser

theorem handleOrderError_shell (snapshot : Option ScreenSnapshot)
    (fault : Fault) : Within KeepsShell (handleOrderError snapshot fault) := by
  intro parser
  cases fault with
  | other text => exact refl_of KeepsShell parser
  | parseError errMsg =>
      have back := restored_shell snapshot errMsg parser
      unfold WithinAt
      rw [handleOrderError_run]
      split
      · exact back
      · split
        · exact back
        · exact refl_of KeepsShell parser

theorem parseRound_shell (snapshot : Option ScreenSnapshot) :
    Within KeepsShell (parseRound snapshot) := by
  intro parser
  apply WithinAt.getBind
  apply WithinAt.ite
  · intro _
    exact WithinAt.pure _
  · intro _
    exact Within.tryCatch
      (Within.bind processByte_shell fun _ _ => WithinAt.pure _)
      (handleOrderError_shell snapshot) parser

theorem occursIn_trans {inner part text : String}
    (first : occursIn inner part = true) (second : occursIn part text = true) :
    occursIn inner text = true := by
  simp only [occursIn, decide_eq_true_eq] at *
  exact first.trans second

theorem incomplete_of_rollbackOnly {errMsg : String}
    (rollback : isRollbackOnlyError errMsg = true) :
    occursIn "Incomplete" errMsg = true := by
  obtain ⟨part, member, occurs⟩ := List.any_eq_true.mp rollback
  refine occursIn_trans ?_ occurs
  simp only [List.mem_cons, List.not_mem_nil, or_false] at member
  rcases member with rfl | rfl | rfl <;> decide

theorem parseRound_rolledBack {snapshot : ScreenSnapshot}
    {parser after : DataStreamParser}
    (round : parseRound (some snapshot) parser = .ok (some .rolledBack) after) :
    ∃ screen, SameShell parser.screen screen ∧
      after.screen = screen.restore snapshot := by
  rw [parseRound_run] at round
  split at round
  · split at round
    · cases round
    · rename_i fault middle raised
      have shell : KeepsShell parser _ := processByte_shell parser
      rw [raised] at shell
      refine ⟨middle.screen, shell, ?_⟩
      cases fault with
      | other text => cases round
      | parseError errMsg =>
          rw [handleOrderError_run] at round
          split at round
          · cases round
          · split at round
            · rename_i rollback
              have incomplete := incomplete_of_rollbackOnly rollback
              cases round
              simp [ended, restored, incomplete]
            · cases round
  · cases round

theorem parseLoop_rolledBack {snapshot : ScreenSnapshot}
    {parser after : DataStreamParser}
    (left : parseLoop (some snapshot) parser = .ok .rolledBack after) :
    ∃ screen, SameShell parser.screen screen ∧
      after.screen = screen.restore snapshot := by
  rw [parseLoop_run] at left
  split at left
  · cases left
  · rename_i loopAfter looped
    cases left
    have step : ∀ {before after : DataStreamParser},
        parseRound (some snapshot) before = .ok none after →
          KeepsShell before after := by
      intro before after round
      have shell : KeepsShell before _ := parseRound_shell (some snapshot) before
      rw [round] at shell
      exact shell
    obtain ⟨last, reached, round⟩ := iterate_exit step looped (by simp)
    obtain ⟨screen, shell, restoredTo⟩ := parseRound_rolledBack round
    exact ⟨screen, trans_of SameShell reached shell, restoredTo⟩
  · cases left
  · cases left

theorem parseLoop_shell (snapshot : Option ScreenSnapshot) :
    Within KeepsShell (parseLoop snapshot) := by
  intro parser
  have looped : KeepsShell parser _ :=
    Within.iterate (parseRound_shell snapshot) (roundLimit parser.data.length) parser
  unfold WithinAt
  rw [parseLoop_run]
  split <;> simp_all [KeepsShell]

/-- How a parse ends that aborts its write: it returns after the rollback of an
incomplete order, or it raises for a missing write control character. -/
inductive Aborted : EStateM.Result Fault DataStreamParser ParseExit → Prop where
  | rolledBack (after : DataStreamParser) : Aborted (.ok .rolledBack after)
  | missingWcc (after : DataStreamParser) :
      Aborted (.error (.parseError "Incomplete WCC order") after)

theorem aborted_error_iff {fault : Fault} {after : DataStreamParser} :
    Aborted (.error fault after) ↔ fault = .parseError "Incomplete WCC order" := by
  constructor
  · rintro ⟨⟩
    rfl
  · rintro rfl
    exact .missingWcc after

theorem aborted_ok_iff {exit : ParseExit} {after : DataStreamParser} :
    Aborted (.ok exit after) ↔ exit = .rolledBack := by
  constructor
  · rintro ⟨⟩
    rfl
  · rintro rfl
    exact .rolledBack after

instance : DecidablePred Aborted
  | .ok _ _ => decidable_of_iff _ aborted_ok_iff.symm
  | .error _ _ => decidable_of_iff _ aborted_error_iff.symm

theorem aborted_of_mapState {f : DataStreamParser → DataStreamParser}
    {result : EStateM.Result Fault DataStreamParser ParseExit}
    (aborted : Aborted (mapState f result)) : Aborted result := by
  cases result with
  | ok exit after =>
      cases aborted
      exact .rolledBack after
  | error fault after =>
      cases aborted
      exact .missingWcc after

theorem handleParseError_aborted {snapshot : ScreenSnapshot} {fault : Fault}
    {parser : DataStreamParser}
    (aborted : Aborted (handleParseError (some snapshot) fault parser)) :
    (finalState (handleParseError (some snapshot) fault parser)).screen =
      parser.screen.restore snapshot := by
  cases fault with
  | other text =>
      exfalso
      generalize outcome :
        handleParseError (some snapshot) (.other text) parser = result at aborted
      cases aborted with
      | rolledBack after => cases outcome
      | missingWcc after =>
          have message : s!"Parsing failed: {text}" = "Incomplete WCC order" := by
            injection outcome with same
            injection same
          have first := congrArg (fun text => text.toList.head?) message
          simp [toString] at first
  | parseError errorMsg =>
      rw [handleParseError_run] at aborted ⊢
      split at aborted
      · rename_i critical
        generalize outcome : ended (restored (some snapshot) errorMsg parser) =
          after at aborted
        cases aborted
        rw [if_pos critical, ← outcome]
        rfl
      · cases aborted

/-- The keyboard lock after the write control character of a record. -/
def lockAfter (data : List UInt8) (locked : Bool) : Bool :=
  match data with
  | _ :: wcc :: _ => if wcc &&& 0x40 ≠ 0 then false else locked
  | _ => locked

theorem applyWcc_shell (wcc : UInt8) (screen : ScreenBuffer) :
    (screen.applyWcc wcc).rows = screen.rows ∧
      (screen.applyWcc wcc).cols = screen.cols ∧
      (screen.applyWcc wcc).keyboardLocked =
        if wcc &&& 0x40 ≠ 0 then false else screen.keyboardLocked := by
  unfold ScreenBuffer.applyWcc
  split <;> exact ⟨rfl, rfl, rfl⟩

theorem erased_shell (data : List UInt8) (screen : ScreenBuffer) :
    SameShell screen (screen.erased data) := by
  unfold ScreenBuffer.erased
  split <;> exact ⟨rfl, rfl, rfl⟩

theorem parseRecord_aborted {parser : DataStreamParser} {command : UInt8}
    {rest : List UInt8}
    (write : isWriteCommand command || isEraseWriteCommand command)
    (data : parser.data = command :: rest) (fresh : parser.parserPos = 0)
    (aborted : Aborted (parseRecord parser)) :
    ∃ screen : ScreenBuffer, screen.rows = parser.screen.rows ∧
      screen.cols = parser.screen.cols ∧
      screen.keyboardLocked =
        lockAfter parser.data parser.screen.keyboardLocked ∧
      (finalState (parseRecord parser)).screen =
        screen.restore parser.screen.snapshot := by
  have erasing := erased_shell parser.data parser.screen
  cases rest with
  | nil =>
      rw [parseRecord_missingWcc write data fresh] at aborted ⊢
      split at aborted
      · cases aborted
      · rename_i plain
        rw [if_neg plain]
        refine ⟨_, erasing.rows, erasing.cols, ?_, handleParseError_aborted aborted⟩
        rw [data] at erasing ⊢
        exact erasing.keyboardLocked
  | cons wcc rest =>
      rw [parseRecord_write write data fresh] at aborted ⊢
      have control := applyWcc_shell wcc (parser.screen.erased parser.data)
      have started : (startWrite wcc parser).screen.rows = parser.screen.rows ∧
          (startWrite wcc parser).screen.cols = parser.screen.cols ∧
          (startWrite wcc parser).screen.keyboardLocked =
            lockAfter parser.data parser.screen.keyboardLocked := by
        refine ⟨control.1.trans erasing.rows, control.2.1.trans erasing.cols, ?_⟩
        refine control.2.2.trans ?_
        rw [erasing.keyboardLocked, data]
        rfl
      cases looped : parseLoop (some parser.screen.snapshot) (startWrite wcc parser) with
      | ok exit after =>
          rw [run_tryCatch_ok looped] at aborted ⊢
          cases aborted
          obtain ⟨screen, shell, restoredTo⟩ := parseLoop_rolledBack looped
          exact ⟨screen, shell.rows.trans started.1, shell.cols.trans started.2.1,
            shell.keyboardLocked.trans started.2.2, restoredTo⟩
      | error fault after =>
          rw [run_tryCatch_error looped] at aborted ⊢
          have shell : KeepsShell (startWrite wcc parser) _ :=
            parseLoop_shell (some parser.screen.snapshot) (startWrite wcc parser)
          rw [looped] at shell
          exact ⟨after.screen, shell.rows.trans started.1,
            shell.cols.trans started.2.1, shell.keyboardLocked.trans started.2.2,
            handleParseError_aborted aborted⟩

end DataStreamParser

/-- What an aborted write leaves of a screen. -/
structure LeftByAbort (before : ScreenBuffer) (locked : Bool)
    (after : ScreenBuffer) : Prop where
  rows : after.rows = before.rows
  cols : after.cols = before.cols
  buffer : after.buffer = before.buffer
  attributes : after.attributes = before.attributes
  extended : after.extendedAttributes = before.reloadExtended
  fieldStarts : after.fieldStarts = before.fieldStarts
  fields : after.fields = after.detectedFields
  position : after.getPosition = (0, 0)
  asciiMode : after.asciiMode = false
  lightPen : after.lightPenSelectedPosition = before.lightPenSelectedPosition
  keyboardLocked : after.keyboardLocked = locked

namespace ScreenBuffer

theorem LeftByAbort.endBulkUpdate {before after : ScreenBuffer} {locked : Bool}
    (left : LeftByAbort before locked after) :
    LeftByAbort before locked after.endBulkUpdate := by
  unfold ScreenBuffer.endBulkUpdate
  simp only
  split
  · exact { left with fields := rfl }
  · exact { left with fields := left.fields }

theorem restore_leaves {before shell : ScreenBuffer} (valid : before.Valid)
    (bulkMode : Bool) (rows : shell.rows = before.rows)
    (cols : shell.cols = before.cols) :
    LeftByAbort before shell.keyboardLocked
      (shell.restore
        (DataStreamParser.prepareScreen bulkMode before).snapshot) := by
  have bytes := valid.buffer_length
  have attributeBytes := valid.attributes_length
  have positive := before.size_pos
  have buffer : before.buffer ≠ [] := by
    intro empty
    rw [empty] at bytes
    simp at bytes
    omega
  have attributes : before.attributes ≠ [] := by
    intro empty
    rw [empty] at attributeBytes
    simp at attributeBytes
    omega
  have snapshot : (DataStreamParser.prepareScreen bulkMode before).snapshot =
      { before.snapshot with cursor := (0, 0), asciiMode := false } := by
    cases bulkMode <;> simp [DataStreamParser.prepareScreen, ScreenBuffer.snapshot,
      setPosition, setAsciiMode, beginBulkUpdate, getPosition]
  rw [snapshot]
  exact {
    rows
    cols
    buffer := if_neg buffer
    attributes := if_neg attributes
    extended := rfl
    fieldStarts := rfl
    fields := rfl
    position := rfl
    asciiMode := rfl
    lightPen := rfl
    keyboardLocked := rfl }

end ScreenBuffer

namespace DataStreamParser

/-- An aborted write gives back the arrays and the field starts, reloads the
attribute sets and detects the fields again; the cursor is left at home, the
screen in EBCDIC mode and the lock as the control character has set it. -/
theorem parseRecord_leaves {parser : DataStreamParser} (valid : parser.screen.Valid)
    {command : UInt8} {rest : List UInt8} {bulkMode : Bool}
    (write : isWriteCommand command || isEraseWriteCommand command)
    (aborted : Aborted (parseRecord (prepare bulkMode (command :: rest) parser))) :
    LeftByAbort parser.screen
      (lockAfter (command :: rest) parser.screen.keyboardLocked)
      (finalState (parseRecord (prepare bulkMode (command :: rest) parser))).screen := by
  obtain ⟨shell, rows, cols, locked, restoredTo⟩ :=
    parseRecord_aborted write rfl rfl aborted
  have prepared : (prepare bulkMode (command :: rest) parser).screen =
      prepareScreen bulkMode parser.screen := rfl
  have same : (prepareScreen bulkMode parser.screen).rows = parser.screen.rows ∧
      (prepareScreen bulkMode parser.screen).cols = parser.screen.cols ∧
      (prepareScreen bulkMode parser.screen).keyboardLocked =
        parser.screen.keyboardLocked := by
    cases bulkMode <;> exact ⟨rfl, rfl, rfl⟩
  rw [prepared] at rows cols locked restoredTo
  have left := ScreenBuffer.restore_leaves valid bulkMode (rows.trans same.1)
    (cols.trans same.2.1)
  rwa [locked, same.2.2, ← restoredTo] at left

theorem parse_aborted {parser : DataStreamParser} (valid : parser.screen.Valid)
    {command : UInt8} {rest : List UInt8}
    (write : isWriteCommand command || isEraseWriteCommand command)
    (aborted : Aborted (parse (command :: rest) 0x00 parser)) :
    LeftByAbort parser.screen
      (lockAfter (command :: rest) parser.screen.keyboardLocked)
      (finalState (parse (command :: rest) 0x00 parser)).screen := by
  rw [parse_tn3270] at aborted ⊢
  have left := parseRecord_leaves valid write (aborted_of_mapState aborted)
  rw [finalState_mapState]
  unfold resume
  split
  · exact ScreenBuffer.LeftByAbort.endBulkUpdate left
  · exact left

end DataStreamParser

/-- The same screen, as far as a rollback is to bring it back. -/
structure SameScreen (before after : ScreenBuffer) : Prop where
  buffer : after.buffer = before.buffer
  attributes : after.attributes = before.attributes
  extended : after.extendedAttributes = before.extendedAttributes
  fieldStarts : after.fieldStarts = before.fieldStarts
  fields : after.fields = before.fields
  position : after.getPosition = before.getPosition
  asciiMode : after.asciiMode = before.asciiMode
  lightPen : after.lightPenSelectedPosition = before.lightPenSelectedPosition
  keyboardLocked : after.keyboardLocked = before.keyboardLocked

namespace DataStreamParser

theorem lockAfter_eq_iff (command : UInt8) (rest : List UInt8) (locked : Bool) :
    lockAfter (command :: rest) locked = locked ↔
      ∀ wcc, rest.head? = some wcc → wcc &&& 0x40 ≠ 0 → locked = false := by
  cases rest with
  | nil => simp [lockAfter]
  | cons wcc rest =>
      simp only [lockAfter, List.head?_cons, Option.some_inj, forall_eq']
      by_cases unlock : wcc &&& 0x40 ≠ 0
      · rw [if_pos unlock]
        constructor
        · intro same _
          exact same.symm
        · intro unlocked
          exact (unlocked unlock).symm
      · rw [if_neg unlock]
        simp [unlock]

/-- A rollback brings back the screen as it was before the parse exactly when
the screen was in EBCDIC mode with the cursor at home, its attribute sets held
attribute objects only, its fields were those that detection finds, and the
write control character did not release a locked keyboard. -/
theorem rollback_exact_iff {parser : DataStreamParser}
    (valid : parser.screen.Valid) {command : UInt8} {rest : List UInt8}
    (write : isWriteCommand command || isEraseWriteCommand command)
    (aborted : Aborted (parse (command :: rest) 0x00 parser)) :
    SameScreen parser.screen
        (finalState (parse (command :: rest) 0x00 parser)).screen ↔
      parser.screen.asciiMode = false ∧ parser.screen.getPosition = (0, 0) ∧
        (∀ key set, parser.screen.extendedAttributes key = some set →
          set.allWrapped = true) ∧
        parser.screen.fields = parser.screen.detectedFields ∧
        (∀ wcc, rest.head? = some wcc → wcc &&& 0x40 ≠ 0 →
          parser.screen.keyboardLocked = false) := by
  have left := parse_aborted valid write aborted
  generalize (finalState (parse (command :: rest) 0x00 parser)).screen =
    after at left
  rw [← lockAfter_eq_iff command rest, ← ScreenBuffer.reloadExtended_eq_iff]
  have detected : parser.screen.reloadExtended = parser.screen.extendedAttributes →
      after.fields = parser.screen.detectedFields := by
    intro reloaded
    rw [left.fields]
    exact ScreenBuffer.detectedFields_congr left.rows left.cols left.buffer
      left.attributes (left.extended.trans reloaded) left.fieldStarts
  constructor
  · intro same
    have reloaded := left.extended.symm.trans same.extended
    exact ⟨same.asciiMode.symm.trans left.asciiMode,
      same.position.symm.trans left.position, reloaded,
      same.fields.symm.trans (detected reloaded),
      left.keyboardLocked.symm.trans same.keyboardLocked⟩
  · rintro ⟨asciiMode, position, reloaded, fields, locked⟩
    exact {
      buffer := left.buffer
      attributes := left.attributes
      extended := left.extended.trans reloaded
      fieldStarts := left.fieldStarts
      fields := (detected reloaded).trans fields.symm
      position := left.position.trans position.symm
      asciiMode := left.asciiMode.trans asciiMode.symm
      lightPen := left.lightPen
      keyboardLocked := left.keyboardLocked.trans locked }

/-- A lone SA order after one byte of data, on a screen that can be brought
back. -/
theorem rollback_exact_small :
    SameScreen (smallParser 0 0).screen
      (finalState (parse [0xF5, 0xC3, 0xC1, 0x28] 0x00 (smallParser 0 0))).screen := by
  have aborted : Aborted (parse [0xF5, 0xC3, 0xC1, 0x28] 0x00 (smallParser 0 0)) := by
    have exit : (match parse [0xF5, 0xC3, 0xC1, 0x28] 0x00 (smallParser 0 0) with
        | .ok exit _ => some exit
        | .error _ _ => none) = some .rolledBack := by decide +kernel
    cases parsed : parse [0xF5, 0xC3, 0xC1, 0x28] 0x00 (smallParser 0 0) with
    | ok value after =>
        rw [parsed] at exit
        cases exit
        exact .rolledBack after
    | error fault after =>
        rw [parsed] at exit
        cases exit
  exact (rollback_exact_iff (smallParser_valid 0 0) (by decide) aborted).mpr
    ⟨rfl, rfl, fun key set present => (by cases present), rfl,
      fun wcc _ _ => rfl⟩

/-- A parse that stopped at a lone SA order on a screen with the cursor in the
last cell: the cursor does not come back. -/
theorem not_sameScreen_afterRollback :
    ¬ SameScreen (smallParser 1 2).screen
      (finalState (parse [0xF5, 0xC3, 0xC1, 0x28] 0x00 (smallParser 1 2))).screen :=
  fun same => absurd same.position (by decide +kernel)

end DataStreamParser

end Pure3270
