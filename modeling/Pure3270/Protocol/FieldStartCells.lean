import Pure3270.Foundations.WriteLog
import Pure3270.Protocol.WriteRecords

/-!
# Field starts and attribute cells

Orders add field starts and only an erase removes them.  A cell whose
attribute is overwritten by data stays a field start, so that the starts are
the cells whose last write was an attribute only as long as attributes stand.
-/

namespace Pure3270

open Foundations

/-- What an order or a data byte stores in a cell. -/
inductive Stored where
  | attribute
  | data
  deriving DecidableEq, Repr

namespace ScreenChange

/-- The cell a change stores something in. -/
def stores (screen : ScreenBuffer) : ScreenChange → List (Nat × Stored)
  | insertByte _ => [(screen.cursorAddress, .data)]
  | setAttribute _ => [(screen.cursorAddress, .attribute)]
  | eraseCell position =>
      if position.1 < screen.rows ∧ position.2 < screen.cols then
        [(position.1 * screen.cols + position.2, .data)]
      else []
  | _ => []

end ScreenChange

namespace ScreenBuffer

/-- What a list of changes stores, in order. -/
def storeLog : List ScreenChange → ScreenBuffer → List (Nat × Stored)
  | [], _ => []
  | next :: rest, screen => next.stores screen ++ storeLog rest (screen.change next)

/-- Only attributes add field starts, and nothing takes one away. -/
theorem mem_fieldStarts_change {screen : ScreenBuffer} (valid : screen.Valid)
    (next : ScreenChange) (pos : Nat) :
    pos ∈ (screen.change next).fieldStarts ↔
      pos ∈ screen.fieldStarts ∨ (pos, .attribute) ∈ next.stores screen := by
  cases next with
  | setAttribute attr =>
      have added := setAttribute_fieldStarts valid attr
      simp only [change, added, SortedSet.mem_insert, ScreenChange.stores,
        List.mem_singleton, Prod.mk.injEq, and_true]
      exact or_comm
  | eraseCell position =>
      rw [eraseCell_fieldStarts, ScreenChange.stores]
      split <;> simp
  | setPosition row col => simp [change, ScreenChange.stores, setPosition]
  | insertByte byte =>
      have same : (screen.change (.insertByte byte)).fieldStarts =
          screen.fieldStarts := by
        simp only [change, insertByte]
        split <;> rfl
      rw [same]
      simp [ScreenChange.stores]
  | setExtended attrType attrValue position =>
      have same : (screen.change
          (.setExtended attrType attrValue position)).fieldStarts =
            screen.fieldStarts := by
        simp only [change, setExtendedAttributeSfe]
        split <;> rfl
      rw [same]
      simp [ScreenChange.stores]
  | firstInput =>
      have same : (screen.change .firstInput).fieldStarts = screen.fieldStarts := by
        simp only [change, moveCursorToFirstInputField]
        split <;> rfl
      rw [same]
      simp [ScreenChange.stores]
  | programTab =>
      have same : (screen.change .programTab).fieldStarts = screen.fieldStarts := by
        simp only [change, programTab, moveCursorToNextInputField]
        split <;> rfl
      rw [same]
      simp [ScreenChange.stores]

/-- A cell that nothing is stored in keeps its byte. -/
theorem change_buffer_of_unstored {screen : ScreenBuffer} (valid : screen.Valid)
    {next : ScreenChange} {pos : Nat}
    (unstored : ∀ stored, (pos, stored) ∉ next.stores screen) :
    (screen.change next).buffer[pos]? = screen.buffer[pos]? := by
  cases next with
  | setAttribute attr =>
      have elsewhere : screen.cursorAddress ≠ pos := by
        rintro rfl
        exact unstored .attribute (by simp [ScreenChange.stores])
      rw [change, setAttribute_buffer valid, List.getElem?_set_ne elsewhere]
  | eraseCell position =>
      rw [eraseCell_buffer valid]
      split
      · rename_i inside
        refine List.getElem?_set_ne fun same => unstored .data ?_
        simp [ScreenChange.stores, inside, same]
      · rfl
  | insertByte byte =>
      have elsewhere : screen.cursorAddress ≠ pos := by
        rintro rfl
        exact unstored .data (by simp [ScreenChange.stores])
      have same : (screen.change (.insertByte byte)).buffer =
          screen.buffer.set screen.cursorAddress byte := by
        simp only [change, insertByte]
        split <;> rfl
      rw [same, List.getElem?_set_ne elsewhere]
  | setPosition row col => rfl
  | setExtended attrType attrValue position =>
      simp only [change, setExtendedAttributeSfe]
      split <;> rfl
  | firstInput =>
      simp only [change, moveCursorToFirstInputField]
      split <;> rfl
  | programTab =>
      simp only [change, programTab, moveCursorToNextInputField]
      split <;> rfl

theorem mem_fieldStarts_changes {list : List ScreenChange} {screen : ScreenBuffer}
    (valid : screen.Valid) (pos : Nat) :
    pos ∈ (screen.changes list).fieldStarts ↔
      pos ∈ screen.fieldStarts ∨ (pos, .attribute) ∈ storeLog list screen := by
  induction list generalizing screen with
  | nil => simp [storeLog, run]
  | cons next list ih =>
      have later := ih (valid.change next)
      show pos ∈ ((screen.change next).changes list).fieldStarts ↔ _
      rw [later, mem_fieldStarts_change valid, storeLog, List.mem_append, or_assoc]

theorem changes_buffer_of_unstored {list : List ScreenChange} {screen : ScreenBuffer}
    (valid : screen.Valid) {pos : Nat}
    (unstored : ∀ stored, (pos, stored) ∉ storeLog list screen) :
    (screen.changes list).buffer[pos]? = screen.buffer[pos]? := by
  induction list generalizing screen with
  | nil => rfl
  | cons next list ih =>
      simp only [storeLog, List.mem_append, not_or] at unstored
      refine (ih (valid.change next) fun stored => (unstored stored).2).trans ?_
      exact change_buffer_of_unstored valid fun stored => (unstored stored).1

/-- Starting without field starts, the starts are the cells of the attributes
exactly when no attribute is stored over for good. -/
theorem fieldStarts_changes_iff {list : List ScreenChange} {screen : ScreenBuffer}
    (valid : screen.Valid) (unformatted : screen.fieldStarts = SortedSet.empty) :
    (∀ pos, pos ∈ (screen.changes list).fieldStarts ↔
        lastWrite pos (storeLog list screen) = some .attribute) ↔
      Stands .attribute (storeLog list screen) := by
  have starts : ∀ pos, pos ∈ (screen.changes list).fieldStarts ↔
      (pos, .attribute) ∈ storeLog list screen := by
    intro pos
    rw [mem_fieldStarts_changes valid, unformatted]
    simp
  simp only [starts, stands_iff]
  exact forall_congr' fun pos => ⟨fun same => same.mp, fun last => ⟨last, mem_of_lastWrite⟩⟩

end ScreenBuffer

open DataStreamParser

/-- A parser, and what has been stored in its screen since the last erase. -/
structure WriteHistory where
  parser : DataStreamParser
  log : List (Nat × Stored)

namespace WriteHistory

/-- What a record stores after its erase. -/
def recordLog (record : WriteRecord) (parser : DataStreamParser) :
    List (Nat × Stored) :=
  match record.rest with
  | [] => []
  | wcc :: _ =>
      (writeStart wcc record.data parser).screen.storeLog
        (recordChanges record.data parser)

/-- Parse a record.  One that is rolled back takes its erase and its stores
back. -/
def parseWrite (record : WriteRecord) (history : WriteHistory) : WriteHistory where
  parser := finalState (parse record.data 0x00 history.parser)
  log :=
    if Aborted (parse record.data 0x00 history.parser) then history.log
    else recordLog record history.parser

/-- A screen as it is found: its field starts count as attributes. -/
def start (parser : DataStreamParser) : WriteHistory where
  parser
  log := parser.screen.fieldStarts.toList.map fun pos => (pos, .attribute)

/-- The field starts are the cells that an attribute was last stored in. -/
def StartsAreAttributes (history : WriteHistory) : Prop :=
  ∀ pos, pos ∈ history.parser.screen.fieldStarts ↔
    lastWrite pos history.log = some .attribute

/-- A record is rolled back, or stores nothing over an attribute of its own
without storing an attribute in the same cell later. -/
def AttributesStand (record : WriteRecord) (history : WriteHistory) : Prop :=
  Aborted (parse record.data 0x00 history.parser) ∨
    Stands .attribute (recordLog record history.parser)

/-- A record leaves the cells that it stores nothing in erased. -/
theorem parse_unstored {parser : DataStreamParser} (valid : parser.screen.Valid)
    (record : WriteRecord) {wcc : UInt8} {body : List UInt8}
    (controlled : record.rest = wcc :: body)
    (kept : ¬ Aborted (parse record.data 0x00 parser)) {pos : Nat}
    (unstored : ∀ stored, (pos, stored) ∉ recordLog record parser) :
    (finalState (parse record.data 0x00 parser)).screen.buffer[pos]? =
      (writeStart wcc record.data parser).screen.buffer[pos]? := by
  obtain ⟨command, rest, write⟩ := record
  cases controlled
  simp only [WriteRecord.data, recordLog] at kept unstored ⊢
  rw [parse_changes valid write kept, resumeScreen_buffer]
  exact ScreenBuffer.changes_buffer_of_unstored
    (writeStart_before valid command wcc body).valid unstored

theorem parseWrite_startsAreAttributes_iff (record : WriteRecord)
    {history : WriteHistory} (valid : history.parser.screen.Valid)
    (holds : history.StartsAreAttributes) :
    (parseWrite record history).StartsAreAttributes ↔
      AttributesStand record history := by
  obtain ⟨command, rest, write⟩ := record
  obtain ⟨parser, log⟩ := history
  by_cases aborted : Aborted (parse (command :: rest) 0x00 parser)
  · have left := (parse_aborted valid write aborted).fieldStarts
    refine iff_of_true (fun pos => ?_) (.inl aborted)
    simp only [parseWrite, WriteRecord.data, aborted, if_true, left]
    exact holds pos
  · simp only [AttributesStand, StartsAreAttributes, parseWrite, WriteRecord.data,
      aborted, if_false, false_or]
    cases rest with
    | nil =>
        simp only [recordLog, parse_missingWcc parser write aborted,
          erased_fieldStarts]
        simp [lastWrite, Stands]
    | cons wcc body =>
        rw [parse_changes valid write aborted, resumeScreen_fieldStarts]
        exact ScreenBuffer.fieldStarts_changes_iff (writeStart_before valid command wcc body).valid
          (writeStart_fieldStarts wcc _ parser)

theorem start_startsAreAttributes (parser : DataStreamParser) :
    (start parser).StartsAreAttributes := by
  intro pos
  have stands : Stands Stored.attribute (start parser).log := by
    intro before key other after split different
    have member : (key, other) ∈ (start parser).log := by rw [split]; simp
    simp only [start, List.mem_map, Prod.mk.injEq] at member
    obtain ⟨_, _, _, same⟩ := member
    exact absurd same.symm different
  have listed : pos ∈ parser.screen.fieldStarts ↔
      (pos, .attribute) ∈ (start parser).log := by
    simp [start, SortedSet.mem_iff]
  exact listed.trans ⟨stands_iff.mp stands pos, mem_of_lastWrite⟩

/-- In every state of a sequence of write records the field starts are the
cells that an attribute was last stored in, exactly when the attributes of
every record stand. -/
theorem startsAreAttributes_iff {parser : DataStreamParser}
    (valid : parser.screen.Valid) (records : List WriteRecord) :
    Always parseWrite StartsAreAttributes records (start parser) ↔
      Along parseWrite AttributesStand records (start parser) :=
  always_iff_along
    (fun record {history : WriteHistory} (valid : history.parser.screen.Valid) =>
      (parse_valid valid record.data 0x00).2.1)
    (fun record _ valid holds => parseWrite_startsAreAttributes_iff record valid holds)
    valid (start_startsAreAttributes parser)

/-- A field and one letter. -/
def letterRecord : WriteRecord :=
  ⟨0xF5, [0xC3, 0x1D, 0x60, 0xC1], by decide⟩

/-- The letter goes to the cell of the attribute. -/
def overwritingRecord : WriteRecord :=
  ⟨0xF5, [0xC3, 0x1D, 0x60, 0x11, 0x00, 0x00, 0xC1], by decide⟩

theorem startsAreAttributes_letter :
    Always parseWrite StartsAreAttributes [letterRecord] (start (smallParser 0 0)) := by
  refine (startsAreAttributes_iff (smallParser_valid 0 0) [letterRecord]).mpr
    ⟨.inr ?_, trivial⟩
  have log : recordLog letterRecord (start (smallParser 0 0)).parser =
      [(0, .attribute), (1, .data)] := by decide +kernel
  rw [log, stands_iff]
  intro pos member
  simp only [List.mem_cons, Prod.mk.injEq, and_true, reduceCtorEq, and_false,
    List.not_mem_nil, or_false] at member
  rw [member]
  rfl

/-- The overwritten cell stays a field start. -/
theorem not_startsAreAttributes_overwritten :
    ¬ ∀ (parser : DataStreamParser), parser.screen.Valid →
      ∀ records : List WriteRecord,
        Always parseWrite StartsAreAttributes records (start parser) := by
  intro claimed
  have after : StartsAreAttributes
      (parseWrite overwritingRecord (start (smallParser 0 0))) :=
    (claimed (smallParser 0 0) (smallParser_valid 0 0) [overwritingRecord]).2
  have member : 0 ∈ (parseWrite overwritingRecord
      (start (smallParser 0 0))).parser.screen.fieldStarts := by decide +kernel
  have overwritten : lastWrite 0 (parseWrite overwritingRecord
      (start (smallParser 0 0))).log = some .data := by decide +kernel
  have last := (after 0).mp member
  rw [overwritten] at last
  cases last

end WriteHistory

end Pure3270
