import Pure3270.Emulation.Tabbing
import Pure3270.Protocol.BulkMode
import Pure3270.Protocol.FieldTargets
import Pure3270.Protocol.PresentedFields

/-!
# Lookups before the first field

Until a record has started a field, the field list answers IC, PT and EUA as
the record found it, whether detection is suspended or not.  A record that
looks fields up before it starts any looks them up alike in both modes.
-/

namespace Pure3270

open Foundations

namespace ScreenBuffer

variable {suspended : Nat}

/-- Where the fields start, and whether they are protected. -/
def heads (screen : ScreenBuffer) : List ((Nat × Nat) × Bool) :=
  screen.fields.map fun field => (field.start, field.isProtected)

theorem find?_heads (test : (Nat × Nat) × Bool → Bool) (screen : ScreenBuffer) :
    (screen.fields.find? fun field => test (field.start, field.isProtected)).map
        (·.start) = (screen.heads.find? test).map Prod.fst := by
  unfold heads
  rw [List.find?_map, Option.map_map]
  rfl

theorem heads_of_layout {screen : ScreenBuffer}
    (inside : ∀ field ∈ screen.fields, field.InBounds screen.rows screen.cols) :
    screen.heads = screen.layout.map fun entry =>
      (screen.calculateCoords entry.1.1, entry.2) := by
  unfold heads layout
  rw [List.map_map]
  refine List.map_congr_left fun field member => ?_
  have here := (inside field member).1.2
  have row : field.startIndex screen.cols / screen.cols = field.start.1 := by
    unfold Field.startIndex
    rw [Nat.mul_comm, Nat.mul_add_div screen.cols_pos, Nat.div_eq_of_lt here, Nat.add_zero]
  have col : field.startIndex screen.cols % screen.cols = field.start.2 := by
    unfold Field.startIndex
    rw [Nat.mul_comm, Nat.mul_add_mod, Nat.mod_eq_of_lt here]
  show (field.start, _) = ((field.startIndex screen.cols / screen.cols,
    field.startIndex screen.cols % screen.cols), _)
  rw [row, col]

theorem Placed.firstInput {screen : ScreenBuffer} (placed : screen.Placed) :
    (screen.firstInputField.map fun field => field.start) =
      (screen.heads.find? fun head => !head.2).map Prod.fst := by
  rw [← find?_heads]
  unfold firstInputField
  cases valid : screen.navigationCacheValid with
  | false => rfl
  | true =>
      cases cached : screen.inputFieldsCache with
      | nil => rfl
      | cons field rest => exact (placed.inputs valid field (by rw [cached]; rfl)).symm

theorem LaidOut.nextInput {screen : ScreenBuffer} (laid : screen.LaidOut) :
    screen.nextInputPosition =
      (((screen.heads.find? fun head =>
          !head.2 && screen.cursorAddress < head.1.1 * screen.cols + head.1.2).map
            Prod.fst).or
        (screen.sortedAsciiFields.find? fun position =>
          screen.cursorAddress < screen.addressOf position)).or
        (((screen.heads.find? fun head => !head.2).map Prod.fst).or
          (screen.sortedAsciiFields.find? fun _ => true)) := by
  rw [nextInputPosition_eq, ← find?_heads, ← find?_heads]
  unfold positionBehind firstPosition
  rw [sortByStart_of_ordered laid.ordered]
  rfl

theorem protectedAt_eq {screen : ScreenBuffer} (laid : screen.LaidOut)
    {position : Nat × Nat} (inside : screen.OnScreen position) :
    screen.protectedAt position = screen.protectsAt (screen.addressOf position) := by
  rw [addressOf, ← getFieldAtPosition_isProtected laid inside]
  unfold protectedAt
  cases screen.getFieldAtPosition position.1 position.2 <;> rfl

theorem erasesAlike_of_layout {count : Nat} {position : Nat × Nat}
    {left right : ScreenBuffer} (valid : left.Valid) (valid' : right.Valid)
    (laid : left.LaidOut) (laid' : right.LaidOut) (layout : right.layout = left.layout)
    (rows : right.rows = left.rows) (cols : right.cols = left.cols)
    (inside : left.OnScreen position) : ErasesAlike count position left right := by
  induction count generalizing position left right with
  | zero => trivial
  | succ count ih =>
      have inside' : right.OnScreen position := by
        unfold OnScreen
        rw [rows, cols]
        exact inside
      have kept := (eraseUnprotectedCell_spec valid laid inside).1
      have kept' := (eraseUnprotectedCell_spec valid' laid' inside').1
      have still : (left.eraseUnprotectedCell position).OnScreen position := by
        unfold OnScreen
        rw [kept.rows, kept.cols]
        exact inside
      constructor
      · have address : right.addressOf position = left.addressOf position := by
          unfold addressOf
          rw [cols]
        rw [protectedAt_eq laid inside, protectedAt_eq laid' inside', address,
          protectsAt_congr layout]
      · exact ih kept.valid kept'.valid kept.laidOut kept'.laidOut
          ((kept'.layout.trans layout).trans kept.layout.symm)
          ((kept'.rows.trans rows).trans kept.rows.symm)
          ((kept'.cols.trans cols).trans kept.cols.symm) (nextCell_spec still).1

theorem Placed.change {screen : ScreenBuffer} (valid : screen.Valid)
    (placed : screen.Placed) {next : ScreenChange} (other : startsField next = false) :
    (screen.change next).Placed := by
  cases next with
  | setAttribute attr => cases other
  | eraseCell position => exact placed.eraseCell valid position
  | setPosition row col => exact (sameFields_setPosition row col).placed placed
  | insertByte byte => exact (sameFields_insertByte byte).placed placed
  | setExtended attrType attrValue position =>
      exact (sameFields_setExtended attrType attrValue position).placed placed
  | firstInput =>
      simp only [ScreenBuffer.change, moveCursorToFirstInputField]
      split
      · exact (sameFields_moveCursorTo _).placed placed
      · exact placed
  | programTab =>
      simp only [ScreenBuffer.change, programTab, moveCursorToNextInputField]
      split
      · exact (sameFields_moveCursorTo _).placed placed
      · exact placed

theorem Placed.changes {list : List ScreenChange} {screen : ScreenBuffer}
    (valid : screen.Valid) (placed : screen.Placed)
    (others : ∀ next ∈ list, startsField next = false) : (screen.changes list).Placed := by
  induction list generalizing screen with
  | nil => exact placed
  | cons next list ih =>
      exact ih (valid.change next) (placed.change valid (others next List.mem_cons_self))
        fun later member => others later (List.mem_cons_of_mem _ member)

/-- A change that makes no detection. -/
def DetectsNothing (next : ScreenChange) (screen : ScreenBuffer) : Prop :=
  ¬ screen.RunsDetection next

/-- The screen with another suspension counter. -/
abbrev suspendedAt (suspended : Nat) (screen : ScreenBuffer) : ScreenBuffer :=
  screen.withLists suspended screen.fieldLists

theorem typed_suspendedAt (byte : UInt8) (row col : Nat) (screen : ScreenBuffer) :
    (screen.suspendedAt suspended).typed byte row col false false true =
      (screen.typed byte row col false false true).suspendedAt suspended := rfl

theorem refreshFields_suspendedAt {screen : ScreenBuffer} (halted : suspended ≠ 0)
    (inside : ∀ field ∈ screen.fields, field.InBounds screen.rows screen.cols)
    {row col : Nat} (stays : ¬ screen.Redetects row col) :
    (screen.suspendedAt suspended).refreshFields row col =
      (screen.refreshFields row col).suspendedAt suspended := by
  cases covering : screen.fields.find? (coversPosition row col) with
  | none =>
      have uncovered : ∀ field ∈ screen.fields, coversPosition row col field = false := by
        simpa [List.find?_eq_none] using covering
      have here := refreshFields_of_uncovered uncovered
      have there := @refreshFields_of_uncovered (screen.suspendedAt suspended) row col uncovered
      rw [if_neg fun detects => stays ⟨uncovered, detects⟩] at here
      rw [if_neg fun detects => halted detects.1] at there
      rw [here, there]
  | some field =>
      obtain ⟨covers, front, back, split, notBefore⟩ :=
        List.find?_eq_some_iff_append.mp covering
      have spared : ∀ other ∈ front, coversPosition row col other = false :=
        fun other member => by simpa using notBefore other member
      rw [refreshFields_of_covered inside split spared covers,
        @refreshFields_of_covered (screen.suspendedAt suspended) row col front back field
          inside split spared covers]
      rfl

theorem change_suspendedAt {screen : ScreenBuffer} (valid : screen.Valid)
    (halted : suspended ≠ 0) {next : ScreenChange} (quiet : DetectsNothing next screen) :
    (screen.suspendedAt suspended).change next =
      (screen.change next).suspendedAt suspended := by
  cases next with
  | setAttribute attr =>
      have stopped : ¬ screen.suspendFieldDetection = 0 := quiet
      simp only [change, setAttribute]
      by_cases inside : screen.getPosition.1 * screen.cols + screen.getPosition.2 < screen.size
      · refine (if_pos inside).trans (Eq.trans (if_neg halted) (Eq.trans ?_
          (congrArg (suspendedAt suspended) ((if_pos inside).trans (if_neg stopped)).symm)))
        rfl
      · exact (if_neg inside).trans (congrArg (suspendedAt suspended) (if_neg inside).symm)
  | setPosition row col => rfl
  | insertByte byte =>
      simp only [change, insertByte]
      by_cases wraps : screen.cols ≤ screen.cursorCol + 1
      · refine (if_pos wraps).trans (Eq.trans ?_
          (congrArg (suspendedAt suspended) (if_pos wraps).symm))
        rfl
      · refine (if_neg wraps).trans (Eq.trans ?_
          (congrArg (suspendedAt suspended) (if_neg wraps).symm))
        rfl
  | setExtended attrType attrValue position =>
      simp only [change, setExtendedAttributeSfe]
      cases attrMap attrType <;> rfl
  | firstInput =>
      show (screen.suspendedAt suspended).moveCursorToFirstInputField = _
      simp only [change, moveCursorToFirstInputField]
      have same : (screen.suspendedAt suspended).firstInputField =
          screen.firstInputField := rfl
      rw [same]
      cases screen.firstInputField <;> rfl
  | programTab =>
      simp only [change, programTab, moveCursorToNextInputField]
      have same : (screen.suspendedAt suspended).nextInputPosition =
          screen.nextInputPosition := rfl
      rw [same]
      cases screen.nextInputPosition <;> rfl
  | eraseCell position =>
      have accepts : (screen.suspendedAt suspended).Accepts position.1 position.2 true ↔
          screen.Accepts position.1 position.2 true := Iff.rfl
      show (screen.suspendedAt suspended).writeChar 0x40 (some position) false true false =
        (screen.writeChar 0x40 (some position) false true false).suspendedAt suspended
      rw [writeChar_eq, writeChar_eq]
      simp only [Option.getD_some, Option.isSome_some, accepts]
      by_cases accepted : screen.Accepts position.1 position.2 true
      · rw [if_pos accepted, if_pos accepted, typed_suspendedAt]
        refine refreshFields_suspendedAt halted (by simpa using valid.fields_inBounds) ?_
        rw [typed_redetects_iff]
        exact fun detects => quiet ⟨accepted.1, detects⟩
      · rw [if_neg accepted, if_neg accepted]

theorem changes_suspendedAt {screen : ScreenBuffer} (valid : screen.Valid)
    (halted : suspended ≠ 0) {list : List ScreenChange}
    (quiet : Along change DetectsNothing list screen) :
    (screen.suspendedAt suspended).changes list =
      (screen.changes list).suspendedAt suspended := by
  induction list generalizing screen with
  | nil => rfl
  | cons next list ih =>
      have here := change_suspendedAt valid halted quiet.1
      show ((screen.suspendedAt suspended).change next).changes list = _
      rw [here]
      exact ih (valid.change next) quiet.2

theorem eraseChanges_suspendedAt {count : Nat} {position : Nat × Nat}
    {screen : ScreenBuffer} (valid : screen.Valid) (halted : suspended ≠ 0)
    (quiet : Along change DetectsNothing (eraseChanges count position screen) screen) :
    ErasesAlike count position screen (screen.suspendedAt suspended) ∧
      eraseChanges count position (screen.suspendedAt suspended) =
        eraseChanges count position screen := by
  induction count generalizing position screen with
  | zero => exact ⟨trivial, rfl⟩
  | succ count ih =>
      have protects : (screen.suspendedAt suspended).protectedAt position =
          screen.protectedAt position := rfl
      have erased : (screen.suspendedAt suspended).eraseUnprotectedCell position =
          (screen.eraseUnprotectedCell position).suspendedAt suspended ∧
        (screen.eraseUnprotectedCell position).Valid ∧
        Along change DetectsNothing
          (eraseChanges count ((screen.eraseUnprotectedCell position).nextCell position)
            (screen.eraseUnprotectedCell position)) (screen.eraseUnprotectedCell position) := by
        rw [eraseChanges] at quiet
        rw [eraseUnprotectedCell_eq, eraseUnprotectedCell_eq, protects]
        rw [eraseUnprotectedCell_eq] at quiet
        split
        · rename_i guarded
          rw [if_pos guarded] at quiet
          simp only [guarded, if_true, List.nil_append] at quiet
          exact ⟨rfl, valid, quiet⟩
        · rename_i free
          simp only [free, Bool.false_eq_true, if_false, List.singleton_append] at quiet
          exact ⟨change_suspendedAt valid halted quiet.1, valid.change (.eraseCell position),
            quiet.2⟩
      obtain ⟨same, kept, later⟩ := erased
      obtain ⟨alike, equal⟩ := ih kept later
      refine ⟨⟨protects.symm, ?_⟩, ?_⟩
      · rw [same]
        exact alike
      · rw [eraseChanges, eraseChanges, same, protects]
        exact congrArg _ equal

end ScreenBuffer

theorem Item.changes_suspendedAt {suspended : Nat} (item : Item) (mode : AddressingMode)
    (fieldStart : Nat × Nat) {screen : ScreenBuffer} (valid : screen.Valid)
    (halted : suspended ≠ 0)
    (quiet : Along ScreenBuffer.change ScreenBuffer.DetectsNothing
      (item.changes mode fieldStart screen) screen) :
    item.changes mode fieldStart (screen.suspendedAt suspended) =
      item.changes mode fieldStart screen := by
  cases item with
  | eua high low =>
      have erases := (along_append.mp quiet).1
      exact congrArg (· ++ _) (ScreenBuffer.eraseChanges_suspendedAt valid halted erases).2
  | data byte => rfl
  | sba high low => rfl
  | sf attr => rfl
  | sa attrType attrValue => rfl
  | sfe pairs => rfl
  | ra high low charToRepeat => rfl
  | ge graphicByte => rfl
  | ic => rfl
  | pt => rfl

namespace DataStreamParser

open ScreenBuffer

variable {suspended : Nat}

theorem roundChanges_suspendedAt {parser : DataStreamParser} (valid : parser.screen.Valid)
    (halted : suspended ≠ 0)
    (quiet : Along change DetectsNothing parser.roundChanges parser.screen) :
    (parser.withLists suspended parser.screen.fieldLists).roundChanges =
      parser.roundChanges := by
  unfold roundChanges at quiet ⊢
  have same : (parser.withLists suspended parser.screen.fieldLists).data.drop
      (parser.withLists suspended parser.screen.fieldLists).parserPos =
        parser.data.drop parser.parserPos := rfl
  rw [same]
  cases split : parser.data.drop parser.parserPos with
  | nil => rfl
  | cons byte operands =>
      rw [split] at quiet
      simp only at quiet ⊢
      by_cases mf : byte = 0x2C
      · rw [if_pos mf, if_pos mf]
        rfl
      by_cases structured : byte = 0x88
      · rw [if_neg mf, if_neg mf, if_pos structured, if_pos structured]
      rw [if_neg mf, if_neg structured] at quiet
      rw [if_neg mf, if_neg mf, if_neg structured, if_neg structured]
      cases found : nextItem byte operands with
      | none => rfl
      | some item =>
          rw [found] at quiet
          exact item.changes_suspendedAt _ _ valid halted quiet

/-- The order at the reader asks for fields: IC, PT, or an EUA over a cell at least. -/
def AsksForFields (parser : DataStreamParser) : Prop :=
  parser.data[parser.parserPos]? = some 0x13 ∨
    parser.data[parser.parserPos]? = some 0x05 ∨
    parser.data[parser.parserPos]? = some 0x12 ∧
      ∃ high low, parser.data[parser.parserPos + 1]? = some high ∧
        parser.data[parser.parserPos + 2]? = some low ∧
        parser.screen.cellsUpTo (parser.screen.targetPosition
          (decodeAddress parser.addressingMode high low) parser.addressingMode) ≠ 0

theorem looksAlike_of_asksNothing {left right : DataStreamParser}
    (nothing : ¬ left.AsksForFields) : LooksAlike left right where
  insertCursor here := absurd (.inl here) nothing
  programTab here := absurd (.inr (.inl here)) nothing
  eraseUnprotected := by
    intro high low target here first second found
    by_cases empty : left.screen.cellsUpTo target = 0
    · rw [empty]
      trivial
    · rw [ScreenBuffer.targetOf_eq] at found
      cases found
      exact absurd (.inr (.inr ⟨here, high, low, first, second, empty⟩)) nothing

theorem looksAlike_of_placed {left : DataStreamParser} {lists : FieldLists}
    (valid : left.screen.Valid) (valid' : (left.withLists suspended lists).screen.Valid)
    (placed : left.screen.Placed) (placed' : (left.withLists suspended lists).screen.Placed) :
    LooksAlike left (left.withLists suspended lists) := by
  have layout : (left.withLists suspended lists).screen.layout = left.screen.layout :=
    placed'.laidOut.layout.trans placed.laidOut.layout.symm
  have heads : (left.withLists suspended lists).screen.heads = left.screen.heads := by
    rw [heads_of_layout valid.fields_inBounds, heads_of_layout valid'.fields_inBounds, layout]
    rfl
  constructor
  · intro _
    rw [placed.firstInput, placed'.firstInput, heads]
  · intro _
    rw [placed.laidOut.nextInput, placed'.laidOut.nextInput, heads]
    rfl
  · intro _ _ target _ _ _ _
    exact erasesAlike_of_layout valid valid' placed.laidOut placed'.laidOut layout rfl rfl
      ⟨valid.cursorRow_lt, valid.cursorCol_lt⟩

theorem roundChanges_eua {parser : DataStreamParser} {high low : UInt8} {target : Nat × Nat}
    (here : parser.data[parser.parserPos]? = some 0x12)
    (first : parser.data[parser.parserPos + 1]? = some high)
    (second : parser.data[parser.parserPos + 2]? = some low)
    (found : parser.screen.targetOf (decodeAddress parser.addressingMode high low)
      parser.addressingMode = some target) :
    parser.roundChanges =
      eraseChanges (parser.screen.cellsUpTo target) parser.screen.getPosition
        parser.screen ++ [.setPosition target.1 target.2] := by
  obtain ⟨inside, byte⟩ := List.getElem?_eq_some_iff.mp here
  obtain ⟨insideHigh, highByte⟩ := List.getElem?_eq_some_iff.mp first
  obtain ⟨insideLow, lowByte⟩ := List.getElem?_eq_some_iff.mp second
  have split : parser.data.drop parser.parserPos =
      0x12 :: high :: low :: parser.data.drop (parser.parserPos + 3) := by
    rw [List.drop_eq_getElem_cons inside, byte, List.drop_eq_getElem_cons insideHigh,
      highByte, List.drop_eq_getElem_cons insideLow, lowByte]
  have there : parser.screen.targetPosition (decodeAddress parser.addressingMode high low)
      parser.addressingMode = target := by
    rw [ScreenBuffer.targetOf_eq] at found
    exact Option.some_inj.mp found
  unfold roundChanges
  rw [split]
  show eraseChanges (parser.screen.cellsUpTo (parser.screen.targetPosition _ _)) _ _ ++ _ = _
  rw [there]

theorem looksAlike_of_suspendedAt {left : DataStreamParser} (valid : left.screen.Valid)
    (halted : suspended ≠ 0)
    (quiet : Along change DetectsNothing left.roundChanges left.screen) :
    LooksAlike left (left.withLists suspended left.screen.fieldLists) where
  insertCursor _ := rfl
  programTab _ := rfl
  eraseUnprotected := by
    intro high low target here first second found
    rw [roundChanges_eua here first second found] at quiet
    exact (eraseChanges_suspendedAt valid halted (along_append.mp quiet).1).1

/-- The plain path of a record when its order loop begins. -/
def plainStart (data : List UInt8) (parser : DataStreamParser) : DataStreamParser :=
  loopStart (prepare false data parser)

/-- One round of the plain path. -/
def plainRound (data : List UInt8) (parser : DataStreamParser) :
    ParserM (Option LoopExit) :=
  parseRound (recordSnapshot (prepare false data parser))

/-- In the plain path of a record no round before the first field makes a
detection. -/
def DetectsNothingBefore (data : List UInt8) (parser : DataStreamParser) : Prop :=
  ∀ {count reached},
    afterRounds (plainRound data parser) count (plainStart data parser) = some reached →
      startsField reached = false →
        Along change DetectsNothing reached.roundChanges reached.screen

/-- A record looks fields up before it starts any.  It erases the screen, or finds
the fields where the field starts put them, or detects nothing before. -/
structure LooksUpFirst (data : List UInt8) (parser : DataStreamParser) : Prop where
  order : ∀ {first second earlier later}, first < second →
    afterRounds (plainRound data parser) first (plainStart data parser) = some earlier →
    afterRounds (plainRound data parser) second (plainStart data parser) = some later →
      startsField earlier = true → ¬ later.AsksForFields
  found : Watched.erases data = true ∨ parser.screen.Placed ∨
    DetectsNothingBefore data parser

/-- The fields of both screens are placed; or the screens are the same but for the
suspension, and stay so. -/
def AnswersAlike (suspended : Nat) (data : List UInt8) (parser : DataStreamParser)
    (left right : ScreenBuffer) : Prop :=
  left.Placed ∧ right.Placed ∨
    right = left.suspendedAt suspended ∧ DetectsNothingBefore data parser

/-- The two runs before a pair of rounds. -/
structure Abreast (suspended : Nat) (left right : DataStreamParser) : Prop where
  twins : Twins suspended left right
  valid : left.screen.Valid
  valid' : right.screen.Valid
  positioned : Positioned left

theorem Abreast.positioned' {left right : DataStreamParser}
    (abreast : Abreast suspended left right) : Positioned right := by
  obtain ⟨sameData, parserPos, pos⟩ := abreast.twins.same
  unfold Positioned
  rw [sameData, parserPos, pos]
  exact abreast.positioned

theorem startsField_eq (parser : DataStreamParser) :
    startsField parser = parser.roundChanges.any ScreenBuffer.startsField := by
  unfold startsField
  refine congrArg (parser.roundChanges.any ·) (funext fun next => ?_)
  cases next <;> rfl

theorem startsField_eq_false {parser : DataStreamParser}
    (starts : startsField parser = false) :
    ∀ next ∈ parser.roundChanges, ScreenBuffer.startsField next = false := by
  rw [startsField_eq] at starts
  simpa using starts

theorem eraseChanges_startsField (count : Nat) (position : Nat × Nat)
    (screen : ScreenBuffer) :
    (eraseChanges count position screen).any ScreenBuffer.startsField = false := by
  induction count generalizing position screen with
  | zero => rfl
  | succ count ih =>
      rw [eraseChanges, List.any_append, ih, Bool.or_false]
      split <;> rfl

/-- Whether an order starts a field does not depend on the field list. -/
theorem startsField_twin {left right : DataStreamParser}
    (twins : Twins suspended left right) : startsField right = startsField left := by
  obtain ⟨lists, rfl⟩ := twins
  rw [startsField_eq, startsField_eq]
  unfold roundChanges
  have same : (left.withLists suspended lists).data.drop
      (left.withLists suspended lists).parserPos = left.data.drop left.parserPos := rfl
  rw [same]
  cases left.data.drop left.parserPos with
  | nil => rfl
  | cons byte operands =>
      simp only
      by_cases mf : byte = 0x2C
      · rw [if_pos mf, if_pos mf]
        rfl
      by_cases structured : byte = 0x88
      · rw [if_neg mf, if_neg mf, if_pos structured, if_pos structured]
      rw [if_neg mf, if_neg mf, if_neg structured, if_neg structured]
      cases nextItem byte operands with
      | none => rfl
      | some item =>
          cases item with
          | eua high low =>
              simp only [Item.changes, List.any_append, eraseChanges_startsField]
              rfl
          | data byte => rfl
          | sba high low => rfl
          | sf attr => rfl
          | sa attrType attrValue => rfl
          | sfe pairs => rfl
          | ra high low charToRepeat => rfl
          | ge graphicByte => rfl
          | ic => rfl
          | pt => rfl

theorem parseRound_goesOn {snapshot : Option ScreenSnapshot}
    {before after : DataStreamParser} (valid : before.screen.Valid)
    (positioned : Positioned before) (round : parseRound snapshot before = .ok none after) :
    after.screen = before.screen.changes before.roundChanges := by
  have changed := @parseRound_changes snapshot before valid positioned.1
    (.inr (by rw [round]; trivial))
  rw [round] at changed
  exact changed

theorem Abreast.round {snapshot : Option ScreenSnapshot}
    {left right after twin : DataStreamParser} (abreast : Abreast suspended left right)
    (alike : LooksAlike left right) (round : parseRound snapshot left = .ok none after)
    (turn : parseRound snapshot right = .ok none twin) : Abreast suspended after twin := by
  have both : LockstepAt (Twins suspended) (parseRound snapshot) (parseRound snapshot)
      left right :=
    lockstepAt_twins.mpr (parseRound_alike (twins_iff_alike.mp abreast.twins)
      (lockstepAt_twins.mp (processByte_lockstep abreast.twins alike)))
  unfold LockstepAt at both
  rw [round, turn] at both
  cases both with
  | ok _ kept =>
      exact ⟨kept, parseRound_valid abreast.valid round, parseRound_valid abreast.valid' turn,
        (parseRound_progress snapshot).keeps abreast.positioned round⟩

theorem Abreast.looksAlike {data : List UInt8} {parser left right : DataStreamParser}
    (abreast : Abreast suspended left right) (halted : suspended ≠ 0)
    (answers : AnswersAlike suspended data parser left.screen right.screen)
    (quiet : DetectsNothingBefore data parser →
      Along change DetectsNothing left.roundChanges left.screen) :
    LooksAlike left right := by
  obtain ⟨lists, rfl⟩ := abreast.twins
  rcases answers with ⟨placed, placed'⟩ | ⟨same, nothing⟩
  · exact looksAlike_of_placed abreast.valid abreast.valid' placed placed'
  · have whole : left.withLists suspended lists =
        left.withLists suspended left.screen.fieldLists := by
      unfold withLists
      exact congrArg (fun screen => { left with screen }) same
    rw [whole]
    exact looksAlike_of_suspendedAt abreast.valid halted (quiet nothing)

theorem AnswersAlike.round {snapshot : Option ScreenSnapshot} {data : List UInt8}
    {parser left right after twin : DataStreamParser} (abreast : Abreast suspended left right)
    (halted : suspended ≠ 0)
    (answers : AnswersAlike suspended data parser left.screen right.screen)
    (other : startsField left = false) (other' : startsField right = false)
    (quiet : DetectsNothingBefore data parser →
      Along change DetectsNothing left.roundChanges left.screen)
    (round : parseRound snapshot left = .ok none after)
    (turn : parseRound snapshot right = .ok none twin) :
    AnswersAlike suspended data parser after.screen twin.screen := by
  rw [parseRound_goesOn abreast.valid abreast.positioned round,
    parseRound_goesOn abreast.valid' abreast.positioned' turn]
  rcases answers with ⟨placed, placed'⟩ | ⟨same, nothing⟩
  · exact .inl ⟨placed.changes abreast.valid (startsField_eq_false other),
      placed'.changes abreast.valid' (startsField_eq_false other')⟩
  · refine .inr ⟨?_, nothing⟩
    obtain ⟨lists, rfl⟩ := abreast.twins
    have whole : left.withLists suspended lists =
        left.withLists suspended left.screen.fieldLists := by
      unfold withLists
      exact congrArg (fun screen => { left with screen }) same
    rw [whole, roundChanges_suspendedAt abreast.valid halted (quiet nothing)]
    exact changes_suspendedAt abreast.valid halted (quiet nothing)

theorem loopStart_before {parser : DataStreamParser} (valid : parser.screen.Valid)
    (bulkMode : Bool) (data : List UInt8) :
    (loopStart (prepare bulkMode data parser)).screen.Valid ∧
      Positioned (loopStart (prepare bulkMode data parser)) := by
  have prepared := (prepareScreen_valid valid bulkMode).1
  match data with
  | [] => exact ⟨prepared, Nat.le_refl _, Nat.zero_le _⟩
  | [_] => exact ⟨prepared, Nat.le_refl _, Nat.zero_le _⟩
  | command :: wcc :: rest =>
      unfold loopStart
      by_cases write : (isWriteCommand command || isEraseWriteCommand command) = true
      · have before := startWrite_before valid bulkMode command wcc rest
        simp only [prepare, write, if_true]
        exact ⟨before.valid, before.positioned⟩
      · simp only [prepare, write, Bool.false_eq_true, if_false]
        refine ⟨?_, Nat.le_refl _, Nat.le_add_left _ _⟩
        show (ScreenBuffer.applyWcc command _).Valid
        unfold ScreenBuffer.applyWcc
        split
        · exact (prepared.setKeyboardLock false).setPosition 0 0
        · exact prepared.setPosition 0 0

/-- A record that erases the screen begins without fields. -/
theorem placed_loopStart_erases {data : List UInt8} (erases : Watched.erases data = true)
    (long : 2 ≤ data.length) (bulkMode : Bool) (parser : DataStreamParser) :
    (loopStart (prepare bulkMode data parser)).screen.Placed := by
  match data, long with
  | command :: wcc :: rest, _ =>
      have write : (isWriteCommand command || isEraseWriteCommand command) = true := by
        simpa [Watched.erases] using erases
      unfold loopStart
      simp only [prepare, write, if_true]
      let screen := prepareScreen bulkMode parser.screen
      have caches := erased_caches (command :: wcc :: rest) screen
      refine (applyWcc_caches wcc (screen.erased (command :: wcc :: rest))).placed ?_
      exact Placed.blank (erased_fields _ _) (erased_fieldStarts _ _) caches.1 caches.2.1

/-- The others leave the fields alone. -/
theorem placed_loopStart {data : List UInt8} {parser : DataStreamParser}
    (erases : Watched.erases data = false) (placed : parser.screen.Placed)
    (bulkMode : Bool) : (loopStart (prepare bulkMode data parser)).screen.Placed := by
  have prepared : (prepareScreen bulkMode parser.screen).Placed := by
    cases bulkMode <;> exact ⟨⟨placed.laidOut.layout, placed.laidOut.cached⟩, placed.inputs⟩
  match data with
  | [] => exact prepared
  | [_] => exact prepared
  | command :: wcc :: rest =>
      have plain : (isWriteCommand command || isEraseWriteCommand command) = false := by
        simpa [Watched.erases] using erases
      unfold loopStart
      simp only [prepare, plain, Bool.false_eq_true, if_false]
      exact (applyWcc_caches command _).placed prepared

theorem suspendedAt_loopStart {data : List UInt8} {parser : DataStreamParser}
    (erases : Watched.erases data = false) :
    (loopStart (prepare true data parser)).screen =
      (loopStart (prepare false data parser)).screen.suspendedAt
        (parser.screen.suspendFieldDetection + 1) := by
  match data with
  | [] => rfl
  | [_] => rfl
  | command :: wcc :: rest =>
      have plain : (isWriteCommand command || isEraseWriteCommand command) = false := by
        simpa [Watched.erases] using erases
      unfold loopStart
      simp only [prepare, plain, Bool.false_eq_true, if_false]
      show ScreenBuffer.applyWcc command _ = (ScreenBuffer.applyWcc command _).suspendedAt _
      unfold ScreenBuffer.applyWcc
      split <;> rfl

theorem LooksUpFirst.start {data : List UInt8} {parser : DataStreamParser}
    (first : LooksUpFirst data parser) (long : 2 ≤ data.length) :
    AnswersAlike (parser.screen.suspendFieldDetection + 1) data parser
      (loopStart (prepare false data parser)).screen
      (loopStart (prepare true data parser)).screen := by
  cases erases : Watched.erases data with
  | true =>
      exact .inl ⟨placed_loopStart_erases erases long false parser,
        placed_loopStart_erases erases long true parser⟩
  | false =>
      rcases first.found with erasing | placed | nothing
      · rw [erases] at erasing
        cases erasing
      · exact .inl ⟨placed_loopStart erases placed false, placed_loopStart erases placed true⟩
      · exact .inr ⟨suspendedAt_loopStart erases, nothing⟩

theorem AsksForFields.startsNone {parser : DataStreamParser} (asks : parser.AsksForFields) :
    startsField parser = false := by
  have split : ∀ {byte : UInt8}, parser.data[parser.parserPos]? = some byte →
      parser.data.drop parser.parserPos = byte :: parser.data.drop (parser.parserPos + 1) := by
    intro byte here
    obtain ⟨inside, found⟩ := List.getElem?_eq_some_iff.mp here
    rw [List.drop_eq_getElem_cons inside, found]
  rw [startsField_eq]
  rcases asks with here | here | ⟨here, high, low, first, second, -⟩
  · unfold roundChanges
    rw [split here]
    rfl
  · unfold roundChanges
    rw [split here]
    rfl
  · rw [roundChanges_eua here first second (targetOf_eq _ _ _), List.any_append,
      eraseChanges_startsField]
    rfl

/-- No field has been started in the plain path before a round. -/
def Unstarted (data : List UInt8) (parser : DataStreamParser) (count : Nat) : Prop :=
  ∀ before < count, ∀ earlier,
    afterRounds (plainRound data parser) before (plainStart data parser) = some earlier →
      startsField earlier = false

theorem LooksUpFirst.looksAlike {data : List UInt8} {parser reached twin : DataStreamParser}
    {count : Nat} (first : LooksUpFirst data parser) (halted : suspended ≠ 0)
    (rounds : afterRounds (plainRound data parser) count (plainStart data parser) =
      some reached)
    (abreast : Abreast suspended reached twin)
    (answers : Unstarted data parser count →
      AnswersAlike suspended data parser reached.screen twin.screen) :
    LooksAlike reached twin := by
  by_cases asks : reached.AsksForFields
  · have unstarted : Unstarted data parser count := by
      intro before below earlier early
      by_contra started
      exact first.order below early rounds (by simpa using started) asks
    exact abreast.looksAlike halted (answers unstarted) fun nothing =>
      nothing rounds asks.startsNone
  · exact looksAlike_of_asksNothing asks

/-- Until a field order comes the two runs give the same answers; afterwards
nobody asks. -/
theorem LooksUpFirst.abreast {data : List UInt8} {parser : DataStreamParser}
    (valid : parser.screen.Valid) (long : 2 ≤ data.length)
    (first : LooksUpFirst data parser) {count : Nat} {reached twin : DataStreamParser}
    (rounds : afterRounds (plainRound data parser) count (plainStart data parser) =
      some reached)
    (turns : afterRounds (plainRound data parser) count
      (loopStart (prepare true data parser)) = some twin) :
    Abreast (parser.screen.suspendFieldDetection + 1) reached twin ∧
      (Unstarted data parser count →
        AnswersAlike (parser.screen.suspendFieldDetection + 1) data parser
          reached.screen twin.screen) := by
  have halted : parser.screen.suspendFieldDetection + 1 ≠ 0 := Nat.succ_ne_zero _
  induction count generalizing reached twin with
  | zero =>
      cases rounds
      cases turns
      obtain ⟨here, positioned⟩ := loopStart_before valid false data
      obtain ⟨there, -⟩ := loopStart_before valid true data
      exact ⟨⟨loopStart_twins ⟨parser.screen.fieldLists, rfl⟩, here, there, positioned⟩,
        fun _ => first.start long⟩
  | succ count ih =>
      obtain ⟨before, earlier, round⟩ := afterRounds_last rounds
      obtain ⟨before', earlier', turn⟩ := afterRounds_last turns
      obtain ⟨abreast, answers⟩ := ih earlier earlier'
      have alike := first.looksAlike halted earlier abreast answers
      refine ⟨abreast.round alike round turn, fun unstarted => ?_⟩
      have other := unstarted count (Nat.lt_succ_self count) before earlier
      exact (answers fun step below => unstarted step (Nat.lt_succ_of_lt below)).round
        abreast halted other ((startsField_twin abreast.twins).trans other)
        (fun nothing => nothing earlier other) round turn

theorem LooksUpFirst.throughout {data : List UInt8} {parser : DataStreamParser}
    (valid : parser.screen.Valid) (long : 2 ≤ data.length)
    (first : LooksUpFirst data parser) : LooksAlikeThroughout data parser := by
  intro count reached twin rounds turns
  obtain ⟨abreast, answers⟩ := first.abreast valid long rounds turns
  exact first.looksAlike (Nat.succ_ne_zero _) rounds abreast answers

end DataStreamParser

end Pure3270
