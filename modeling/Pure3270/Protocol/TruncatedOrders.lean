import Pure3270.Protocol.WriteRollback

/-!
# Truncated orders

A record that is cut inside its last order.  Whether the write is taken back depends on
the text of the error that the order raises: SBA, SA and EUA abort, the other orders are
skipped or end quietly, and a byte that they leave over is read as an order of its own.
-/

namespace Pure3270

open Foundations

/-- The record ends before the operands of its last order do.  MF takes pairs to the end
of the record and is cut when a byte is left over. -/
inductive Truncated : UInt8 → List UInt8 → Prop where
  | sba {operands : List UInt8} (short : operands.length < 2) : Truncated 0x11 operands
  | sa {operands : List UInt8} (short : operands.length < 2) : Truncated 0x28 operands
  | eua {operands : List UInt8} (short : operands.length < 2) : Truncated 0x12 operands
  | sf : Truncated 0x1D []
  | ge : Truncated 0x08 []
  | ra {operands : List UInt8} (short : operands.length < 3) : Truncated 0x3C operands
  | mf : Truncated 0x2C []
  | mfPairs {operands : List UInt8} (odd : operands.length % 2 = 1) :
      Truncated 0x2C operands
  | sfe : Truncated 0x29 []
  | sfePairs {count : UInt8} {operands : List UInt8}
      (short : operands.length < 2 * count.toNat) : Truncated 0x29 (count :: operands)

/-- The byte that is left when whole pairs have been taken. -/
def oddByte (operands : List UInt8) : List UInt8 :=
  operands.drop (2 * (operands.length / 2))

/-- What a truncated order leaves to the next round: RA is skipped with one byte, and
SFE and MF take the pairs that are there. -/
def leftover (order : UInt8) (operands : List UInt8) : List UInt8 :=
  if order = 0x3C then operands.drop 1
  else if order = 0x29 then oddByte operands.tail
  else if order = 0x2C then if operands.length < 2 then [] else oddByte operands
  else []

/-- Orders whose truncation aborts a write: SBA, SA and EUA, each with two
operand bytes. -/
def abortsWrite (order : UInt8) : Bool :=
  order ∈ [0x11, 0x28, 0x12]

/-- The order aborts its write, or leaves a byte that does. -/
def reachesAbort (order : UInt8) (operands : List UInt8) : Bool :=
  abortsWrite order || (leftover order operands).any abortsWrite

/-- The same arrays, attribute sets and field starts. -/
structure SameArrays (before after : ScreenBuffer) : Prop where
  buffer : after.buffer = before.buffer
  attributes : after.attributes = before.attributes
  extended : after.extendedAttributes = before.extendedAttributes
  fieldStarts : after.fieldStarts = before.fieldStarts

/-- Every attribute set holds attribute objects only. -/
def ScreenBuffer.HoldsObjects (screen : ScreenBuffer) : Prop :=
  ∀ key set, screen.extendedAttributes key = some set → set.allWrapped = true

namespace DataStreamParser

variable {parser : DataStreamParser}

/-- Fewer than two operands are left in the record for such an order. -/
theorem processByte_truncated {parser : DataStreamParser} {order : UInt8}
    {operands : List UInt8} (before : Before (order :: operands) parser)
    (aborts : abortsWrite order = true) (short : operands.length < 2) :
    ∃ errMsg, isFatalError errMsg = false ∧ isRollbackOnlyError errMsg = true ∧
      processByte parser = .error (.parseError errMsg)
        { parser with parserPos := parser.parserPos + 1 } := by
  have here : parser.At (order :: operands) := ⟨[], by rw [before.split]; simp⟩
  have left : ({ parser with
      parserPos := parser.parserPos + 1 } : DataStreamParser).remaining =
        operands.length := by
    have lengths := congrArg List.length before.split
    simp only [List.length_drop, List.length_cons] at lengths
    simp only [remaining]
    omega
  have few : operands.length = 0 ∨ operands.length = 1 := by omega
  have raises : ∀ {handler : ParserM Unit} {errMsg : String},
      orderHandlers order = some handler →
      handler { parser with parserPos := parser.parserPos + 1 } =
        .error (.parseError errMsg) { parser with
          parserPos := parser.parserPos + 1 } →
      processByte parser = .error (.parseError errMsg)
        { parser with parserPos := parser.parserPos + 1 } := by
    intro handler errMsg found raised
    rw [processByte_run here.head]
    unfold dispatch
    rw [found]
    exact run_bind_error raised
  simp only [abortsWrite, List.mem_cons, List.not_mem_nil, or_false,
    decide_eq_true_eq] at aborts
  rcases aborts with rfl | rfl | rfl
  · refine ⟨s!"Incomplete SBA order: need 2 address bytes, have {operands.length}",
      ?_, ?_, raises rfl ?_⟩
    · rcases few with count | count <;> rw [count] <;> decide
    · rcases few with count | count <;> rw [count] <;> decide
    · unfold handleSba
      rw [run_get_bind, left, if_pos short]
      rfl
  · refine ⟨"Incomplete SA order", by decide, by decide, raises rfl ?_⟩
    unfold handleSa
    rw [run_get_bind, left, if_pos short]
    rfl
  · refine ⟨_, ?_, ?_, raises rfl
      (run_bind_error (validateMinData_short (left.trans_lt short)))⟩
    · rw [left]
      rcases few with count | count <;> rw [count] <;> decide
    · rw [left]
      rcases few with count | count <;> rw [count] <;> decide

theorem parseRound_aborts {order : UInt8} {operands : List UInt8}
    (before : Before (order :: operands) parser) (aborts : abortsWrite order = true)
    (short : operands.length < 2) (snapshot : Option ScreenSnapshot) :
    ∃ after, parseRound snapshot parser = .ok (some .rolledBack) after := by
  obtain ⟨errMsg, notFatal, rollback, raised⟩ := processByte_truncated before aborts short
  rw [parseRound_run, if_pos before.hasMore, raised]
  simp only
  rw [handleOrderError_run, if_neg (by simp [notFatal]), if_pos rollback]
  exact ⟨_, rfl⟩

/-- Whatever the snapshot is, the next round leaves the parser before these bytes. -/
def PassesTo (bytes : List UInt8) (parser : DataStreamParser) : Prop :=
  ∃ after, Before bytes after ∧ after.pos = after.parserPos ∧
    ∀ snapshot, parseRound snapshot parser = .ok none after

theorem passesTo_of_ok {byte : UInt8} {operands bytes : List UInt8}
    {after : DataStreamParser} (before : Before (byte :: operands) parser)
    (ran : processByte parser = .ok () after) (mirrored : after.pos = after.parserPos)
    (split : after.data.drop after.parserPos = bytes) : PassesTo bytes parser := by
  have progress := processByte_progress before.positioned before.hasMore
  have kept : KeepsValid parser.screen _ _ :=
    HandlerSteps.keepsValid (processByte_steps parser)
  rw [ran] at progress kept
  refine ⟨after, ⟨(kept ⟨before.valid, rfl, rfl⟩).1, progress.2.1, split⟩, mirrored, ?_⟩
  intro snapshot
  rw [parseRound_run, if_pos before.hasMore, ran]

/-- An error that is skipped takes one byte with it; behind the last byte the reader has
to be where its mirror is. -/
theorem passesTo_of_error {order : UInt8} {operands : List UInt8} {errMsg : String}
    (before : Before (order :: operands) parser)
    (last : operands = [] → parser.pos = parser.parserPos)
    (notFatal : isFatalError errMsg = false)
    (skips : isRollbackOnlyError errMsg = false)
    (raised : processByte parser =
      .error (.parseError errMsg) { parser with parserPos := parser.parserPos + 1 }) :
    PassesTo (operands.drop 1) parser := by
  have lengths := congrArg List.length before.split
  simp only [List.length_drop, List.length_cons] at lengths
  have next : (skipped { parser with parserPos := parser.parserPos + 1 }).parserPos =
      parser.parserPos + 1 + min 1 operands.length := by
    unfold skipped
    dsimp only
    cases operands with
    | nil =>
        simp only [List.length_nil] at lengths ⊢
        rw [if_neg (by omega), last rfl]
        omega
    | cons first rest =>
        simp only [List.length_cons] at lengths ⊢
        rw [if_pos (by omega)]
        omega
  have split : parser.data.drop (parser.parserPos + 1) = operands := by
    rw [← List.drop_drop, before.split]
    rfl
  refine ⟨skipped { parser with parserPos := parser.parserPos + 1 },
    ⟨before.valid, ⟨Nat.le_refl _, ?_⟩, ?_⟩, rfl, ?_⟩
  · rw [next]
    show _ ≤ parser.data.length
    omega
  · rw [next]
    show parser.data.drop _ = _
    rw [← List.drop_drop, split]
    cases operands with
    | nil => rfl
    | cons first rest =>
        rw [List.length_cons, Nat.min_eq_left (Nat.le_add_left 1 _)]
  · intro snapshot
    rw [parseRound_run, if_pos before.hasMore, raised]
    simp only
    rw [handleOrderError_run, if_neg (by simp [notFatal]), if_neg (by simp [skips])]

/-- MF takes pairs while there are any. -/
theorem modifyFieldPairs_ends {target : Nat × Nat} {fuel : Nat}
    (mirrored : parser.pos ≤ parser.parserPos)
    (aligned : parser.pos = parser.parserPos ∨ 2 ≤ parser.remaining)
    (enough : parser.remaining ≤ 2 * fuel + 1) :
    ∃ after, modifyFieldPairs target fuel parser = .ok () after ∧
      after.data = parser.data ∧
      after.parserPos = parser.parserPos + 2 * (parser.remaining / 2) := by
  induction fuel generalizing parser with
  | zero =>
      refine ⟨parser, rfl, rfl, ?_⟩
      omega
  | succ fuel ih =>
      unfold modifyFieldPairs
      rw [run_get_bind]
      unfold remaining at aligned enough
      by_cases done : parser.data.length ≤ parser.pos + 1
      · rw [if_pos done]
        refine ⟨parser, rfl, rfl, ?_⟩
        unfold remaining
        omega
      · rw [if_neg done]
        obtain ⟨attrType, first⟩ : ∃ byte, parser.data[parser.parserPos]? = some byte :=
          ⟨_, List.getElem?_eq_getElem (by omega)⟩
        obtain ⟨attrValue, second⟩ :
            ∃ byte, parser.data[parser.parserPos + 1]? = some byte :=
          ⟨_, List.getElem?_eq_getElem (by omega)⟩
        rw [run_bind_ok (readByte_run first mirrored),
          run_bind_ok (readByte_run second (Nat.le_refl _)),
          run_bind_ok (rfl : modifyScreen _ _ = .ok () _)]
        obtain ⟨after, ran, data, ends⟩ := @ih { parser.read 2 with
          screen := parser.screen.setExtendedAttributeSfe attrType attrValue
            (some target) } (Nat.le_refl _) (.inl rfl) (by
              show parser.data.length - (parser.parserPos + 2) ≤ _
              omega)
        refine ⟨after, ran, data, ?_⟩
        have there : after.parserPos = parser.parserPos + 2 +
            2 * ((parser.data.length - (parser.parserPos + 2)) / 2) := ends
        unfold remaining
        omega

theorem withMessage_run {message : DataStreamParser → String} {byte : UInt8}
    (here : parser.data[parser.parserPos]? = some byte)
    (mirrored : parser.pos ≤ parser.parserPos) :
    withMessage message readByte parser = .ok byte (parser.read 1) :=
  run_tryCatch_ok (readByte_run here mirrored)

theorem readSfePairs_ends {count : Nat} (mirrored : parser.pos ≤ parser.parserPos)
    (short : parser.remaining < 2 * count) (baseAttrSet : Bool) :
    ∃ set after, readSfePairs count baseAttrSet parser = .ok set after ∧
      after.data = parser.data ∧
      after.parserPos = parser.parserPos + 2 * (parser.remaining / 2) := by
  induction count generalizing parser baseAttrSet with
  | zero => omega
  | succ count ih =>
      unfold readSfePairs
      rw [run_get_bind]
      by_cases done : parser.remaining < 2
      · rw [if_pos done]
        refine ⟨baseAttrSet, parser, rfl, rfl, ?_⟩
        omega
      · rw [if_neg done]
        unfold remaining at short done
        obtain ⟨attrType, first⟩ : ∃ byte, parser.data[parser.parserPos]? = some byte :=
          ⟨_, List.getElem?_eq_getElem (by omega)⟩
        obtain ⟨attrValue, second⟩ :
            ∃ byte, parser.data[parser.parserPos + 1]? = some byte :=
          ⟨_, List.getElem?_eq_getElem (by omega)⟩
        rw [run_bind_ok (withMessage_run first mirrored),
          run_bind_ok (withMessage_run second (Nat.le_refl _)),
          run_bind_ok (rfl : modifyScreen _ _ = .ok () _)]
        obtain ⟨set, after, ran, data, ends⟩ := @ih { parser.read 2 with
          screen := parser.screen.applySfePair attrType attrValue } (Nat.le_refl _) (by
            show parser.data.length - (parser.parserPos + 2) < _
            omega) (baseAttrSet || attrType == 0xC0)
        refine ⟨set, after, ran, data, ?_⟩
        have there : after.parserPos = parser.parserPos + 2 +
            2 * ((parser.data.length - (parser.parserPos + 2)) / 2) := ends
        unfold remaining
        omega

/-- An order whose handler returns, and has read this far. -/
theorem passesTo_of_handler {order : UInt8} {operands : List UInt8}
    {handler : ParserM Unit} {after : DataStreamParser} {count : Nat}
    (before : Before (order :: operands) parser)
    (found : orderHandlers order = some handler)
    (ran : handler { parser with parserPos := parser.parserPos + 1 } = .ok () after)
    (data : after.data = parser.data)
    (moved : after.parserPos = parser.parserPos + 1 + count) :
    PassesTo (operands.drop count) parser := by
  have here : parser.At (order :: operands) := ⟨[], by rw [before.split]; simp⟩
  apply passesTo_of_ok before ((processByte_run here.head).trans
    (dispatch_handled found ran)) rfl
  show after.data.drop after.parserPos = _
  rw [data, moved, ← List.drop_drop, ← List.drop_drop, before.split]
  rfl

/-- An order whose handler finds less than it needs. -/
theorem passesTo_of_short {order : UInt8} {operands : List UInt8}
    {handler : ParserM Unit} {errMsg : String}
    (before : Before (order :: operands) parser)
    (last : operands = [] → parser.pos = parser.parserPos)
    (found : orderHandlers order = some handler)
    (raised : handler { parser with parserPos := parser.parserPos + 1 } =
      .error (.parseError errMsg) { parser with parserPos := parser.parserPos + 1 })
    (notFatal : isFatalError errMsg = false)
    (skips : isRollbackOnlyError errMsg = false) :
    PassesTo (operands.drop 1) parser := by
  have here : parser.At (order :: operands) := ⟨[], by rw [before.split]; simp⟩
  apply passesTo_of_error before last notFatal skips
  exact (processByte_run here.head).trans (dispatch_failed found raised)

theorem before_remaining {order : UInt8} {operands : List UInt8}
    (before : Before (order :: operands) parser) :
    ({ parser with parserPos := parser.parserPos + 1 } : DataStreamParser).remaining =
      operands.length := by
  have lengths := congrArg List.length before.split
  simp only [List.length_drop, List.length_cons] at lengths
  simp only [remaining]
  omega

theorem validateMinData_lacks {order : UInt8} {operands : List UInt8} {operation : String}
    {count : Nat} {rest : Unit → ParserM Unit} (before : Before (order :: operands) parser)
    (few : operands.length < count) :
    (validateMinData operation count >>= rest)
        { parser with parserPos := parser.parserPos + 1 } =
      .error (.parseError
        s!"Incomplete {operation} order: need {count} bytes, have {operands.length}")
        { parser with parserPos := parser.parserPos + 1 } := by
  have left := before_remaining before
  rw [← left]
  exact run_bind_error (validateMinData_short (left.trans_lt few))

/-- Behind the order the record goes on exactly when there are operands. -/
theorem hasMore_behind {order : UInt8} {operands : List UInt8}
    (before : Before (order :: operands) parser) :
    ({ parser with parserPos := parser.parserPos + 1 } : DataStreamParser).hasMore =
      decide (0 < operands.length) := by
  have left := before_remaining before
  simp only [remaining] at left
  simp only [hasMore, decide_eq_decide]
  omega

theorem passesTo_mfPairs {operands : List UInt8} (before : Before (0x2C :: operands) parser)
    (odd : operands.length % 2 = 1) : PassesTo (leftover 0x2C operands) parser := by
  by_cases few : operands.length < 2
  · obtain ⟨byte, rfl⟩ : ∃ byte, operands = [byte] :=
      List.length_eq_one_iff.mp (by omega)
    have one : [byte].length = 1 := rfl
    refine passesTo_of_short before (fun none => by cases none)
      (rfl : orderHandlers 0x2C = some handleMf) (validateMinData_lacks before few) ?_ ?_
    · rw [one]
      decide
    · rw [one]
      decide
  · have left := before_remaining before
    have enough : ({ parser with parserPos := parser.parserPos + 1 } :
        DataStreamParser).remaining ≤ 2 * parser.data.length + 1 := by
      simp only [remaining]
      omega
    obtain ⟨after, ran, data, ends⟩ := @modifyFieldPairs_ends
      { parser with parserPos := parser.parserPos + 1 }
      ({ parser with parserPos := parser.parserPos + 1 } :
        DataStreamParser).resolveFieldStartPosition _
      (Nat.le_succ_of_le before.positioned.1) (.inr (by rw [left]; omega)) enough
    have valid : validateMinData "MF" 2 { parser with parserPos := parser.parserPos + 1 } =
        .ok () { parser with parserPos := parser.parserPos + 1 } := by
      unfold validateMinData
      rw [run_get_bind, if_neg (by rw [left]; exact few)]
      rfl
    have handled : handleMf { parser with parserPos := parser.parserPos + 1 } =
        .ok () after := by
      unfold handleMf
      rw [run_bind_ok valid, run_get_bind]
      exact ran
    rw [left] at ends
    unfold leftover
    rw [if_neg (by decide), if_neg (by decide), if_pos rfl, if_neg few]
    exact passesTo_of_handler before (rfl : orderHandlers 0x2C = some handleMf) handled
      data ends

/-- SFE without its count returns. -/
theorem passesTo_sfe (before : Before [0x29] parser) :
    PassesTo (leftover 0x29 []) parser := by
  have handled : handleSfe { parser with parserPos := parser.parserPos + 1 } =
      .ok () { parser with parserPos := parser.parserPos + 1 } := by
    unfold handleSfe
    rw [run_get_bind]
    simp only [hasMore_behind before]
    rfl
  exact passesTo_of_handler before (rfl : orderHandlers 0x29 = some handleSfe) handled
    rfl (rfl : _ = parser.parserPos + 1 + 0)

/-- SFE reads its count and the pairs that are there, and then makes a field. -/
theorem handleSfe_short {count : UInt8} {operands : List UInt8}
    (before : Before (0x29 :: count :: operands) parser)
    (few : operands.length < 2 * count.toNat) :
    ∃ after, handleSfe { parser with parserPos := parser.parserPos + 1 } = .ok () after ∧
      after.data = parser.data ∧
      after.parserPos = parser.parserPos + 1 + (1 + 2 * (operands.length / 2)) := by
  have here : ({ parser with parserPos := parser.parserPos + 1 } :
      DataStreamParser).At (count :: operands) := by
    have whole : parser.At (0x29 :: count :: operands) :=
      ⟨[], by rw [before.split]; simp⟩
    exact whole.tail rfl rfl
  have left : (({ parser with parserPos := parser.parserPos + 1 } :
      DataStreamParser).read 1).remaining = operands.length := by
    have behind := before_remaining before
    simp only [remaining, List.length_cons, DataStreamParser.read] at behind ⊢
    omega
  obtain ⟨set, after, ran, data, ends⟩ := @readSfePairs_ends
    (({ parser with parserPos := parser.parserPos + 1 } : DataStreamParser).read 1)
    count.toNat (Nat.le_refl _) (by rw [left]; exact few) false
  rw [left] at ends
  obtain ⟨final, handled, sameData, samePos⟩ : ∃ final,
      handleSfe { parser with parserPos := parser.parserPos + 1 } = .ok () final ∧
        final.data = after.data ∧ final.parserPos = after.parserPos := by
    have more : ({ parser with parserPos := parser.parserPos + 1 } :
        DataStreamParser).hasMore = true := by
      rw [hasMore_behind before]
      exact decide_eq_true (Nat.succ_pos _)
    unfold handleSfe
    rw [run_get_bind]
    simp only [more, Bool.not_true, Bool.false_eq_true, if_false]
    rw [run_bind_ok (withMessage_at here (Nat.le_succ_of_le before.positioned.1)),
      run_bind_ok ran]
    cases set with
    | true => exact ⟨_, rfl, rfl, rfl⟩
    | false => exact ⟨_, rfl, rfl, rfl⟩
  refine ⟨final, handled, sameData.trans data, ?_⟩
  rw [samePos, ends]
  simp only [DataStreamParser.read]
  omega

theorem passesTo_sfePairs {count : UInt8} {operands : List UInt8}
    (before : Before (0x29 :: count :: operands) parser)
    (few : operands.length < 2 * count.toNat) :
    PassesTo (leftover 0x29 (count :: operands)) parser := by
  obtain ⟨after, handled, data, moved⟩ := handleSfe_short before few
  have passes := passesTo_of_handler before
    (rfl : orderHandlers 0x29 = some handleSfe) handled data moved
  rw [Nat.add_comm 1, List.drop_succ_cons] at passes
  exact passes

/-- A truncated order that does not abort leaves what is left over to the next round. -/
theorem passesTo_leftover {order : UInt8} {operands : List UInt8}
    (before : Before (order :: operands) parser)
    (last : operands = [] → parser.pos = parser.parserPos)
    (truncated : Truncated order operands) (other : abortsWrite order = false) :
    PassesTo (leftover order operands) parser := by
  cases truncated with
  | sba short => cases other
  | sa short => cases other
  | eua short => cases other
  | sf =>
      exact passesTo_of_short before last (rfl : orderHandlers 0x1D = some handleSf)
        (validateMinData_lacks before (by decide)) (by decide) (by decide)
  | ge =>
      exact passesTo_of_short before last (rfl : orderHandlers 0x08 = some handleGe)
        (validateMinData_lacks before (by decide)) (by decide) (by decide)
  | ra few =>
      have counts : operands.length = 0 ∨ operands.length = 1 ∨ operands.length = 2 := by
        omega
      refine passesTo_of_short before last (rfl : orderHandlers 0x3C = some handleRa)
        (validateMinData_lacks before few) ?_ ?_
      · rcases counts with count | count | count <;> rw [count] <;> decide
      · rcases counts with count | count | count <;> rw [count] <;> decide
  | mf =>
      exact passesTo_of_short before last (rfl : orderHandlers 0x2C = some handleMf)
        (validateMinData_lacks before (by decide)) (by decide) (by decide)
  | mfPairs odd => exact passesTo_mfPairs before odd
  | sfe => exact passesTo_sfe before
  | sfePairs few => exact passesTo_sfePairs before few

theorem skipStructuredField_ended (beyond : parser.data[parser.parserPos]? = none) :
    skipStructuredField parser = .ok () { parser with pos := parser.parserPos } := by
  have start : (if parser.data[parser.parserPos]? = some 0x88 then parser.parserPos + 1
      else parser.parserPos) = parser.parserPos := by
    rw [beyond]
    rfl
  have finish : structuredFieldEnd parser.data parser.parserPos = parser.parserPos := by
    unfold structuredFieldEnd
    rw [beyond]
  have skip : skipStructuredField parser =
      .ok () { parser with
        parserPos := structuredFieldEnd parser.data
          (if parser.data[parser.parserPos]? = some 0x88 then parser.parserPos + 1
            else parser.parserPos)
        pos := structuredFieldEnd parser.data
          (if parser.data[parser.parserPos]? = some 0x88 then parser.parserPos + 1
            else parser.parserPos) } := rfl
  rw [skip, start, finish]

/-- A structured field without its header is stepped over. -/
theorem passesTo_structuredField (before : Before [0x88] parser) :
    PassesTo [] parser := by
  have left := before_remaining before
  have beyond : parser.data[parser.parserPos + 1]? = none := by
    apply List.getElem?_eq_none
    simp only [remaining, List.length_nil] at left
    omega
  have handled : handleStructuredField { parser with parserPos := parser.parserPos + 1 } =
      .ok () { parser with
        parserPos := parser.parserPos + 1
        pos := parser.parserPos + 1 } := by
    unfold handleStructuredField
    rw [run_get_bind]
    simp only [beyond]
    rw [if_neg (by simp)]
    unfold handleStructuredField.readHeader
    rw [run_get_bind, if_pos (by rw [left]; decide)]
    exact skipStructuredField_ended beyond
  exact passesTo_of_handler before (rfl : orderHandlers 0x88 = some handleStructuredField)
    handled rfl (rfl : _ = parser.parserPos + 1 + 0)

theorem passesTo_scs (before : Before [0x04] parser)
    (mirrored : parser.pos = parser.parserPos) : PassesTo [] parser := by
  have raised : handleScs { parser with parserPos := parser.parserPos + 1 } =
      .error (.parseError "Incomplete SCS order")
        { parser with parserPos := parser.parserPos + 1 } := by
    unfold handleScs
    rw [run_get_bind]
    simp only [hasMore_behind before]
    rfl
  exact passesTo_of_short before (fun _ => mirrored)
    (rfl : orderHandlers 0x04 = some handleScs) raised (by decide) (by decide)

/-- A byte that ends the record is handled or skipped, unless it aborts. -/
theorem passes_last {byte : UInt8} (before : Before [byte] parser)
    (mirrored : parser.pos = parser.parserPos) (other : abortsWrite byte = false) :
    ∃ after, Before [] after ∧ ∀ snapshot, parseRound snapshot parser = .ok none after := by
  have passed : PassesTo [] parser →
      ∃ after, Before [] after ∧
        ∀ snapshot, parseRound snapshot parser = .ok none after := by
    rintro ⟨after, reached, -, rounds⟩
    exact ⟨after, reached, rounds⟩
  have item : ∀ item : Item, item.encode = [byte] → item.WellFormed →
      ∃ after, Before [] after ∧
        ∀ snapshot, parseRound snapshot parser = .ok none after := by
    intro item encoded formed
    have start : Before (item.encode ++ []) parser := by
      rw [encoded]
      exact before
    have followed : item = .data 0x40 → ([] : List UInt8).head? ≠ some 0x01 := by
      intro _ same
      cases same
    exact ⟨item.after parser, (start.item formed followed none).2,
      fun snapshot => (start.item formed followed snapshot).1⟩
  have truncated : Truncated byte [] → leftover byte [] = [] →
      ∃ after, Before [] after ∧
        ∀ snapshot, parseRound snapshot parser = .ok none after := by
    intro cut nothing
    have left := passesTo_leftover before (fun _ => mirrored) cut other
    rw [nothing] at left
    exact passed left
  cases found : orderHandlers byte with
  | none => exact item (.data byte) rfl (.inl found)
  | some handler =>
      unfold orderHandlers at found
      split at found <;> cases found
      · cases other
      · exact truncated .sf rfl
      · exact truncated .mf rfl
      · exact truncated (.ra (by decide)) rfl
      · cases other
      · exact truncated .ge rfl
      · exact item .ic rfl trivial
      · exact item .pt rfl trivial
      · exact truncated .sfe rfl
      · cases other
      · exact passed (passesTo_structuredField before)
      · exact item (.data 0x40) rfl (.inr rfl)
      · exact passed (passesTo_scs before mirrored)

variable {snapshot : Option ScreenSnapshot} {order : UInt8} {operands : List UInt8}

/-- A round that goes on leaves the loop where it was. -/
theorem iterate_round {fuel : Nat} {after : DataStreamParser}
    (positioned : Positioned parser) (enough : loopMeasure parser < fuel)
    (round : parseRound snapshot parser = .ok none after) :
    iterate (parseRound snapshot) fuel parser =
        iterate (parseRound snapshot) fuel after ∧
      loopMeasure after < fuel := by
  have progress := parseRound_progress snapshot
  exact ⟨iterate_unfold progress positioned enough round,
    (progress.lowers positioned round).trans enough⟩

theorem iterate_last {fuel : Nat} {exit : LoopExit} {after : DataStreamParser}
    (enough : loopMeasure parser < fuel)
    (round : parseRound snapshot parser = .ok (some exit) after) :
    iterate (parseRound snapshot) fuel parser = .ok (some exit) after := by
  obtain ⟨less, rfl⟩ : ∃ less, fuel = less + 1 := ⟨fuel - 1, by omega⟩
  rw [iterate_succ, round]

theorem leftover_nil (order : UInt8) : leftover order [] = [] := by
  unfold leftover
  split
  · rfl
  · split
    · rfl
    · split
      · rfl
      · rfl

theorem leftover_lone (truncated : Truncated order operands) :
    leftover order operands = [] ∨ ∃ byte, leftover order operands = [byte] := by
  have short : (leftover order operands).length ≤ 1 := by
    have odd : ∀ bytes : List UInt8, (oddByte bytes).length ≤ 1 := by
      intro bytes
      unfold oddByte
      rw [List.length_drop]
      omega
    unfold leftover
    split
    · cases truncated with
      | ra few =>
          rw [List.length_drop]
          omega
      | _ => contradiction
    · split
      · exact odd _
      · split
        · split
          · exact Nat.zero_le 1
          · exact odd _
        · exact Nat.zero_le 1
  match shape : leftover order operands with
  | [] => exact .inl rfl
  | [byte] => exact .inr ⟨byte, rfl⟩
  | _ :: _ :: _ =>
      rw [shape] at short
      simp only [List.length_cons] at short
      omega

/-- The loop ends the same way whatever the snapshot is. -/
theorem parseLoop_passed (before : Before (order :: operands) parser)
    (mirrored : parser.pos = parser.parserPos) (truncated : Truncated order operands)
    (never : reachesAbort order operands = false) :
    ∃ after, ∀ snapshot, parseLoop snapshot parser = .ok .finished after := by
  unfold reachesAbort at never
  obtain ⟨other, spared⟩ := Bool.or_eq_false_iff.mp never
  obtain ⟨middle, reached, middleMirrored, rounds⟩ :=
    passesTo_leftover before (fun _ => mirrored) truncated other
  obtain ⟨last, ended, through⟩ : ∃ last, Before [] last ∧
      ∀ snapshot fuel, loopMeasure middle < fuel →
        iterate (parseRound snapshot) fuel middle =
            iterate (parseRound snapshot) fuel last ∧
          loopMeasure last < fuel := by
    rcases leftover_lone truncated with none | ⟨byte, one⟩
    · rw [none] at reached
      exact ⟨middle, reached, fun _ _ enough => ⟨rfl, enough⟩⟩
    · rw [one] at reached spared
      have spares : abortsWrite byte = false := by simpa using spared
      obtain ⟨last, ended, next⟩ := passes_last reached middleMirrored spares
      exact ⟨last, ended, fun snapshot _ enough =>
        iterate_round reached.positioned enough (next snapshot)⟩
  have finished : last.hasMore = false := by
    have lengths := congrArg List.length ended.split
    simp only [List.length_drop, List.length_nil] at lengths
    simp only [hasMore, decide_eq_false_iff_not]
    omega
  refine ⟨{ last with pos := max last.pos last.data.length }, fun snapshot => ?_⟩
  obtain ⟨first, enough⟩ := iterate_round before.positioned
    (loopMeasure_lt_roundLimit parser) (rounds snapshot)
  obtain ⟨second, enough⟩ := through snapshot _ enough
  have round : parseRound snapshot last = .ok (some .finished) last := by
    rw [parseRound_run, finished]
    simp
  rw [parseLoop_run, first, second, iterate_last enough round]

theorem data_afterItems (items : List Item) (parser : DataStreamParser) :
    (afterItems items parser).data = parser.data := by
  induction items generalizing parser with
  | nil => rfl
  | cons item items ih => exact ih (item.after parser)

theorem parseLoop_aborts {items : List Item}
    (before : Before (encodeItems items ++ order :: operands) parser)
    (framed : Framed items (order :: operands)) (truncated : Truncated order operands)
    (reaches : reachesAbort order operands = true) (snapshot : Option ScreenSnapshot) :
    ∃ after, parseLoop snapshot parser = .ok .rolledBack after := by
  obtain ⟨same, reached⟩ := before.items framed snapshot
    (loopMeasure_lt_roundLimit parser)
  have enough : loopMeasure (afterItems items parser) < roundLimit parser.data.length := by
    have data : (afterItems items parser).data = parser.data := data_afterItems items parser
    rw [← data]
    exact loopMeasure_lt_roundLimit _
  by_cases aborts : abortsWrite order = true
  · have short : operands.length < 2 := by
      cases truncated with
      | sba short => exact short
      | sa short => exact short
      | eua short => exact short
      | _ => exact absurd aborts (by decide)
    obtain ⟨after, round⟩ := parseRound_aborts reached aborts short snapshot
    refine ⟨after, ?_⟩
    rw [parseLoop_run, same, iterate_last enough round]
  · have other : abortsWrite order = false := Bool.eq_false_iff.mpr aborts
    unfold reachesAbort at reaches
    rw [other, Bool.false_or] at reaches
    rcases leftover_lone truncated with none | ⟨byte, one⟩
    · rw [none] at reaches
      cases reaches
    · have some : operands ≠ [] := by
        rintro rfl
        rw [leftover_nil] at one
        cases one
      obtain ⟨middle, left, -, rounds⟩ := passesTo_leftover reached
        (fun none => absurd none some) truncated other
      rw [one] at left reaches
      obtain ⟨next, enough⟩ :=
        iterate_round reached.positioned enough (rounds snapshot)
      obtain ⟨after, round⟩ := parseRound_aborts left (by simpa using reaches)
        (by decide) snapshot
      refine ⟨after, ?_⟩
      rw [parseLoop_run, same, next, iterate_last enough round]

/-- MF with its pairs, where there are any. -/
def mfOrder (pairs : List (UInt8 × UInt8)) : List UInt8 :=
  if pairs = [] then [] else 0x2C :: encodePairs pairs

/-- Cutting the order here takes its write back, whatever items and MF pairs come before
it: the arrays, the attribute sets and the field starts stay as they were on every screen
whose attribute sets hold attribute objects only, and on no other.  MF leaves one byte at
most to what follows it. -/
def TakesWriteBack (order : UInt8) (operands : List UInt8) : Prop :=
  ∀ (parser : DataStreamParser) (command wcc : UInt8) (items : List Item)
    (pairs : List (UInt8 × UInt8)),
    parser.screen.Valid → (isWriteCommand command || isEraseWriteCommand command) = true →
      (pairs ≠ [] → operands = []) →
      Framed items (mfOrder pairs ++ order :: operands) →
        (SameArrays parser.screen
            (finalState (parse (command :: wcc ::
              (encodeItems items ++ (mfOrder pairs ++ order :: operands))) 0x00
                parser)).screen ↔
          parser.screen.HoldsObjects)

/-- A write that meets the abort is taken back. -/
theorem sameArrays_iff_of_reachesAbort (valid : parser.screen.Valid) {command : UInt8}
    (write : (isWriteCommand command || isEraseWriteCommand command) = true)
    (wcc : UInt8) {items : List Item} (framed : Framed items (order :: operands))
    (truncated : Truncated order operands)
    (reaches : reachesAbort order operands = true) :
    SameArrays parser.screen
        (finalState (parse (command :: wcc :: (encodeItems items ++ order :: operands))
          0x00 parser)).screen ↔
      parser.screen.HoldsObjects := by
  generalize written : encodeItems items ++ order :: operands = rest
  have aborted : Aborted (parse (command :: wcc :: rest) 0x00 parser) := by
    rw [parse_tn3270]
    generalize decide (bulkThreshold < (command :: wcc :: rest).length) = bulkMode
    have started : Before (encodeItems items ++ order :: operands)
        (startWrite wcc (prepare bulkMode (command :: wcc :: rest) parser)) := by
      rw [written]
      exact startWrite_before valid bulkMode command wcc rest
    obtain ⟨after, looped⟩ := parseLoop_aborts started framed truncated reaches
      (some (prepare bulkMode (command :: wcc :: rest) parser).screen.snapshot)
    rw [parseRecord_write write rfl rfl, run_tryCatch_ok looped]
    exact .rolledBack _
  have left := parse_aborted valid write aborted
  rw [ScreenBuffer.HoldsObjects, ← ScreenBuffer.reloadExtended_eq_iff]
  constructor
  · exact fun same => left.extended.symm.trans same.extended
  · exact fun reloaded =>
      { buffer := left.buffer
        attributes := left.attributes
        extended := left.extended.trans reloaded
        fieldStarts := left.fieldStarts }

/-- Otherwise the screen that is left does not depend on what the write has erased. -/
theorem parse_passed (valid : parser.screen.Valid) {command : UInt8}
    (write : (isWriteCommand command || isEraseWriteCommand command) = true)
    (wcc : UInt8) (truncated : Truncated order operands)
    (never : reachesAbort order operands = false) :
    ∃ screen, ∀ other : DataStreamParser,
      (∀ bulkMode, startWrite wcc (prepare bulkMode (command :: wcc :: order :: operands)
          other) =
        startWrite wcc (prepare bulkMode (command :: wcc :: order :: operands) parser)) →
      (finalState (parse (command :: wcc :: order :: operands) 0x00 other)).screen =
        screen := by
  generalize long : decide (bulkThreshold < (command :: wcc :: order :: operands).length) =
    bulkMode
  obtain ⟨after, looped⟩ := parseLoop_passed
    (startWrite_before valid bulkMode command wcc (order :: operands)) rfl truncated never
  refine ⟨(resume bulkMode after).screen, fun other same => ?_⟩
  rw [parse_tn3270, long, parseRecord_write write rfl rfl, same,
    run_tryCatch_ok (looped _)]
  rfl

theorem truncated_mf (pairs : List (UInt8 × UInt8)) (order : UInt8) :
    Truncated 0x2C (encodePairs pairs ++ [order]) ∧
      (pairs ≠ [] →
        reachesAbort 0x2C (encodePairs pairs ++ [order]) = reachesAbort order []) := by
  have width : (encodePairs pairs).length = 2 * pairs.length := by
    unfold encodePairs
    induction pairs with
    | nil => rfl
    | cons pair pairs ih =>
        rw [List.flatMap_cons, List.length_append, ih, List.length_cons]
        simp only [List.length_cons, List.length_nil]
        omega
  have length : (encodePairs pairs ++ [order]).length = 2 * pairs.length + 1 := by
    rw [List.length_append, width]
    rfl
  constructor
  · apply Truncated.mfPairs
    rw [length]
    omega
  · intro some
    have positive : 0 < pairs.length := List.length_pos_iff.mpr some
    have odd : oddByte (encodePairs pairs ++ [order]) = [order] := by
      unfold oddByte
      rw [length, show (2 * pairs.length + 1) / 2 = pairs.length from by omega, ← width,
        List.drop_left]
    have left : leftover 0x2C (encodePairs pairs ++ [order]) = [order] := by
      unfold leftover
      rw [if_neg (by decide), if_neg (by decide), if_pos rfl, if_neg (by omega), odd]
    unfold reachesAbort
    rw [left, leftover_nil]
    have never : abortsWrite 0x2C = false := rfl
    rw [never]
    simp

/-- An order takes its write back wherever it is cut exactly when it is SBA, SA or EUA, or
leaves one of their codes over. -/
theorem takesWriteBack_iff (truncated : Truncated order operands) :
    TakesWriteBack order operands ↔ reachesAbort order operands = true := by
  constructor
  · intro takesBack
    by_contra other
    have never : reachesAbort order operands = false := Bool.eq_false_iff.mpr other
    obtain ⟨screen, left⟩ := parse_passed (smallParser_valid 0 0)
      (by decide : (isWriteCommand 0x01 || isEraseWriteCommand 0x01) = true) 0x40
      truncated never
    -- Two screens of which the write leaves the same.
    let full : DataStreamParser :=
      { smallParser 0 0 with
        screen := { (smallParser 0 0).screen with buffer := List.replicate 6 0xC1 } }
    have valid : full.screen.Valid :=
      { smallParser_valid 0 0 with buffer_length := rfl }
    have blank := (takesBack (smallParser 0 0) 0x01 0x40 [] [] (smallParser_valid 0 0)
      (by decide) (fun some => absurd rfl some) trivial).mpr
        (fun key set present => by cases present)
    have filled := (takesBack full 0x01 0x40 [] [] valid
      (by decide) (fun some => absurd rfl some) trivial).mpr
        (fun key set present => by cases present)
    have same : ∀ bulkMode,
        startWrite 0x40 (prepare bulkMode (0x01 :: 0x40 :: order :: operands) full) =
          startWrite 0x40 (prepare bulkMode (0x01 :: 0x40 :: order :: operands)
            (smallParser 0 0)) := by
      intro bulkMode
      cases bulkMode with
      | true => rfl
      | false => rfl
    have buffers := blank.buffer.symm.trans ((congrArg ScreenBuffer.buffer
      ((left _ fun _ => rfl).trans (left full same).symm)).trans filled.buffer)
    exact absurd buffers (by decide)
  · intro reaches parser command wcc items pairs valid write lone framed
    by_cases none : pairs = []
    · subst none
      exact sameArrays_iff_of_reachesAbort valid write wcc framed truncated reaches
    · obtain rfl := lone none
      obtain ⟨cut, sameAbort⟩ := truncated_mf pairs order
      have shape : mfOrder pairs ++ [order] = 0x2C :: (encodePairs pairs ++ [order]) := by
        unfold mfOrder
        rw [if_neg none]
        rfl
      rw [shape] at framed ⊢
      exact sameArrays_iff_of_reachesAbort valid write wcc framed cut
        ((sameAbort none).trans reaches)

/-- Half an SBA order takes its write back, a lone SA order behind MF does, and a lone SF
order does not. -/
theorem takesWriteBack_small :
    TakesWriteBack 0x11 [0x40] ∧
      SameArrays (smallParser 0 0).screen
        (finalState (parse [0x01, 0x40, 0xC1, 0x2C, 0xC0, 0x20, 0x28] 0x00
          (smallParser 0 0))).screen ∧
      ¬ TakesWriteBack 0x1D [] := by
  refine ⟨(takesWriteBack_iff (.sba (by decide))).mpr rfl, ?_, ?_⟩
  · have framed : Framed [.data 0xC1] [0x2C, 0xC0, 0x20, 0x28] :=
      ⟨.inl rfl, by simp, trivial⟩
    have takesBack := (takesWriteBack_iff (.sa (by decide) : Truncated 0x28 [])).mpr rfl
    exact (takesBack (smallParser 0 0) 0x01 0x40 [.data 0xC1] [(0xC0, 0x20)]
      (smallParser_valid 0 0) (by decide) (fun _ => rfl) framed).mpr
        fun key set present => by cases present
  · rw [takesWriteBack_iff .sf]
    decide

/-- A lone SF order after two bytes of data does not take the data back. -/
theorem truncatedSf_keeps_write :
    (finalState (parse [0x01, 0x40, 0xC1, 0xC2, 0x1D] 0x00
      (smallParser 0 0))).screen.buffer ≠ (smallParser 0 0).screen.buffer := by
  decide +kernel

end DataStreamParser

end Pure3270
