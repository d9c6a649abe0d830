import Pure3270.Foundations.Runs
import Pure3270.Protocol.FieldBlindness
import Pure3270.Protocol.ParserErrors
import Pure3270.Protocol.WriteRollback

/-!
# Records as lists of screen changes

The bytes at the reader tell which elementary changes the next round of the
order loop makes to the screen: the operands of an order, or as much of them as
the record holds, become a list of changes.  A whole record is then a run of
such changes, and what it does to single cells can be read off the list.
-/

namespace Pure3270

open Foundations

/-- The elementary changes of the orders, as data. -/
inductive ScreenChange where
  | setPosition (row col : Nat)
  | insertByte (byte : UInt8)
  | setAttribute (attr : UInt8)
  | setExtended (attrType attrValue : UInt8) (position : Option (Nat × Nat))
  | eraseCell (position : Nat × Nat)
  | firstInput
  | programTab
  deriving DecidableEq, Repr

namespace ScreenBuffer

def change : ScreenChange → ScreenBuffer → ScreenBuffer
  | .setPosition row col, screen => screen.setPosition row col
  | .insertByte byte, screen => screen.insertByte byte
  | .setAttribute attr, screen => screen.setAttribute attr none
  | .setExtended attrType attrValue position, screen =>
      screen.setExtendedAttributeSfe attrType attrValue position
  | .eraseCell position, screen =>
      screen.writeChar 0x40 (some position) false true false
  | .firstInput, screen => screen.moveCursorToFirstInputField
  | .programTab, screen => screen.programTab

/-- The change of a field order. -/
def startsField : ScreenChange → Bool
  | .setAttribute _ => true
  | _ => false

/-- The screen after a list of changes. -/
abbrev changes (list : List ScreenChange) (screen : ScreenBuffer) : ScreenBuffer :=
  run change list screen

/-- A data byte; nulls change nothing. -/
def dataChanges (byte : UInt8) : List ScreenChange :=
  if byte = 0x00 then [] else [.insertByte byte]

def repeatChanges (byte : UInt8) : Nat → List ScreenChange
  | 0 => []
  | count + 1 => dataChanges byte ++ repeatChanges byte count

/-- The cells that an erase from a position on does not pass over. -/
def eraseChanges : Nat → Nat × Nat → ScreenBuffer → List ScreenChange
  | 0, _, _ => []
  | count + 1, position, screen =>
      let erased := screen.eraseUnprotectedCell position
      (if screen.protectedAt position then [] else [.eraseCell position]) ++
        eraseChanges count (erased.nextCell position) erased

/-- One attribute pair. -/
def pairChanges (pair : UInt8 × UInt8) : List ScreenChange :=
  if pair.1 = 0xC0 then [.setAttribute pair.2]
  else if pair.1 ∈ [0x41, 0x42, 0x43, 0x44, 0x45, 0xC1, 0xC2] then
    [.setExtended pair.1 pair.2 none]
  else []

@[simp] theorem changes_append (first second : List ScreenChange)
    (screen : ScreenBuffer) :
    screen.changes (first ++ second) = (screen.changes first).changes second :=
  run_append first second screen

theorem changes_data (byte : UInt8) (screen : ScreenBuffer) :
    screen.changes (dataChanges byte) = screen.storeData byte := by
  unfold dataChanges storeData
  split <;> rfl

theorem changes_repeat (byte : UInt8) (count : Nat) (screen : ScreenBuffer) :
    screen.changes (repeatChanges byte count) = screen.repeatData byte count := by
  induction count generalizing screen with
  | zero => rfl
  | succ count ih => rw [repeatChanges, changes_append, changes_data, ih, repeatData]

theorem changes_erase (count : Nat) (position : Nat × Nat) (screen : ScreenBuffer) :
    screen.changes (eraseChanges count position screen) =
      screen.eraseUnprotected count position := by
  induction count generalizing position screen with
  | zero => rfl
  | succ count ih =>
      have cell : screen.changes
          (if screen.protectedAt position then [] else [.eraseCell position]) =
            screen.eraseUnprotectedCell position := by
        rw [eraseUnprotectedCell_eq]
        split <;> rfl
      rw [eraseChanges, changes_append, cell, ih, eraseUnprotected]

theorem changes_pair (pair : UInt8 × UInt8) (screen : ScreenBuffer) :
    screen.changes (pairChanges pair) = screen.applySfePair pair.1 pair.2 := by
  unfold pairChanges applySfePair
  split
  · rfl
  · split <;> rfl

theorem changes_pairs (pairs : List (UInt8 × UInt8)) (screen : ScreenBuffer) :
    screen.changes (pairs.flatMap pairChanges) = screen.applySfePairs pairs := by
  induction pairs generalizing screen with
  | nil => rfl
  | cons pair pairs ih =>
      rw [List.flatMap_cons, changes_append, changes_pair, ih]
      rfl

theorem setAttribute_fieldStarts {screen : ScreenBuffer} (valid : screen.Valid)
    (attr : UInt8) :
    (screen.setAttribute attr none).fieldStarts =
      screen.fieldStarts.insert screen.cursorAddress := by
  have inside : screen.getPosition.1 * screen.cols + screen.getPosition.2 <
      screen.size := valid.cursorAddress_lt
  unfold setAttribute
  simp only [Option.getD_none]
  rw [if_pos inside]
  split <;> rfl

theorem setAttribute_marks {screen : ScreenBuffer} (valid : screen.Valid)
    (attr : UInt8) :
    screen.cursorAddress ∈ (screen.setAttribute attr none).fieldStarts := by
  rw [setAttribute_fieldStarts valid]
  simp

end ScreenBuffer

namespace Item

open ScreenBuffer

/-- The changes of an item. -/
def changes (item : Item) (mode : AddressingMode) (fieldStart : Nat × Nat)
    (screen : ScreenBuffer) : List ScreenChange :=
  match item with
  | data byte => dataChanges byte
  | sba high low =>
      let target := screen.targetPosition (decodeAddress mode high low) mode
      [.setPosition target.1 target.2]
  | sf attr =>
      [.setAttribute attr, .setPosition screen.cursorRow (screen.cursorCol + 1)]
  | sa attrType attrValue => [.setExtended attrType attrValue (some fieldStart)]
  | sfe pairs =>
      pairs.flatMap pairChanges ++
        if pairs.any (·.1 = 0xC0) then
          [.setPosition screen.cursorRow (screen.cursorCol + 1)]
        else []
  | ra high low charToRepeat =>
      let target := screen.targetPosition (decodeAddress mode high low) mode
      repeatChanges charToRepeat (screen.cellsUpTo target) ++
        [.setPosition target.1 target.2]
  | eua high low =>
      let target := screen.targetPosition (decodeAddress mode high low) mode
      eraseChanges (screen.cellsUpTo target) screen.getPosition screen ++
        [.setPosition target.1 target.2]
  | ge graphicByte => dataChanges (DataStreamParser.geCharByte graphicByte)
  | ic => [.firstInput]
  | pt => [.programTab]

theorem changes_eq_onScreen (item : Item) (mode : AddressingMode)
    (fieldStart : Nat × Nat) {screen : ScreenBuffer} (valid : screen.Valid) :
    screen.changes (item.changes mode fieldStart screen) =
      item.onScreen mode fieldStart screen := by
  cases item with
  | data byte => exact changes_data byte screen
  | sba high low => rfl
  | sf attr =>
      show _ = screen.startField attr
      unfold startField
      simp only [SortedSet.insert_of_mem (setAttribute_marks valid attr)]
      rfl
  | sa attrType attrValue => rfl
  | sfe pairs =>
      rw [changes, changes_append, changes_pairs]
      show _ = screen.startFieldExtended pairs
      unfold startFieldExtended
      split <;> rfl
  | ra high low charToRepeat =>
      rw [changes, changes_append, changes_repeat]
      rfl
  | eua high low =>
      rw [changes, changes_append, changes_erase]
      rfl
  | ge graphicByte => exact changes_data _ screen
  | ic => rfl
  | pt => rfl

end Item

/-- The attribute pairs at the front, at most `count` of them. -/
def takePairs : Nat → List UInt8 → List (UInt8 × UInt8)
  | count + 1, attrType :: attrValue :: rest =>
      (attrType, attrValue) :: takePairs count rest
  | _, _ => []

/-- The item that a byte and what follows it stand for.  SFE takes the pairs
that are there; a truncated order is none. -/
def nextItem (byte : UInt8) (operands : List UInt8) : Option Item :=
  match byte, operands with
  | 0x11, high :: low :: _ => some (.sba high low)
  | 0x1D, attr :: _ => some (.sf attr)
  | 0x28, attrType :: attrValue :: _ => some (.sa attrType attrValue)
  | 0x29, length :: rest => some (.sfe (takePairs length.toNat rest))
  | 0x3C, high :: low :: charToRepeat :: _ => some (.ra high low charToRepeat)
  | 0x12, high :: low :: _ => some (.eua high low)
  | 0x08, graphicByte :: _ => some (.ge graphicByte)
  | 0x13, _ => some .ic
  | 0x05, _ => some .pt
  | 0x40, operands =>
      if operands.head? = some 0x01 then none else some (.data 0x40)
  | byte, _ =>
      if (DataStreamParser.orderHandlers byte).isNone then some (.data byte) else none

/-- The attribute pairs of a structured field of type 0x28, the one type that
changes the screen. -/
def fieldPairs (bytes : List UInt8) : List (UInt8 × UInt8) :=
  match bytes with
  | lengthHigh :: lengthLow :: sfType :: body =>
      let length := DataStreamParser.u16 lengthHigh lengthLow
      if body.length + 1 + 1000 < length then []
      else if sfType = 0x28 then takePairs body.length (body.take (length - 1))
      else []
  | _ => []

/-- The introducer of a structured field may be doubled. -/
def structuredPairs (bytes : List UInt8) : List (UInt8 × UInt8) :=
  fieldPairs (if bytes.head? = some 0x88 then bytes.tail else bytes)

namespace DataStreamParser

open ScreenBuffer

/-- The changes of the next round.  MF takes pairs to the end of the record. -/
def roundChanges (parser : DataStreamParser) : List ScreenChange :=
  match parser.data.drop parser.parserPos with
  | [] => []
  | byte :: operands =>
      if byte = 0x2C then
        if operands.length < 2 then []
        else
          (takePairs parser.data.length operands).map fun pair =>
            .setExtended pair.1 pair.2 (some parser.resolveFieldStartPosition)
      else if byte = 0x88 then (structuredPairs operands).flatMap pairChanges
      else
        match nextItem byte operands with
        | some item =>
            item.changes parser.addressingMode parser.resolveFieldStartPosition
              parser.screen
        | none => []

/-- The two parsers show the same screen. -/
def KeepsScreen (before after : DataStreamParser) : Prop :=
  after.screen = before.screen

instance : IsPreorder DataStreamParser KeepsScreen where
  refl _ := rfl
  trans _ _ _ left right := right.trans left

theorem readByte_keepsScreen : Within KeepsScreen readByte := by
  intro parser
  unfold readByte
  apply WithinAt.getBind
  simp only
  split
  · exact WithinAt.throw _
  · cases parser.data[parser.parserPos]? with
    | none => exact WithinAt.throw _
    | some byte => rfl

theorem swallow_keepsScreen {m : ParserM Unit} (body : Within KeepsScreen m) :
    Within KeepsScreen (swallow m) :=
  Within.tryCatch body fun _ _ => WithinAt.pure ()

theorem call_keepsScreen (made : CollaboratorCall) : Within KeepsScreen (call made) :=
  fun _ => rfl

theorem handleScs_keepsScreen : Within KeepsScreen handleScs := by
  intro parser
  unfold handleScs
  apply WithinAt.getBind
  apply WithinAt.ite
  · exact fun _ => WithinAt.throw _
  · refine fun _ => Within.bind readByte_keepsScreen (fun code state => ?_) parser
    refine WithinAt.ite (fun _ => ?_) fun _ => WithinAt.pure ()
    unfold writeToPrinter
    apply WithinAt.getBind
    cases state.printer with
    | none => exact WithinAt.pure ()
    | some printer =>
        refine Within.bind (call_keepsScreen _) (fun _ => ?_) state
        cases printer.writeScsDataRaises [code] with
        | none => exact fun _ => WithinAt.pure ()
        | some message => exact fun _ => WithinAt.throw _

theorem sfHandlers_keepsScreen {sfType : UInt8} (other : sfType ≠ 0x28)
    (data : List UInt8) : Within KeepsScreen (sfHandlers sfType data) := by
  intro parser
  unfold sfHandlers
  split
  · unfold handleBindSf
    exact WithinAt.getBind
      (WithinAt.ite (fun _ => call_keepsScreen _ parser) fun _ => WithinAt.pure ())
  · exact absurd rfl other
  · unfold handleSnaResponseSf
    exact WithinAt.getBind
      (WithinAt.ite (fun _ => call_keepsScreen _ parser) fun _ => WithinAt.pure ())
  · unfold handlePrinterStatusSf
    apply WithinAt.getBind
    cases data with
    | nil => exact WithinAt.pure ()
    | cons statusCode rest =>
        exact WithinAt.ite (fun _ => call_keepsScreen _ parser)
          fun _ => WithinAt.pure ()
  · unfold handleIndfileSf
    exact WithinAt.getBind
      (WithinAt.ite (fun _ => call_keepsScreen _ parser) fun _ => WithinAt.pure ())
  · exact WithinAt.pure ()

theorem bind_keepsScreen_error {m : ParserM α} {f : α → ParserM β} {fault : Fault}
    {parser : DataStreamParser} (raised : m parser = .error fault parser) :
    KeepsScreen parser (finalState ((m >>= f) parser)) := by
  rw [run_bind_error raised, finalState_error]
  exact refl_of KeepsScreen parser

theorem dispatch_screen {byte : UInt8} {handler : ParserM Unit}
    (found : orderHandlers byte = some handler) (parser : DataStreamParser) :
    (finalState (dispatch byte parser)).screen = (finalState (handler parser)).screen := by
  unfold dispatch
  rw [found]
  simp only
  cases outcome : handler parser with
  | ok value after =>
      rw [run_bind_ok outcome]
      rfl
  | error fault after => rw [run_bind_error outcome]

/-- An order that is cut off, a printer control, or a control code: nothing
changes. -/
theorem dispatch_none {byte : UInt8} {operands : List UInt8}
    {parser : DataStreamParser} (none : nextItem byte operands = none)
    (notMf : byte ≠ 0x2C) (notStructured : byte ≠ 0x88)
    (split : parser.data.drop parser.parserPos = operands) :
    KeepsScreen parser (finalState (dispatch byte parser)) := by
  have remains : parser.remaining = operands.length := by
    rw [← split, List.length_drop]
    rfl
  have next : parser.data[parser.parserPos]? = operands.head? := by
    rw [← split, List.head?_drop]
  cases found : orderHandlers byte with
  | none =>
      exfalso
      unfold nextItem at none
      split at none
      all_goals simp_all [orderHandlers]
  | some handler =>
      refine (dispatch_screen found parser).trans ?_
      unfold orderHandlers at found
      split at found <;> cases found
      · have short : parser.remaining < 2 := by
          rcases operands with _ | ⟨first, _ | ⟨second, rest⟩⟩
          · simp [remains]
          · simp [remains]
          · cases none
        unfold handleSba
        rw [run_get_bind, if_pos short]
        rfl
      · have short : parser.remaining < 1 := by
          cases operands with
          | nil => simp [remains]
          | cons first rest => cases none
        exact bind_keepsScreen_error (validateMinData_short short)
      · exact absurd rfl notMf
      · have short : parser.remaining < 3 := by
          rcases operands with _ | ⟨first, _ | ⟨second, _ | ⟨third, rest⟩⟩⟩
          · simp [remains]
          · simp [remains]
          · simp [remains]
          · cases none
        exact bind_keepsScreen_error (validateMinData_short short)
      · have short : parser.remaining < 2 := by
          rcases operands with _ | ⟨first, _ | ⟨second, rest⟩⟩
          · simp [remains]
          · simp [remains]
          · cases none
        exact bind_keepsScreen_error (validateMinData_short short)
      · have short : parser.remaining < 1 := by
          cases operands with
          | nil => simp [remains]
          | cons first rest => cases none
        exact bind_keepsScreen_error (validateMinData_short short)
      · cases none
      · cases none
      · have ended : parser.hasMore = false := by
          cases operands with
          | nil =>
              simp only [remaining, List.length_nil] at remains
              simp only [hasMore, decide_eq_false_iff_not]
              omega
          | cons length rest => cases none
        unfold handleSfe
        rw [run_get_bind]
        simp only [ended]
        rfl
      · have short : parser.remaining < 2 := by
          rcases operands with _ | ⟨first, _ | ⟨second, rest⟩⟩
          · simp [remains]
          · simp [remains]
          · cases none
        unfold handleSa
        rw [run_get_bind, if_pos short]
        rfl
      · exact absurd rfl notStructured
      · have control : operands.head? = some 0x01 := by
          by_contra space
          have data : nextItem 0x40 operands = some (.data 0x40) := if_neg space
          rw [data] at none
          cases none
        rw [handleDataStreamCtlOrder_eq, if_pos (next.trans control)]
        rfl
      · exact handleScs_keepsScreen parser

theorem drop_succ {parser : DataStreamParser} {byte : UInt8} {bytes : List UInt8}
    (split : parser.data.drop parser.parserPos = byte :: bytes) :
    parser.data.drop (parser.parserPos + 1) = bytes := by
  rw [← List.drop_drop, split]
  rfl

theorem remaining_eq {parser : DataStreamParser} {bytes : List UInt8}
    (split : parser.data.drop parser.parserPos = bytes) :
    parser.remaining = bytes.length := by
  rw [← split, List.length_drop]
  rfl

theorem at_of_split {parser : DataStreamParser} {bytes : List UInt8}
    (split : parser.data.drop parser.parserPos = bytes) : parser.At bytes :=
  ⟨[], by rw [split, List.append_nil]⟩

theorem readSfePairs_screen {count : Nat} {bytes : List UInt8}
    {parser : DataStreamParser} (mirrored : parser.pos ≤ parser.parserPos)
    (split : parser.data.drop parser.parserPos = bytes) (baseAttrSet : Bool) :
    ∃ after, readSfePairs count baseAttrSet parser =
        .ok (baseAttrSet || (takePairs count bytes).any (·.1 = 0xC0)) after ∧
      after.screen = parser.screen.applySfePairs (takePairs count bytes) := by
  induction count generalizing parser bytes baseAttrSet with
  | zero => exact ⟨parser, by simp [readSfePairs, takePairs]; rfl, rfl⟩
  | succ count ih =>
      have remains := remaining_eq split
      rcases bytes with _ | ⟨attrType, _ | ⟨attrValue, rest⟩⟩
      · unfold readSfePairs
        rw [run_get_bind, if_pos (by simp [remains])]
        exact ⟨parser, by simp [takePairs]; rfl, rfl⟩
      · unfold readSfePairs
        rw [run_get_bind, if_pos (by simp [remains])]
        exact ⟨parser, by simp [takePairs]; rfl, rfl⟩
      · have first := at_of_split split
        have second : (parser.read 1).At (attrValue :: rest) := first.tail rfl rfl
        have later : parser.data.drop (parser.parserPos + 2) = rest := by
          rw [← List.drop_drop, split]
          rfl
        obtain ⟨after, ran, screen⟩ := @ih rest
          { parser.read 2 with
            screen := parser.screen.applySfePair attrType attrValue }
          (Nat.le_refl _) later (baseAttrSet || attrType == 0xC0)
        refine ⟨after, ?_, screen⟩
        simp only [List.length_cons] at remains
        unfold readSfePairs
        rw [run_get_bind, if_neg (by omega),
          run_bind_ok (withMessage_at first mirrored),
          run_bind_ok (withMessage_at second (Nat.le_refl _)),
          run_bind_ok (rfl : modifyScreen _ ((parser.read 1).read 1) = .ok () _)]
        refine Eq.trans ran ?_
        simp [takePairs, List.any_cons, Bool.or_assoc, beq_eq_decide]

theorem handleSfe_screen {length : UInt8} {rest : List UInt8}
    {parser : DataStreamParser} (mirrored : parser.pos ≤ parser.parserPos)
    (split : parser.data.drop parser.parserPos = length :: rest) :
    (finalState (handleSfe parser)).screen =
      parser.screen.startFieldExtended (takePairs length.toNat rest) := by
  have here := at_of_split split
  have more : parser.hasMore = true := by
    have remains := remaining_eq split
    simp only [remaining, List.length_cons] at remains
    simp only [hasMore, decide_eq_true_eq]
    omega
  obtain ⟨after, ran, screen⟩ := @readSfePairs_screen length.toNat rest (parser.read 1)
    (Nat.le_refl _) (drop_succ split) false
  unfold handleSfe
  rw [run_get_bind]
  simp only [more, Bool.not_true, Bool.false_eq_true, if_false]
  rw [run_bind_ok (withMessage_at here mirrored), run_bind_ok ran, Bool.false_or]
  have paired : after.screen =
      parser.screen.applySfePairs (takePairs length.toNat rest) := screen
  unfold ScreenBuffer.startFieldExtended
  rw [← paired]
  split <;> rfl

theorem modifyFieldPairs_screen {target : Nat × Nat} {fuel : Nat} {bytes : List UInt8}
    {parser : DataStreamParser} (mirrored : parser.pos ≤ parser.parserPos)
    (aligned : parser.pos = parser.parserPos ∨ 2 ≤ bytes.length)
    (split : parser.data.drop parser.parserPos = bytes) :
    (finalState (modifyFieldPairs target fuel parser)).screen =
      parser.screen.changes ((takePairs fuel bytes).map fun pair =>
        .setExtended pair.1 pair.2 (some target)) := by
  induction fuel generalizing parser bytes with
  | zero => rfl
  | succ fuel ih =>
      have remains := remaining_eq split
      unfold remaining at remains
      match bytes with
      | [] =>
          simp only [List.length_nil] at remains aligned
          unfold modifyFieldPairs
          rw [run_get_bind, if_pos (by omega)]
          rfl
      | [_] =>
          simp only [List.length_singleton] at remains aligned
          unfold modifyFieldPairs
          rw [run_get_bind, if_pos (by omega)]
          rfl
      | attrType :: attrValue :: rest =>
          have first := at_of_split split
          have second : (parser.read 1).At (attrValue :: rest) := first.tail rfl rfl
          have later : parser.data.drop (parser.parserPos + 2) = rest := by
            rw [← List.drop_drop, split]
            rfl
          simp only [List.length_cons] at remains
          unfold modifyFieldPairs
          rw [run_get_bind, if_neg (by omega), run_bind_ok (readByte_at first mirrored),
            run_bind_ok (readByte_at second (Nat.le_refl _)),
            run_bind_ok (rfl : modifyScreen _ ((parser.read 1).read 1) = .ok () _)]
          exact @ih rest
            { parser.read 2 with
              screen := parser.screen.setExtendedAttributeSfe attrType attrValue
                (some target) }
            (Nat.le_refl _) (.inl rfl) later

theorem handleMf_screen {operands : List UInt8} {parser : DataStreamParser}
    (mirrored : parser.pos ≤ parser.parserPos)
    (split : parser.data.drop parser.parserPos = operands) :
    (finalState (handleMf parser)).screen =
      parser.screen.changes (if operands.length < 2 then []
        else (takePairs parser.data.length operands).map fun pair =>
          .setExtended pair.1 pair.2 (some parser.resolveFieldStartPosition)) := by
  have remains := remaining_eq split
  split
  · rename_i short
    exact bind_keepsScreen_error (validateMinData_short (by omega))
  · rename_i enough
    unfold handleMf
    rw [run_bind_ok (validateMinData_at (at_of_split split) (by omega)), run_get_bind]
    exact modifyFieldPairs_screen mirrored (.inr (by omega)) split

theorem handleSfePayload_run {count : Nat} {data : List UInt8}
    {parser : DataStreamParser} (enough : data.length ≤ count) :
    handleSfePayload data parser =
      .ok () { parser with
        screen := parser.screen.applySfePairs (takePairs count data) } := by
  induction count generalizing data parser with
  | zero =>
      obtain rfl : data = [] := List.length_eq_zero_iff.mp (Nat.le_zero.mp enough)
      rfl
  | succ count ih =>
      match data with
      | [] => rfl
      | [_] => rfl
      | attrType :: attrValue :: rest =>
          simp only [List.length_cons] at enough
          unfold handleSfePayload
          rw [run_bind_ok (rfl : modifyScreen _ parser = .ok () _),
            @ih rest _ (by omega)]
          rfl

theorem attempt_at {parser : DataStreamParser} {byte : UInt8} {bytes : List UInt8}
    (here : parser.At (byte :: bytes)) (mirrored : parser.pos ≤ parser.parserPos) :
    attempt readByte parser = .ok (some byte) (parser.read 1) :=
  run_tryCatch_ok (run_bind_ok (readByte_at here mirrored))

theorem readStructuredFieldBody_screen {length : Nat} {sfType : UInt8}
    {body : List UInt8} {parser : DataStreamParser}
    (mirrored : parser.pos ≤ parser.parserPos)
    (split : parser.data.drop parser.parserPos = sfType :: body) :
    (finalState (readStructuredFieldBody length parser)).screen =
      parser.screen.applySfePairs (if sfType = 0x28 then
        takePairs body.length (body.take (length - 1)) else []) := by
  have here := at_of_split split
  have later := drop_succ split
  have remains : (parser.read 1).remaining = body.length := remaining_eq later
  unfold readStructuredFieldBody
  rw [run_bind_ok (attempt_at here mirrored)]
  simp only
  rw [run_get_bind]
  have payload : ((parser.read 1).data.drop (parser.read 1).parserPos).take
      (min (length - 1) (parser.read 1).remaining) = body.take (length - 1) := by
    rw [remains]
    show (parser.data.drop (parser.parserPos + 1)).take _ = _
    rw [later, ← List.take_take, List.take_length]
  rw [payload]
  show (finalState (swallow (sfHandlers sfType (body.take (length - 1)))
    { parser.read 1 with
      parserPos := (parser.read 1).parserPos +
        min (length - 1) (parser.read 1).remaining })).screen = _
  by_cases orders : sfType = 0x28
  · subst orders
    have ran : ∀ state : DataStreamParser,
        sfHandlers 0x28 (body.take (length - 1)) state =
          .ok () { state with
            screen := state.screen.applySfePairs
              (takePairs body.length (body.take (length - 1))) } := by
      intro state
      exact handleSfePayload_run (by
        rw [List.length_take]
        exact Nat.min_le_right _ _)
    unfold swallow
    rw [run_tryCatch_ok (ran _), if_pos rfl]
    rfl
  · rw [if_neg orders]
    exact swallow_keepsScreen (sfHandlers_keepsScreen orders _) _

theorem readHeader_screen {bytes : List UInt8} {parser : DataStreamParser}
    (mirrored : parser.pos ≤ parser.parserPos)
    (split : parser.data.drop parser.parserPos = bytes) :
    (finalState (handleStructuredField.readHeader parser)).screen =
      parser.screen.applySfePairs (fieldPairs bytes) := by
  have remains := remaining_eq split
  unfold handleStructuredField.readHeader
  rw [run_get_bind]
  match bytes with
  | [] =>
      rw [if_pos (by simp [remains])]
      rfl
  | [_] =>
      rw [if_pos (by simp [remains])]
      rfl
  | [_, _] =>
      rw [if_pos (by simp [remains])]
      rfl
  | lengthHigh :: lengthLow :: sfType :: body =>
      have first := at_of_split split
      have second : (parser.read 1).At (lengthLow :: sfType :: body) :=
        first.tail rfl rfl
      have third : parser.data.drop (parser.parserPos + 1 + 1) = sfType :: body := by
        rw [← List.drop_drop, drop_succ split]
        rfl
      have left : ((parser.read 1).read 1).remaining = body.length + 1 :=
        @remaining_eq ((parser.read 1).read 1) _ third
      simp only [List.length_cons] at remains
      rw [if_neg (by omega), run_bind_ok (attempt_at first mirrored)]
      simp only
      rw [run_bind_ok (attempt_at second (Nat.le_refl _))]
      simp only
      rw [run_get_bind, left, fieldPairs]
      by_cases long : body.length + 1 + 1000 < u16 lengthHigh lengthLow
      · rw [if_pos long, if_pos long]
        rfl
      · rw [if_neg long, if_neg long, if_neg (by omega)]
        exact @readStructuredFieldBody_screen _ _ _ ((parser.read 1).read 1)
          (Nat.le_refl _) third

theorem handleStructuredField_screen {bytes : List UInt8} {parser : DataStreamParser}
    (mirrored : parser.pos ≤ parser.parserPos)
    (split : parser.data.drop parser.parserPos = bytes) :
    (finalState (handleStructuredField parser)).screen =
      parser.screen.applySfePairs (structuredPairs bytes) := by
  have next : parser.data[parser.parserPos]? = bytes.head? := by
    rw [← split, List.head?_drop]
  unfold handleStructuredField structuredPairs
  rw [run_get_bind, next]
  by_cases doubled : bytes.head? = some 0x88
  · obtain ⟨rest, rfl⟩ : ∃ rest, bytes = 0x88 :: rest := by
      cases bytes with
      | nil => cases doubled
      | cons byte rest => exact ⟨rest, by rw [Option.some_inj.mp doubled]⟩
    rw [if_pos doubled, if_pos doubled, run_bind_ok (attempt_at (at_of_split split) mirrored)]
    exact @readHeader_screen rest (parser.read 1) (Nat.le_refl _) (drop_succ split)
  · rw [if_neg doubled, if_neg doubled]
    exact readHeader_screen mirrored split

/-- A complete item stands at the front of the bytes it was read from. -/
theorem nextItem_encode {byte : UInt8} {operands : List UInt8} {item : Item}
    (found : nextItem byte operands = some item) (notSfe : byte ≠ 0x29) :
    item.WellFormed ∧ ∃ rest, byte :: operands = item.encode ++ rest ∧
      (item = .data 0x40 → rest.head? ≠ some 0x01) := by
  unfold nextItem at found
  split at found
  case h_4 => exact absurd rfl notSfe
  case h_10 =>
      split at found
      · cases found
      · rename_i space
        cases found
        exact ⟨.inr rfl, operands, rfl, fun _ => space⟩
  case h_11 =>
      split at found
      · rename_i plain
        cases found
        exact ⟨.inl (Option.isNone_iff_eq_none.mp plain), operands, rfl,
          fun same => by
            cases same
            cases plain⟩
      · cases found
  all_goals
    cases found
    exact ⟨trivial, _, rfl, nofun⟩

/-- The next round makes the changes that its bytes tell. -/
theorem processByte_changes {parser : DataStreamParser} (valid : parser.screen.Valid)
    (mirrored : parser.pos ≤ parser.parserPos) :
    (finalState (processByte parser)).screen =
      parser.screen.changes parser.roundChanges := by
  unfold roundChanges
  cases split : parser.data.drop parser.parserPos with
  | nil =>
      have ended : parser.data[parser.parserPos]? = none := by
        rw [← List.head?_drop, split]
        rfl
      rw [processByte_none ended]
      rfl
  | cons byte operands =>
      have behind : parser.pos ≤ parser.parserPos + 1 := Nat.le_succ_of_le mirrored
      have later := drop_succ split
      rw [processByte_run (at_of_split split).head]
      simp only
      by_cases mf : byte = 0x2C
      · subst mf
        rw [if_pos rfl, dispatch_screen (rfl : orderHandlers 0x2C = some handleMf)]
        exact @handleMf_screen operands
          { parser with parserPos := parser.parserPos + 1 } behind later
      by_cases structured : byte = 0x88
      · subst structured
        rw [if_neg mf, if_pos rfl, changes_pairs,
          dispatch_screen (rfl : orderHandlers 0x88 = some handleStructuredField)]
        exact @handleStructuredField_screen operands
          { parser with parserPos := parser.parserPos + 1 } behind later
      rw [if_neg mf, if_neg structured]
      cases found : nextItem byte operands with
      | none =>
          exact @dispatch_none byte operands
            { parser with parserPos := parser.parserPos + 1 } found mf structured later
      | some item =>
          rw [Item.changes_eq_onScreen _ _ _ valid]
          by_cases sfe : byte = 0x29
          · subst sfe
            match operands, found with
            | length :: rest, found =>
                cases found
                rw [dispatch_screen (rfl : orderHandlers 0x29 = some handleSfe)]
                exact @handleSfe_screen length rest
                  { parser with parserPos := parser.parserPos + 1 } behind later
          · obtain ⟨formed, rest, encoded, followed⟩ := nextItem_encode found sfe
            have ran := processByte_item valid mirrored formed
              (split.trans encoded) followed
            rw [processByte_run (at_of_split split).head] at ran
            rw [ran]
            rfl

/-- The changes of the rounds to come. -/
def loopChanges (snapshot : Option ScreenSnapshot) :
    Nat → DataStreamParser → List ScreenChange
  | 0, _ => []
  | fuel + 1, parser =>
      parser.roundChanges ++
        match parseRound snapshot parser with
        | .ok none after => loopChanges snapshot fuel after
        | _ => []

/-- The loop was not left through a rollback. -/
def KeptChanges : EStateM.Result Fault DataStreamParser (Option LoopExit) → Prop
  | .ok (some .rolledBack) _ => False
  | .error (.parseError _) _ => False
  | _ => True

theorem roundChanges_ended {parser : DataStreamParser} (ended : parser.hasMore = false) :
    parser.roundChanges = [] := by
  have beyond : parser.data.drop parser.parserPos = [] := by
    apply List.drop_eq_nil_of_le
    simpa [hasMore] using ended
  unfold roundChanges
  rw [beyond]

/-- A round that takes nothing back makes its changes and no others. -/
theorem parseRound_changes {snapshot : Option ScreenSnapshot}
    {parser : DataStreamParser} (valid : parser.screen.Valid)
    (mirrored : parser.pos ≤ parser.parserPos)
    (kept : snapshot = none ∨ KeptChanges (parseRound snapshot parser)) :
    (finalState (parseRound snapshot parser)).screen =
      parser.screen.changes parser.roundChanges := by
  have changed := processByte_changes valid mirrored
  rw [parseRound_run] at kept ⊢
  cases more : parser.hasMore with
  | false =>
      rw [roundChanges_ended more]
      rfl
  | true =>
      rw [more] at kept
      simp only [if_true] at kept ⊢
      cases outcome : processByte parser with
      | ok value after =>
          rw [outcome] at changed
          exact changed
      | error fault after =>
          rw [outcome] at changed kept
          simp only at kept ⊢
          cases fault with
          | other text => exact changed
          | parseError text =>
              rw [handleOrderError_run] at kept ⊢
              split
              · rename_i fatal
                rw [if_pos fatal] at kept
                rcases kept with rfl | kept
                · exact changed
                · exact kept.elim
              · rename_i notFatal
                rw [if_neg notFatal] at kept
                split
                · rename_i rollback
                  rw [if_pos rollback] at kept
                  rcases kept with rfl | kept
                  · exact changed
                  · exact kept.elim
                · exact changed

theorem parseRound_valid {snapshot : Option ScreenSnapshot}
    {before after : DataStreamParser} (valid : before.screen.Valid)
    (round : parseRound snapshot before = .ok none after) : after.screen.Valid := by
  have moved : KeepsValid before.screen before (finalState (processByte before)) :=
    HandlerSteps.keepsValid (processByte_steps before)
  have kept := (moved ⟨valid, rfl, rfl⟩).1
  rw [parseRound_run] at round
  split at round
  · split at round
    · rename_i outcome
      rw [outcome] at kept
      cases round
      exact kept
    · rename_i outcome
      rw [outcome] at kept
      rw [handleOrderError_none round]
      exact kept
  · cases round

theorem iterate_changes {snapshot : Option ScreenSnapshot} {fuel : Nat}
    {parser : DataStreamParser} (valid : parser.screen.Valid)
    (positioned : Positioned parser)
    (kept : snapshot = none ∨ KeptChanges (iterate (parseRound snapshot) fuel parser)) :
    (finalState (iterate (parseRound snapshot) fuel parser)).screen =
      parser.screen.changes (loopChanges snapshot fuel parser) := by
  induction fuel generalizing parser with
  | zero => rfl
  | succ fuel ih =>
      have here : snapshot = none ∨ KeptChanges (parseRound snapshot parser) → _ :=
        parseRound_changes valid positioned.1
      rw [iterate_succ] at kept ⊢
      rw [loopChanges, changes_append]
      cases round : parseRound snapshot parser with
      | error fault after =>
          rw [round] at here kept
          exact here kept
      | ok result after =>
          rw [round] at here kept
          cases result with
          | some left => exact here kept
          | none =>
              have first := here (.inr trivial)
              simp only [finalState_ok] at first
              simp only at kept ⊢
              rw [← first]
              exact ih (parseRound_valid valid round)
                ((parseRound_progress snapshot).keeps positioned round) kept

/-- Only the exceptions of a printer leave the loop. -/
theorem parseRound_other {snapshot : Option ScreenSnapshot} :
    RaisesOnly (fun fault => ∃ text, fault = .other text) (parseRound snapshot) := by
  intro parser fault after raised
  rw [parseRound_run] at raised
  split at raised
  · split at raised
    · cases raised
    · rename_i early middle outcome
      have unfatal := processByte_unfatal parser early middle outcome
      cases early with
      | other text =>
          cases raised
          exact ⟨text, rfl⟩
      | parseError text =>
          rw [handleOrderError_run, not_fatal_of_plain unfatal] at raised
          simp only [Bool.false_eq_true, if_false] at raised
          split at raised <;> cases raised
  · cases raised

theorem iterate_other {snapshot : Option ScreenSnapshot} {fuel : Nat}
    {parser after : DataStreamParser} {fault : Fault}
    (raised : iterate (parseRound snapshot) fuel parser = .error fault after) :
    ∃ text, fault = .other text :=
  RaisesOnlyAt.iterate (fun {state} (_ : True) => parseRound_other state)
    (fun _ _ => trivial) fuel trivial fault after raised

/-- The parser when the order loop of a write begins. -/
def writeStart (wcc : UInt8) (data : List UInt8) (parser : DataStreamParser) :
    DataStreamParser :=
  startWrite wcc (prepare (decide (bulkThreshold < data.length)) data parser)

/-- The changes that a record with a write command makes to the erased
screen. -/
def recordChanges (data : List UInt8) (parser : DataStreamParser) :
    List ScreenChange :=
  match data with
  | _ :: wcc :: _ =>
      loopChanges
        (some (prepare (decide (bulkThreshold < data.length)) data parser).screen.snapshot)
        (roundLimit data.length) (writeStart wcc data parser)
  | _ => []

theorem writeStart_before {parser : DataStreamParser} (valid : parser.screen.Valid)
    (command wcc : UInt8) (body : List UInt8) :
    Before body (writeStart wcc (command :: wcc :: body) parser) :=
  startWrite_before valid _ command wcc body

/-- The screen when a record is over. -/
def resumeScreen (data : List UInt8) (screen : ScreenBuffer) : ScreenBuffer :=
  if bulkThreshold < data.length then screen.endBulkUpdate else screen

theorem resume_screen (data : List UInt8) (parser : DataStreamParser) :
    (resume (decide (bulkThreshold < data.length)) parser).screen =
      resumeScreen data parser.screen := by
  unfold resume resumeScreen
  by_cases long : bulkThreshold < data.length
  · rw [if_pos long, if_pos (decide_eq_true long)]
  · rw [if_neg long, if_neg (by simpa using long)]

/-- After its loop a record moves the mirror at most. -/
theorem loop_settles (snapshot : Option ScreenSnapshot) (parser : DataStreamParser) :
    ∃ pos, finalState (tryCatch (parseLoop snapshot) (handleParseError snapshot) parser) =
      { finalState (iterate (parseRound snapshot) (roundLimit parser.data.length) parser)
        with pos } := by
  have run := parseLoop_run snapshot parser
  cases outcome : iterate (parseRound snapshot) (roundLimit parser.data.length) parser with
  | ok result after =>
      rw [outcome] at run
      cases result with
      | none =>
          rw [run_tryCatch_ok run]
          exact ⟨after.pos, rfl⟩
      | some left =>
          cases left with
          | finished =>
              rw [run_tryCatch_ok run]
              exact ⟨max after.pos after.data.length, rfl⟩
          | rolledBack =>
              rw [run_tryCatch_ok run]
              exact ⟨after.pos, rfl⟩
  | error fault after =>
      obtain ⟨text, rfl⟩ := iterate_other outcome
      rw [outcome] at run
      rw [run_tryCatch_error run]
      exact ⟨after.pos, rfl⟩

theorem keptChanges_of_not_aborted {snapshot : Option ScreenSnapshot}
    {parser : DataStreamParser}
    (kept : ¬ Aborted (tryCatch (parseLoop snapshot) (handleParseError snapshot) parser)) :
    KeptChanges (iterate (parseRound snapshot) (roundLimit parser.data.length) parser) := by
  have run := parseLoop_run snapshot parser
  cases outcome : iterate (parseRound snapshot) (roundLimit parser.data.length) parser with
  | ok result after =>
      rw [outcome] at run
      match result with
      | none => trivial
      | some .finished => trivial
      | some .rolledBack =>
          rw [run_tryCatch_ok run] at kept
          exact absurd (.rolledBack after) kept
  | error fault after =>
      obtain ⟨text, rfl⟩ := iterate_other outcome
      trivial

theorem not_aborted_loop {snapshot : Option ScreenSnapshot} {parser : DataStreamParser}
    (valid : parser.screen.Valid) (positioned : Positioned parser)
    (kept : snapshot = none ∨
      ¬ Aborted (tryCatch (parseLoop snapshot) (handleParseError snapshot) parser)) :
    (finalState (tryCatch (parseLoop snapshot) (handleParseError snapshot) parser)).screen =
      parser.screen.changes
        (loopChanges snapshot (roundLimit parser.data.length) parser) := by
  obtain ⟨pos, settled⟩ := loop_settles snapshot parser
  rw [settled]
  exact iterate_changes valid positioned (kept.imp_right keptChanges_of_not_aborted)

theorem aborted_mapState {f : DataStreamParser → DataStreamParser}
    {result : EStateM.Result Fault DataStreamParser ParseExit}
    (aborted : Aborted result) : Aborted (mapState f result) := by
  cases aborted with
  | rolledBack after => exact .rolledBack (f after)
  | missingWcc after => exact .missingWcc (f after)

/-- A write that is not aborted leaves what its changes make of the erased
screen; a long one detects the fields at its end. -/
theorem parse_changes {parser : DataStreamParser} (valid : parser.screen.Valid)
    {command wcc : UInt8} {body : List UInt8}
    (write : isWriteCommand command || isEraseWriteCommand command)
    (kept : ¬ Aborted (parse (command :: wcc :: body) 0x00 parser)) :
    (finalState (parse (command :: wcc :: body) 0x00 parser)).screen =
      resumeScreen (command :: wcc :: body)
        ((writeStart wcc (command :: wcc :: body) parser).screen.changes
          (recordChanges (command :: wcc :: body) parser)) := by
  have before := writeStart_before valid command wcc body
  rw [parse_tn3270] at kept ⊢
  have record := @parseRecord_write
    (prepare (decide (bulkThreshold < (command :: wcc :: body).length))
      (command :: wcc :: body) parser) command wcc body write rfl rfl
  rw [record] at kept ⊢
  rw [finalState_mapState, resume_screen]
  exact congrArg _ (not_aborted_loop before.valid before.positioned
    (.inr fun aborted => kept (aborted_mapState aborted)))

end DataStreamParser

end Pure3270
