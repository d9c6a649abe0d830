import Pure3270.Protocol.ParserSafety

/-!
# Framing of orders and data

A record body is a list of items: data bytes and orders with their operands.
On a valid screen one round of the loop consumes exactly the bytes of the item
at the reader and has the effect that the item stands for.
-/

namespace Pure3270

open Foundations

/-- The orders with a fixed or counted extent, and data. -/
inductive Item where
  | data (byte : UInt8)
  | sba (high low : UInt8)
  | sf (attr : UInt8)
  | sa (attrType attrValue : UInt8)
  | sfe (pairs : List (UInt8 × UInt8))
  | ra (high low charToRepeat : UInt8)
  | eua (high low : UInt8)
  | ge (graphicByte : UInt8)
  | ic
  | pt
  deriving DecidableEq

/-- Attribute pairs as they stand in an order. -/
def encodePairs (pairs : List (UInt8 × UInt8)) : List UInt8 :=
  pairs.flatMap fun pair => [pair.1, pair.2]

namespace Item

def encode : Item → List UInt8
  | data byte => [byte]
  | sba high low => [0x11, high, low]
  | sf attr => [0x1D, attr]
  | sa attrType attrValue => [0x28, attrType, attrValue]
  | sfe pairs => 0x29 :: UInt8.ofNat pairs.length :: encodePairs pairs
  | ra high low charToRepeat => [0x3C, high, low, charToRepeat]
  | eua high low => [0x12, high, low]
  | ge graphicByte => [0x08, graphicByte]
  | ic => [0x13]
  | pt => [0x05]

theorem encode_eq_cons (item : Item) :
    ∃ byte bytes, item.encode = byte :: bytes := by
  cases item <;> exact ⟨_, _, rfl⟩

/-- Data bytes are those no handler claims, and the space; an SFE order can
count at most 255 pairs. -/
def WellFormed : Item → Prop
  | data byte => DataStreamParser.orderHandlers byte = none ∨ byte = 0x40
  | sfe pairs => pairs.length < 256
  | _ => True

end Item

namespace ScreenBuffer

/-- Store a data byte at the cursor; nulls are passed over. -/
def storeData (byte : UInt8) (screen : ScreenBuffer) : ScreenBuffer :=
  if byte = 0x00 then screen else screen.insertByte byte

def repeatData (byte : UInt8) : Nat → ScreenBuffer → ScreenBuffer
  | 0, screen => screen
  | count + 1, screen => repeatData byte count (screen.storeData byte)

/-- The screen position an address names. -/
def targetPosition (address : Nat) (mode : AddressingMode)
    (screen : ScreenBuffer) : Nat × Nat :=
  (min (AddressCalculator.clampAddress address mode / screen.cols)
      (screen.rows - 1),
    min (AddressCalculator.clampAddress address mode % screen.cols)
      (screen.cols - 1))

theorem targetOf_eq (address : Nat) (mode : AddressingMode)
    (screen : ScreenBuffer) :
    screen.targetOf address mode = some (screen.targetPosition address mode) := by
  unfold targetOf
  rw [AddressCalculator.addressToCoords_clampAddress]
  rfl

/-- Start a field at the cursor. -/
def startField (attr : UInt8) (screen : ScreenBuffer) : ScreenBuffer :=
  let started := screen.setAttribute attr none
  { started with
    fieldStarts := started.fieldStarts.insert screen.cursorAddress }.setPosition
      screen.cursorRow (screen.cursorCol + 1)

def applySfePairs (pairs : List (UInt8 × UInt8)) (screen : ScreenBuffer) :
    ScreenBuffer :=
  pairs.foldl (fun screen pair => screen.applySfePair pair.1 pair.2) screen

/-- Start a field at the cursor from attribute pairs. -/
def startFieldExtended (pairs : List (UInt8 × UInt8)) (screen : ScreenBuffer) :
    ScreenBuffer :=
  if pairs.any (·.1 = 0xC0) then
    (screen.applySfePairs pairs).setPosition screen.cursorRow (screen.cursorCol + 1)
  else screen.applySfePairs pairs

end ScreenBuffer

namespace Item

/-- What an item does to the screen. -/
def onScreen (item : Item) (mode : AddressingMode) (fieldStart : Nat × Nat)
    (screen : ScreenBuffer) : ScreenBuffer :=
  match item with
  | data byte => screen.storeData byte
  | sba high low =>
      let target := screen.targetPosition (decodeAddress mode high low) mode
      screen.setPosition target.1 target.2
  | sf attr => screen.startField attr
  | sa attrType attrValue =>
      screen.setExtendedAttributeSfe attrType attrValue (some fieldStart)
  | sfe pairs => screen.startFieldExtended pairs
  | ra high low charToRepeat =>
      let target := screen.targetPosition (decodeAddress mode high low) mode
      (screen.repeatData charToRepeat (screen.cellsUpTo target)).setPosition
        target.1 target.2
  | eua high low =>
      let target := screen.targetPosition (decodeAddress mode high low) mode
      (screen.eraseUnprotected (screen.cellsUpTo target)
        screen.getPosition).setPosition target.1 target.2
  | ge graphicByte => screen.storeData (DataStreamParser.geCharByte graphicByte)
  | ic => screen.moveCursorToFirstInputField
  | pt => screen.programTab

/-- The effect of an item on the parser, the positions apart. -/
def effect (item : Item) (parser : DataStreamParser) : DataStreamParser :=
  { parser with
    screen := item.onScreen parser.addressingMode
      parser.resolveFieldStartPosition parser.screen
    lastFieldStartPos :=
      match item with
      | sf _ => some parser.screen.cursorAddress
      | _ => parser.lastFieldStartPos }

/-- The parser after the item: the reader is past it, and so is the mirror
unless the item was a null. -/
def after (item : Item) (parser : DataStreamParser) : DataStreamParser :=
  { item.effect parser with
    parserPos := parser.parserPos + item.encode.length
    pos :=
      if item = data 0x00 then parser.pos
      else parser.parserPos + item.encode.length }

end Item

namespace DataStreamParser

/-- The bytes at the reader. -/
def At (parser : DataStreamParser) (bytes : List UInt8) : Prop :=
  ∃ rest, parser.data.drop parser.parserPos = bytes ++ rest

theorem At.getElem? {parser : DataStreamParser} {bytes : List UInt8}
    (here : parser.At bytes) {index : Nat} (inside : index < bytes.length) :
    parser.data[parser.parserPos + index]? = some bytes[index] := by
  obtain ⟨rest, split⟩ := here
  rw [← List.getElem?_drop, split, List.getElem?_append_left inside]
  exact List.getElem?_eq_getElem inside

theorem At.length_le {parser : DataStreamParser} {bytes : List UInt8}
    (here : parser.At bytes) : bytes.length ≤ parser.remaining := by
  obtain ⟨rest, split⟩ := here
  have lengths := congrArg List.length split
  simp only [List.length_drop, List.length_append] at lengths
  unfold remaining
  omega

theorem At.head {parser : DataStreamParser} {byte : UInt8} {bytes : List UInt8}
    (here : parser.At (byte :: bytes)) :
    parser.data[parser.parserPos]? = some byte :=
  here.getElem? (Nat.zero_lt_succ _)

/-- The rest of the bytes once the first has been read. -/
theorem At.tail {parser next : DataStreamParser} {byte : UInt8}
    {bytes : List UInt8} (here : parser.At (byte :: bytes))
    (data : next.data = parser.data)
    (moved : next.parserPos = parser.parserPos + 1) : next.At bytes := by
  obtain ⟨rest, split⟩ := here
  refine ⟨rest, ?_⟩
  rw [data, moved, ← List.drop_drop, split]
  rfl

/-- Reading the byte at the reader. -/
def read (parser : DataStreamParser) (count : Nat) : DataStreamParser :=
  { parser with
    parserPos := parser.parserPos + count
    pos := parser.parserPos + count }

theorem readByte_at {parser : DataStreamParser} {byte : UInt8}
    {bytes : List UInt8} (here : parser.At (byte :: bytes))
    (mirrored : parser.pos ≤ parser.parserPos) :
    readByte parser = .ok byte (parser.read 1) :=
  readByte_run here.head mirrored

theorem withMessage_at {message : DataStreamParser → String}
    {parser : DataStreamParser} {byte : UInt8} {bytes : List UInt8}
    (here : parser.At (byte :: bytes)) (mirrored : parser.pos ≤ parser.parserPos) :
    withMessage message readByte parser = .ok byte (parser.read 1) :=
  run_tryCatch_ok (readByte_at here mirrored)

theorem readByteSafe_at {operation : String} {parser : DataStreamParser}
    {byte : UInt8} {bytes : List UInt8} (here : parser.At (byte :: bytes))
    (mirrored : parser.pos ≤ parser.parserPos) :
    readByteSafe operation parser = .ok byte (parser.read 1) :=
  withMessage_at here mirrored

theorem validateMinData_at {operation : String} {count : Nat}
    {parser : DataStreamParser} {bytes : List UInt8} (here : parser.At bytes)
    (enough : count ≤ bytes.length) :
    validateMinData operation count parser = .ok () parser := by
  have available := here.length_le
  unfold validateMinData
  rw [run_get_bind, if_neg (by omega)]
  rfl

theorem validateMinData_short {operation : String} {count : Nat}
    {parser : DataStreamParser} (short : parser.remaining < count) :
    validateMinData operation count parser =
      .error (.parseError
        s!"Incomplete {operation} order: need {count} bytes, have {parser.remaining}")
        parser := by
  unfold validateMinData
  rw [run_get_bind, if_pos short]
  rfl

theorem readAddress_at {parser : DataStreamParser} {high low : UInt8}
    {bytes : List UInt8} (here : parser.At (high :: low :: bytes))
    (mirrored : parser.pos ≤ parser.parserPos) :
    readAddress parser =
      .ok (decodeAddress parser.addressingMode high low) (parser.read 2) := by
  have second : (parser.read 1).At (low :: bytes) := here.tail rfl rfl
  unfold readAddress
  rw [run_bind_ok (readByte_at here mirrored),
    run_bind_ok (readByte_at second (Nat.le_refl _)), run_get_bind]
  rfl

theorem insertData_run {parser : DataStreamParser}
    (valid : parser.screen.Valid) (byte : UInt8) :
    insertData byte parser =
      .ok () { parser with screen := parser.screen.storeData byte } := by
  unfold insertData ScreenBuffer.storeData
  by_cases null : byte = 0x00
  · rw [if_pos null, if_pos null]
    rfl
  · have inside : parser.screen.cursorAddress <
        parser.screen.rows * parser.screen.cols := valid.cursorAddress_lt
    rw [if_neg null, if_neg null, run_get_bind,
      if_pos ⟨valid.cursorRow_lt, valid.cursorCol_lt⟩, if_pos inside]
    rfl

theorem Valid.storeData {screen : ScreenBuffer} (valid : screen.Valid)
    (byte : UInt8) : (screen.storeData byte).Valid := by
  unfold ScreenBuffer.storeData
  split
  · exact valid
  · exact valid.insertByte byte

theorem times_insertData_run {parser : DataStreamParser}
    (valid : parser.screen.Valid) (byte : UInt8) (count : Nat) :
    times count (insertData byte) parser =
      .ok () { parser with screen := parser.screen.repeatData byte count } := by
  induction count generalizing parser with
  | zero => rfl
  | succ count ih =>
      unfold times
      rw [run_bind_ok (insertData_run valid byte), ih (Valid.storeData valid byte)]
      rfl

theorem handleSba_at {parser : DataStreamParser} {high low : UInt8}
    {bytes : List UInt8} (here : parser.At (high :: low :: bytes))
    (mirrored : parser.pos ≤ parser.parserPos) :
    handleSba parser =
      .ok () ((Item.sba high low).effect (parser.read 2)) := by
  have available := here.length_le
  simp only [List.length_cons] at available
  unfold handleSba
  rw [run_get_bind, if_neg (by omega)]
  beta_reduce
  rw [run_bind_ok (readAddress_at here mirrored), run_get_bind,
    ScreenBuffer.targetOf_eq]
  rfl

theorem handleSf_at {parser : DataStreamParser} {attr : UInt8}
    {bytes : List UInt8} (here : parser.At (attr :: bytes))
    (mirrored : parser.pos ≤ parser.parserPos) :
    handleSf parser = .ok () ((Item.sf attr).effect (parser.read 1)) := by
  unfold handleSf
  rw [run_bind_ok (validateMinData_at here (by simp)),
    run_bind_ok (readByteSafe_at here mirrored), run_get_bind]
  rfl

theorem handleSa_at {parser : DataStreamParser} {attrType attrValue : UInt8}
    {bytes : List UInt8} (here : parser.At (attrType :: attrValue :: bytes))
    (mirrored : parser.pos ≤ parser.parserPos) :
    handleSa parser =
      .ok () ((Item.sa attrType attrValue).effect (parser.read 2)) := by
  have available := here.length_le
  simp only [List.length_cons] at available
  have second : (parser.read 1).At (attrValue :: bytes) := here.tail rfl rfl
  unfold handleSa
  rw [run_get_bind, if_neg (by omega)]
  beta_reduce
  rw [run_bind_ok (readByte_at here mirrored),
    run_bind_ok (readByte_at second (Nat.le_refl _)), run_get_bind]
  rfl

theorem handleRa_at {parser : DataStreamParser} {high low charToRepeat : UInt8}
    {bytes : List UInt8} (valid : parser.screen.Valid)
    (here : parser.At (high :: low :: charToRepeat :: bytes))
    (mirrored : parser.pos ≤ parser.parserPos) :
    handleRa parser =
      .ok () ((Item.ra high low charToRepeat).effect (parser.read 3)) := by
  have last : (parser.read 2).At (charToRepeat :: bytes) :=
    (here.tail (rfl : (parser.read 1).data = _) rfl).tail rfl rfl
  unfold handleRa
  rw [run_bind_ok (validateMinData_at here (by simp)), run_get_bind,
    run_bind_ok (readAddress_at here mirrored),
    run_bind_ok (readByteSafe_at last (Nat.le_refl _)), ScreenBuffer.targetOf_eq]
  have there : ((parser.read 2).read 1).screen.Valid := valid
  simp only
  rw [run_bind_ok (times_insertData_run there _ _)]
  rfl

theorem handleEua_at {parser : DataStreamParser} {high low : UInt8}
    {bytes : List UInt8} (here : parser.At (high :: low :: bytes))
    (mirrored : parser.pos ≤ parser.parserPos) :
    handleEua parser = .ok () ((Item.eua high low).effect (parser.read 2)) := by
  unfold handleEua
  rw [run_bind_ok (validateMinData_at here (by simp)), run_get_bind,
    run_bind_ok (readAddress_at here mirrored), ScreenBuffer.targetOf_eq]
  rfl

theorem handleGe_at {parser : DataStreamParser} {graphicByte : UInt8}
    {bytes : List UInt8} (valid : parser.screen.Valid)
    (here : parser.At (graphicByte :: bytes))
    (mirrored : parser.pos ≤ parser.parserPos) :
    handleGe parser = .ok () ((Item.ge graphicByte).effect (parser.read 1)) := by
  unfold handleGe
  rw [run_bind_ok (validateMinData_at here (by simp)),
    run_bind_ok (readByte_at here mirrored)]
  have there : (parser.read 1).screen.Valid := valid
  exact insertData_run there _

theorem readSfePairs_at {pairs : List (UInt8 × UInt8)} {bytes : List UInt8}
    {parser : DataStreamParser} (here : parser.At (encodePairs pairs ++ bytes))
    (mirrored : parser.pos ≤ parser.parserPos) (baseAttrSet : Bool) :
    ∃ read,
      readSfePairs pairs.length baseAttrSet parser =
        .ok (baseAttrSet || pairs.any (·.1 = 0xC0)) read ∧
      read = { parser with
        screen := parser.screen.applySfePairs pairs
        parserPos := parser.parserPos + (encodePairs pairs).length
        pos := if pairs = [] then parser.pos
          else parser.parserPos + (encodePairs pairs).length } := by
  induction pairs generalizing parser baseAttrSet with
  | nil => exact ⟨parser, by simp [readSfePairs]; rfl, rfl⟩
  | cons pair pairs ih =>
      have first : parser.At (pair.1 :: pair.2 :: (encodePairs pairs ++ bytes)) := here
      have available := first.length_le
      simp only [List.length_cons] at available
      have second : (parser.read 1).At (pair.2 :: (encodePairs pairs ++ bytes)) :=
        first.tail rfl rfl
      have later : ({ parser.read 2 with
          screen := parser.screen.applySfePair pair.1 pair.2 } :
            DataStreamParser).At (encodePairs pairs ++ bytes) :=
        second.tail rfl rfl
      obtain ⟨read, ran, result⟩ :=
        ih later (Nat.le_refl _) (baseAttrSet || pair.1 == 0xC0)
      refine ⟨read, ?_, ?_⟩
      · simp only [List.length_cons]
        unfold readSfePairs
        rw [run_get_bind, if_neg (by omega),
          run_bind_ok (withMessage_at first mirrored),
          run_bind_ok (withMessage_at second (Nat.le_refl _))]
        rw [run_bind_ok (rfl : modifyScreen _ ((parser.read 1).read 1) = .ok () _)]
        refine Eq.trans ran ?_
        simp [List.any_cons, Bool.or_assoc, beq_eq_decide]
      · rw [result]
        have width : (encodePairs (pair :: pairs)).length =
            2 + (encodePairs pairs).length := by
          simp [encodePairs]
          omega
        simp only [width, ScreenBuffer.applySfePairs, List.foldl_cons,
          DataStreamParser.read]
        cases pairs with
        | nil => simp [encodePairs]
        | cons => simp [Nat.add_assoc]

theorem handleSfe_at {pairs : List (UInt8 × UInt8)} {bytes : List UInt8}
    {parser : DataStreamParser}
    (here : parser.At (UInt8.ofNat pairs.length :: encodePairs pairs ++ bytes))
    (counted : pairs.length < 256) (mirrored : parser.pos ≤ parser.parserPos) :
    handleSfe parser =
      .ok () ((Item.sfe pairs).effect
        (parser.read (1 + (encodePairs pairs).length))) := by
  have available := here.length_le
  have more : parser.hasMore = true := by
    simp only [List.cons_append, List.length_cons, remaining] at available
    simp only [hasMore, decide_eq_true_eq]
    omega
  have second : (parser.read 1).At (encodePairs pairs ++ bytes) :=
    here.tail rfl rfl
  have count : (UInt8.ofNat pairs.length).toNat = pairs.length := by
    rw [UInt8.toNat_ofNat']
    exact Nat.mod_eq_of_lt counted
  obtain ⟨finish, ran, result⟩ := readSfePairs_at second (Nat.le_refl _) false
  unfold handleSfe
  rw [run_get_bind]
  simp only [more, Bool.not_true, Bool.false_eq_true, if_false]
  rw [run_bind_ok (withMessage_at here mirrored), count, run_bind_ok ran, result]
  have ends : (if pairs = [] then (parser.read 1).pos
      else (parser.read 1).parserPos + (encodePairs pairs).length) =
        parser.parserPos + (1 + (encodePairs pairs).length) := by
    split
    · subst pairs
      rfl
    · exact Nat.add_assoc _ _ _
  rw [ends]
  cases base : pairs.any (·.1 = 0xC0) with
  | true =>
      simp [Item.effect, Item.onScreen, ScreenBuffer.startFieldExtended, base,
        read, ← Nat.add_assoc]
      rfl
  | false =>
      simp [Item.effect, Item.onScreen, ScreenBuffer.startFieldExtended, base,
        read, ← Nat.add_assoc]
      rfl

theorem dispatch_handled {byte : UInt8} {handler : ParserM Unit}
    {parser after : DataStreamParser} (found : orderHandlers byte = some handler)
    (ran : handler parser = .ok () after) :
    dispatch byte parser = .ok () { after with pos := after.parserPos } := by
  unfold dispatch
  rw [found]
  simp only
  rw [run_bind_ok ran]
  rfl

theorem dispatch_failed {byte : UInt8} {handler : ParserM Unit}
    {parser after : DataStreamParser} {fault : Fault}
    (found : orderHandlers byte = some handler)
    (failed : handler parser = .error fault after) :
    dispatch byte parser = .error fault after := by
  unfold dispatch
  rw [found]
  exact run_bind_error failed

/-- The effect of an item does not depend on the positions. -/
theorem after_of_read {item : Item} {parser : DataStreamParser}
    {count : Nat} (size : item.encode.length = 1 + count)
    (notNull : item ≠ .data 0x00) :
    ({ item.effect (({ parser with
          parserPos := parser.parserPos + 1 } : DataStreamParser).read count) with
        pos := parser.parserPos + 1 + count } : DataStreamParser) =
      item.after parser := by
  unfold Item.after
  rw [if_neg notNull, size, ← Nat.add_assoc]
  cases item <;> rfl

private theorem dispatch_operands {byte : UInt8} {handler : ParserM Unit}
    {item : Item} {parser : DataStreamParser} {count : Nat}
    (found : orderHandlers byte = some handler)
    (size : item.encode.length = 1 + count) (notNull : item ≠ .data 0x00)
    (ran : handler { parser with parserPos := parser.parserPos + 1 } =
      .ok () (item.effect (({ parser with
        parserPos := parser.parserPos + 1 } : DataStreamParser).read count))) :
    dispatch byte { parser with parserPos := parser.parserPos + 1 } =
      .ok () (item.after parser) := by
  rw [dispatch_handled found ran, ← after_of_read size notNull]
  rfl

private theorem dispatch_data {byte : UInt8} {parser : DataStreamParser}
    (valid : parser.screen.Valid)
    (formed : (Item.data byte).WellFormed)
    (followed : byte = 0x40 → parser.data[parser.parserPos + 1]? ≠ some 0x01) :
    dispatch byte { parser with parserPos := parser.parserPos + 1 } =
      .ok () ((Item.data byte).after parser) := by
  have there : ({ parser with
      parserPos := parser.parserPos + 1 } : DataStreamParser).screen.Valid := valid
  rcases formed with plain | rfl
  · unfold dispatch
    rw [plain]
    by_cases null : byte = 0x00
    · subst null
      rfl
    · simp only [if_neg null]
      rw [run_bind_ok (insertData_run there byte)]
      have different : Item.data byte ≠ .data 0x00 := by simpa using null
      unfold Item.after
      rw [if_neg different]
      rfl
  · have stored : handleDataStreamCtlOrder { parser with
        parserPos := parser.parserPos + 1 } =
          insertData 0x40 { parser with parserPos := parser.parserPos + 1 } := by
      rw [handleDataStreamCtlOrder_eq, if_neg (followed rfl)]
    rw [dispatch_handled rfl (stored.trans (insertData_run there 0x40))]
    rfl

/-- One round on an item: the reader passes its bytes and the parser is changed
by its effect. -/
theorem processByte_item {parser : DataStreamParser} {item : Item}
    {rest : List UInt8} (valid : parser.screen.Valid)
    (mirrored : parser.pos ≤ parser.parserPos) (formed : item.WellFormed)
    (split : parser.data.drop parser.parserPos = item.encode ++ rest)
    (followed : item = .data 0x40 → rest.head? ≠ some 0x01) :
    processByte parser = .ok () (item.after parser) := by
  have here : parser.At item.encode := ⟨rest, split⟩
  have behind : parser.pos ≤ parser.parserPos + 1 := Nat.le_succ_of_le mirrored
  have there : ({ parser with
      parserPos := parser.parserPos + 1 } : DataStreamParser).screen.Valid := valid
  cases item with
  | data byte =>
      rw [processByte_run here.head]
      refine dispatch_data valid formed fun space => ?_
      subst space
      have next := followed rfl
      rw [← List.head?_drop, ← List.drop_drop, split]
      exact next
  | sba high low =>
      rw [processByte_run here.head]
      exact dispatch_operands rfl rfl (by simp)
        (handleSba_at (here.tail rfl rfl) behind)
  | sf attr =>
      rw [processByte_run here.head]
      exact dispatch_operands rfl rfl (by simp)
        (handleSf_at (here.tail rfl rfl) behind)
  | sa attrType attrValue =>
      rw [processByte_run here.head]
      exact dispatch_operands rfl rfl (by simp)
        (handleSa_at (here.tail rfl rfl) behind)
  | sfe pairs =>
      have operands : ({ parser with
          parserPos := parser.parserPos + 1 } : DataStreamParser).At
            (UInt8.ofNat pairs.length :: encodePairs pairs ++ []) := by
        rw [List.append_nil]
        exact here.tail rfl rfl
      rw [processByte_run here.head]
      exact dispatch_operands rfl (by simp [Item.encode]; omega) (by simp)
        (handleSfe_at operands formed behind)
  | ra high low charToRepeat =>
      rw [processByte_run here.head]
      exact dispatch_operands rfl rfl (by simp)
        (handleRa_at there (here.tail rfl rfl) behind)
  | eua high low =>
      rw [processByte_run here.head]
      exact dispatch_operands rfl rfl (by simp)
        (handleEua_at (here.tail rfl rfl) behind)
  | ge graphicByte =>
      rw [processByte_run here.head]
      exact dispatch_operands rfl rfl (by simp)
        (handleGe_at there (here.tail rfl rfl) behind)
  | ic =>
      rw [processByte_run here.head,
        dispatch_handled (rfl : orderHandlers 0x13 = some handleIc) rfl]
      rfl
  | pt =>
      rw [processByte_run here.head,
        dispatch_handled (rfl : orderHandlers 0x05 = some handlePt) rfl]
      rfl

def encodeItems (items : List Item) : List UInt8 :=
  items.flatMap Item.encode

/-- Well-formed items, no space before a control code. -/
def Framed : List Item → List UInt8 → Prop
  | [], _ => True
  | item :: items, rest =>
      item.WellFormed ∧
        (item = .data 0x40 → (encodeItems items ++ rest).head? ≠ some 0x01) ∧
        Framed items rest

/-- The parser after a run of items. -/
def afterItems (items : List Item) (parser : DataStreamParser) : DataStreamParser :=
  items.foldl (fun reached item => item.after reached) parser

/-- The parser stands before `bytes`, on a valid screen, with its positions in
order. -/
structure Before (bytes : List UInt8) (parser : DataStreamParser) : Prop where
  valid : parser.screen.Valid
  positioned : Positioned parser
  split : parser.data.drop parser.parserPos = bytes

theorem Before.hasMore {bytes : List UInt8} {byte : UInt8}
    {parser : DataStreamParser} (before : Before (byte :: bytes) parser) :
    parser.hasMore = true := by
  have lengths := congrArg List.length before.split
  simp only [List.length_drop, List.length_cons] at lengths
  simp only [DataStreamParser.hasMore, decide_eq_true_eq]
  omega

theorem Before.item {parser : DataStreamParser} {item : Item} {rest : List UInt8}
    (before : Before (item.encode ++ rest) parser) (formed : item.WellFormed)
    (followed : item = .data 0x40 → rest.head? ≠ some 0x01)
    (snapshot : Option ScreenSnapshot) :
    parseRound snapshot parser = .ok none (item.after parser) ∧
      Before rest (item.after parser) := by
  obtain ⟨byte, bytes, encoded⟩ := item.encode_eq_cons
  have start := before
  rw [encoded] at start
  have more : parser.hasMore = true := start.hasMore
  have ran := processByte_item before.valid before.positioned.1 formed before.split
    followed
  have progress := processByte_progress before.positioned more
  have kept : KeepsValid parser.screen _ _ :=
    HandlerSteps.keepsValid (processByte_steps parser)
  rw [ran] at progress kept
  refine ⟨?_, (kept ⟨before.valid, rfl, rfl⟩).1, progress.2.1, ?_⟩
  · rw [parseRound_run, if_pos more, ran]
  · have moved : (item.after parser).parserPos =
        parser.parserPos + item.encode.length := rfl
    have data : (item.after parser).data = parser.data := rfl
    rw [moved, data, ← List.drop_drop, before.split, List.drop_left]

theorem Before.items {parser : DataStreamParser} {items : List Item}
    {rest : List UInt8} (before : Before (encodeItems items ++ rest) parser)
    (framed : Framed items rest) (snapshot : Option ScreenSnapshot) {fuel : Nat}
    (enough : loopMeasure parser < fuel) :
    iterate (parseRound snapshot) fuel parser =
        iterate (parseRound snapshot) fuel (afterItems items parser) ∧
      Before rest (afterItems items parser) := by
  induction items generalizing parser with
  | nil => exact ⟨rfl, before⟩
  | cons item items ih =>
      have first : Before (item.encode ++ (encodeItems items ++ rest)) parser := by
        rw [← List.append_assoc]
        exact before
      obtain ⟨round, next⟩ := first.item framed.1 framed.2.1 snapshot
      have progress := parseRound_progress snapshot
      have lower := progress.lowers before.positioned round
      obtain ⟨later, reached⟩ := ih next framed.2.2 (lower.trans enough)
      exact ⟨(iterate_unfold progress before.positioned enough round).trans later,
        reached⟩

theorem startWrite_before {parser : DataStreamParser}
    (valid : parser.screen.Valid) (bulkMode : Bool) (command wcc : UInt8)
    (body : List UInt8) :
    Before body
      (startWrite wcc (prepare bulkMode (command :: wcc :: body) parser)) := by
  have prepared := (prepareScreen_valid valid bulkMode).1
  have erased : ((prepareScreen bulkMode parser.screen).erased
      (command :: wcc :: body)).Valid := by
    unfold ScreenBuffer.erased
    split
    · exact (prepared.clear.setPosition 0 0).fillSpaces
    · exact prepared.clear.setPosition 0 0
  have controlled : (startWrite wcc
      (prepare bulkMode (command :: wcc :: body) parser)).screen.Valid := by
    show (ScreenBuffer.applyWcc wcc _).Valid
    unfold ScreenBuffer.applyWcc
    split
    · exact (erased.setKeyboardLock false).setPosition 0 0
    · exact erased.setPosition 0 0
  exact ⟨controlled, ⟨Nat.le_refl _, Nat.le_add_left _ _⟩, rfl⟩

/-- A record body made of items alone is run to its end. -/
theorem parseLoop_items {parser : DataStreamParser} {items : List Item}
    (before : Before (encodeItems items) parser) (framed : Framed items [])
    (snapshot : Option ScreenSnapshot) :
    ∃ after, parseLoop snapshot parser = .ok .finished after ∧
      after.screen = (afterItems items parser).screen := by
  have padded : Before (encodeItems items ++ []) parser := by
    rw [List.append_nil]
    exact before
  obtain ⟨same, reached⟩ := padded.items framed snapshot
    (loopMeasure_lt_roundLimit parser)
  have ended : (afterItems items parser).hasMore = false := by
    have lengths := congrArg List.length reached.split
    simp only [List.length_drop, List.length_nil] at lengths
    simp only [hasMore, decide_eq_false_iff_not]
    omega
  have round : parseRound snapshot (afterItems items parser) =
      .ok (some .finished) (afterItems items parser) := by
    rw [parseRound_run, ended]
    simp
  rw [parseLoop_run, same]
  unfold roundLimit
  rw [Nat.succ_mul, ← Nat.add_assoc, iterate_succ, round]
  exact ⟨_, rfl, rfl⟩

end DataStreamParser

end Pure3270
