import Pure3270.Protocol.OrderFraming

/-!
# The buffer address of stored items

Data, SF, and SFE with a base attribute each store one cell at the buffer
address and move it.  The three handlers compute the next address with a row
and a column: data does not come back to the first cell from the last one, and
a field order at the end of a row does not leave its own cell.
-/

namespace Pure3270

open Foundations

/-- The base attribute that a list of attribute pairs leaves in the cell. -/
def baseAttribute : List (UInt8 × UInt8) → Option UInt8
  | [] => none
  | pair :: pairs =>
      (baseAttribute pairs).or (if pair.1 = 0xC0 then some pair.2 else none)

theorem baseAttribute_isSome (pairs : List (UInt8 × UInt8)) :
    (baseAttribute pairs).isSome = pairs.any (·.1 = 0xC0) := by
  induction pairs with
  | nil => rfl
  | cons pair pairs ih =>
      simp only [baseAttribute, Option.isSome_or, ih, List.any_cons]
      by_cases base : pair.1 = 0xC0 <;> simp [base]

namespace Item

/-- The items that store one cell. -/
def Placed : Item → Prop
  | data byte => byte ≠ 0x00
  | sf _ => True
  | sfe pairs => pairs.length < 256 ∧ (baseAttribute pairs).isSome
  | _ => False

/-- The byte a placed item leaves in its cell. -/
def storedByte : Item → UInt8
  | data byte => byte
  | sf attr => attr
  | sfe pairs => (baseAttribute pairs).getD 0x00
  | _ => 0x00

/-- The buffer address after a placed item. -/
def nextAddress (rows cols address : Nat) : Item → Nat
  | data _ =>
      if address + 1 < rows * cols then address + 1 else (rows - 1) * cols
  | _ => if address % cols + 1 < cols then address + 1 else address

/-- Where an item moves the buffer address on by one. -/
def Room (rows cols address : Nat) : Item → Prop
  | data _ => address + 1 < rows * cols ∨ rows = 1
  | _ => address % cols + 1 < cols ∨ rows * cols = 1

instance (rows cols address : Nat) (item : Item) :
    Decidable (item.Room rows cols address) := by
  cases item <;> exact inferInstanceAs (Decidable (_ ∨ _))

theorem nextAddress_eq_succ_mod_iff {rows cols address : Nat}
    (inside : address < rows * cols) (item : Item) :
    item.nextAddress rows cols address = (address + 1) % (rows * cols) ↔
      item.Room rows cols address := by
  have rows_pos : 0 < rows := Nat.pos_of_mul_pos_right (Nat.zero_lt_of_lt inside)
  have cols_pos : 0 < cols := Nat.pos_of_mul_pos_left (Nat.zero_lt_of_lt inside)
  have wraps : ¬ address + 1 < rows * cols →
      (address + 1) % (rows * cols) = 0 := by
    intro last
    rw [(by omega : address + 1 = rows * cols), Nat.mod_self]
  have fieldOrder : (if address % cols + 1 < cols then address + 1 else address) =
      (address + 1) % (rows * cols) ↔
        (address % cols + 1 < cols ∨ rows * cols = 1) := by
    by_cases room : address % cols + 1 < cols
    · have notLast : address + 1 ≠ rows * cols := by
        intro last
        have column : (address + 1) % cols = address % cols + 1 := by
          rw [Nat.add_mod, Nat.mod_eq_of_lt (by omega : 1 < cols),
            Nat.mod_eq_of_lt room]
        rw [last, Nat.mul_mod_left] at column
        omega
      rw [if_pos room, Nat.mod_eq_of_lt (by omega)]
      simp [room]
    · rw [if_neg room]
      by_cases last : address + 1 < rows * cols
      · rw [Nat.mod_eq_of_lt last]
        omega
      · rw [wraps last]
        omega
  cases item with
  | data byte =>
      unfold nextAddress Room
      by_cases last : address + 1 < rows * cols
      · rw [if_pos last, Nat.mod_eq_of_lt last]
        simp [last]
      · rw [if_neg last, wraps last, Nat.mul_eq_zero]
        omega
  | _ => exact fieldOrder

end Item

namespace ScreenBuffer

theorem cursorAddress_mod {screen : ScreenBuffer} (valid : screen.Valid) :
    screen.cursorAddress % screen.cols = screen.cursorCol := by
  unfold cursorAddress
  rw [Nat.mul_add_mod', Nat.mod_eq_of_lt valid.cursorCol_lt]

theorem cursorAddress_setPosition_congr {before after : ScreenBuffer}
    (frame : SameFrame before after) (row col : Nat) :
    (after.setPosition row col).cursorAddress =
      (before.setPosition row col).cursorAddress := by
  show min (after.rows - 1) row * after.cols + min (after.cols - 1) col = _
  rw [frame.rows, frame.cols]
  rfl

theorem cursorAddress_setPosition (row col : Nat) (screen : ScreenBuffer) :
    (screen.setPosition row col).cursorAddress =
      min (screen.rows - 1) row * screen.cols + min (screen.cols - 1) col := rfl

/-- A field order moves one column on and stops at the last column. -/
theorem cursorAddress_nextColumn {screen : ScreenBuffer} (valid : screen.Valid) :
    (screen.setPosition screen.cursorRow (screen.cursorCol + 1)).cursorAddress =
      if screen.cursorAddress % screen.cols + 1 < screen.cols
      then screen.cursorAddress + 1 else screen.cursorAddress := by
  have row := valid.cursorRow_lt
  have col := valid.cursorCol_lt
  rw [cursorAddress_setPosition, cursorAddress_mod valid,
    Nat.min_eq_right (by omega : screen.cursorRow ≤ screen.rows - 1)]
  split
  · rw [Nat.min_eq_right (by omega : screen.cursorCol + 1 ≤ screen.cols - 1)]
    exact (Nat.add_assoc _ _ _).symm
  · rw [Nat.min_eq_left (by omega : screen.cols - 1 ≤ screen.cursorCol + 1)]
    exact congrArg (screen.cursorRow * screen.cols + ·) (by omega)

/-- Data moves to the next cell and from the last cell to the start of the
last row. -/
theorem cursorAddress_insertByte {screen : ScreenBuffer} (valid : screen.Valid)
    (byte : UInt8) :
    (screen.insertByte byte).cursorAddress =
      if screen.cursorAddress + 1 < screen.rows * screen.cols
      then screen.cursorAddress + 1 else (screen.rows - 1) * screen.cols := by
  have row := valid.cursorRow_lt
  have col := valid.cursorCol_lt
  have positive := screen.cols_pos
  unfold insertByte
  simp only
  by_cases wraps : screen.cols ≤ screen.cursorCol + 1
  · have nextRow : screen.cursorAddress + 1 =
        (screen.cursorRow + 1) * screen.cols := by
      unfold cursorAddress
      rw [Nat.add_mul, Nat.one_mul]
      omega
    rw [if_pos wraps, cursorAddress_setPosition, nextRow]
    simp only [Nat.min_zero, Nat.add_zero]
    by_cases last : screen.rows ≤ screen.cursorRow + 1
    · have ends : screen.rows = screen.cursorRow + 1 := by omega
      rw [if_pos last, if_neg (by rw [ends]; omega), Nat.min_self]
    · rw [if_neg last,
        if_pos ((Nat.mul_lt_mul_right positive).mpr (by omega)),
        Nat.min_eq_right (by omega)]
  · have inside : screen.cursorAddress + 1 < screen.rows * screen.cols :=
      address_lt row (by omega : screen.cursorCol + 1 < screen.cols)
    rw [if_neg wraps, if_pos inside, cursorAddress_setPosition]
    simp only
    rw [Nat.min_eq_right (by omega : screen.cursorRow ≤ screen.rows - 1),
      Nat.min_eq_right (by omega : screen.cursorCol + 1 ≤ screen.cols - 1)]
    exact (Nat.add_assoc _ _ _).symm

theorem insertByte_buffer (byte : UInt8) (screen : ScreenBuffer) :
    (screen.insertByte byte).buffer =
      screen.buffer.set screen.cursorAddress byte := by
  unfold insertByte
  simp only
  split <;> rfl

theorem setAttribute_position (attr : UInt8) (position : Option (Nat × Nat))
    (screen : ScreenBuffer) :
    (screen.setAttribute attr position).getPosition = screen.getPosition := by
  unfold setAttribute
  simp only
  split
  · split <;> rfl
  · rfl

theorem applySfePair_position (attrType attrValue : UInt8)
    (screen : ScreenBuffer) :
    (screen.applySfePair attrType attrValue).getPosition = screen.getPosition := by
  unfold applySfePair
  split
  · exact setAttribute_position attrValue none screen
  · split
    · unfold setExtendedAttributeSfe
      simp only
      split <;> rfl
    · rfl

theorem applySfePair_buffer {screen : ScreenBuffer} (valid : screen.Valid)
    (attrType attrValue : UInt8) :
    (screen.applySfePair attrType attrValue).buffer =
      if attrType = 0xC0 then screen.buffer.set screen.cursorAddress attrValue
      else screen.buffer := by
  unfold applySfePair
  split
  · exact setAttribute_buffer valid attrValue
  · split
    · unfold setExtendedAttributeSfe
      simp only
      split <;> rfl
    · rfl

/-- Attribute pairs leave the position and the size alone, and the base
attribute among them ends up in the cell at the cursor. -/
theorem applySfePairs_spec {screen : ScreenBuffer} (valid : screen.Valid)
    (pairs : List (UInt8 × UInt8)) :
    (screen.applySfePairs pairs).Valid ∧
      SameFrame screen (screen.applySfePairs pairs) ∧
      (screen.applySfePairs pairs).getPosition = screen.getPosition ∧
      (screen.applySfePairs pairs).buffer =
        match baseAttribute pairs with
        | some attr => screen.buffer.set screen.cursorAddress attr
        | none => screen.buffer := by
  induction pairs generalizing screen with
  | nil => exact ⟨valid, refl_of SameFrame screen, rfl, rfl⟩
  | cons pair pairs ih =>
      have steps := applySfePair_steps pair.1 pair.2 screen
      have keeps : ∀ {first second : ScreenBuffer}, ScreenStep first second →
          first.Valid → second.Valid := fun step holds => holds.step step
      have stepValid := ScreenStep.run keeps steps valid
      have frame := ScreenStep.run ScreenStep.frame steps
      have position := applySfePair_position pair.1 pair.2 screen
      have address : (screen.applySfePair pair.1 pair.2).cursorAddress =
          screen.cursorAddress := by
        have row := congrArg Prod.fst position
        have col := congrArg Prod.snd position
        simp only [getPosition] at row col
        unfold cursorAddress
        rw [row, col, frame.cols]
      obtain ⟨laterValid, laterFrame, laterPosition, laterBuffer⟩ := ih stepValid
      refine ⟨laterValid, trans_of SameFrame frame laterFrame,
        laterPosition.trans position, ?_⟩
      refine laterBuffer.trans ?_
      rw [applySfePair_buffer valid, address]
      cases later : baseAttribute pairs with
      | some attr =>
          simp only [baseAttribute, later, Option.some_or]
          split
          · rw [List.set_set]
          · rfl
      | none =>
          simp only [baseAttribute, later, Option.none_or]
          by_cases base : pair.1 = 0xC0 <;> simp [base]

theorem onScreen_placed {screen : ScreenBuffer} (valid : screen.Valid)
    {item : Item} (placed : item.Placed) (mode : AddressingMode)
    (fieldStart : Nat × Nat) :
    (item.onScreen mode fieldStart screen).Valid ∧
      SameFrame screen (item.onScreen mode fieldStart screen) ∧
      (item.onScreen mode fieldStart screen).cursorAddress =
        item.nextAddress screen.rows screen.cols screen.cursorAddress ∧
      (item.onScreen mode fieldStart screen).buffer =
        screen.buffer.set screen.cursorAddress item.storedByte := by
  cases item with
  | data byte =>
      have different : ¬ byte = 0x00 := placed
      unfold Item.onScreen storeData
      simp only
      rw [if_neg different]
      exact ⟨valid.insertByte byte,
        (ScreenStep.insertByte byte valid.cursorRow_lt valid.cursorCol_lt).frame,
        cursorAddress_insertByte valid byte, insertByte_buffer byte screen⟩
  | sf attr =>
      have stored := valid.setAttribute attr none
      have frame := screen.setAttribute_frame attr none
      have position := setAttribute_position attr none screen
      have cursor : (screen.setAttribute attr none).cursorAddress =
          screen.cursorAddress := setAttribute_cursorAddress attr none screen
      have marked : Valid { screen.setAttribute attr none with
          fieldStarts := (screen.setAttribute attr none).fieldStarts.insert
            screen.cursorAddress } := by
        rw [← cursor]
        exact stored.insertFieldStart stored.cursorAddress_lt
      refine ⟨marked.setPosition _ _, ?_, ?_, setAttribute_buffer valid attr⟩
      · have marking : SameFrame (screen.setAttribute attr none)
            { screen.setAttribute attr none with
              fieldStarts := (screen.setAttribute attr none).fieldStarts.insert
                screen.cursorAddress } := ⟨rfl, rfl, rfl, rfl, rfl, rfl, rfl, rfl⟩
        exact trans_of SameFrame (trans_of SameFrame frame marking)
          (ScreenStep.setPosition _ _).frame
      · exact (cursorAddress_setPosition_congr frame _ _).trans
          (cursorAddress_nextColumn valid)
  | sfe pairs =>
      obtain ⟨attr, base⟩ := Option.isSome_iff_exists.mp placed.2
      obtain ⟨pairsValid, frame, position, buffer⟩ := applySfePairs_spec valid pairs
      have moves : pairs.any (·.1 = 0xC0) = true := by
        rw [← baseAttribute_isSome]
        exact placed.2
      unfold Item.onScreen startFieldExtended
      simp only
      rw [if_pos moves]
      refine ⟨pairsValid.setPosition _ _, ?_, ?_, ?_⟩
      · exact trans_of SameFrame frame (ScreenStep.setPosition _ _).frame
      · exact (cursorAddress_setPosition_congr frame _ _).trans
          (cursorAddress_nextColumn valid)
      · refine buffer.trans ?_
        simp [Item.storedByte, base]
  | _ => exact placed.elim

end ScreenBuffer

namespace DataStreamParser

/-- The handler of a placed item.  A data byte is stored whatever its value. -/
def placedHandler (item : Item) (first : UInt8) : ParserM Unit :=
  match item with
  | .sf _ => handleSf
  | .sfe _ => handleSfe
  | _ => insertData first

/-- Read a placed item at the reader and run its handler. -/
def placeItem (item : Item) : ParserM Unit := do
  let first ← parserReadByte
  placedHandler item first
  mirrorPos

def placeItems : List Item → ParserM Unit
  | [] => return
  | item :: items => do
      placeItem item
      placeItems items

theorem placeItem_run {parser : DataStreamParser} {item : Item}
    {rest : List UInt8} (before : Before (item.encode ++ rest) parser)
    (placed : item.Placed) :
    placeItem item parser = .ok () (item.after parser) := by
  have here : parser.At item.encode := ⟨rest, before.split⟩
  have behind : parser.pos ≤ parser.parserPos + 1 :=
    Nat.le_succ_of_le before.positioned.1
  have there : ({ parser with
      parserPos := parser.parserPos + 1 } : DataStreamParser).screen.Valid :=
    before.valid
  unfold placeItem
  cases item with
  | data byte =>
      have different : Item.data byte ≠ .data 0x00 := by
        intro null
        cases null
        exact placed rfl
      have ran : placedHandler (.data byte) byte _ = _ := insertData_run there byte
      rw [run_bind_ok (parserReadByte_run here.head), run_bind_ok ran]
      unfold Item.after
      rw [if_neg different]
      rfl
  | sf attr =>
      have operands : ({ parser with
          parserPos := parser.parserPos + 1 } : DataStreamParser).At [attr] :=
        here.tail rfl rfl
      have ran : placedHandler (.sf attr) 0x1D _ = _ := handleSf_at operands behind
      rw [run_bind_ok (parserReadByte_run here.head), run_bind_ok ran]
      rfl
  | sfe pairs =>
      have operands : ({ parser with
          parserPos := parser.parserPos + 1 } : DataStreamParser).At
            (UInt8.ofNat pairs.length :: encodePairs pairs ++ []) := by
        rw [List.append_nil]
        exact here.tail rfl rfl
      have size : (Item.sfe pairs).encode.length =
          1 + (1 + (encodePairs pairs).length) := by
        simp [Item.encode]
        omega
      have ran : placedHandler (.sfe pairs) 0x29 _ = _ :=
        handleSfe_at operands placed.1 behind
      rw [run_bind_ok (parserReadByte_run here.head), run_bind_ok ran,
        ← after_of_read size (by simp)]
      rfl
  | _ => exact placed.elim

/-- In the loop a placed item that is framed as such is run by its handler. -/
theorem processByte_eq_placeItem {parser : DataStreamParser} {item : Item}
    {rest : List UInt8} (before : Before (item.encode ++ rest) parser)
    (placed : item.Placed) (formed : item.WellFormed)
    (followed : item = .data 0x40 → rest.head? ≠ some 0x01) :
    processByte parser = placeItem item parser := by
  rw [processByte_item before.valid before.positioned.1 formed before.split followed,
    placeItem_run before placed]

theorem Before.place {parser : DataStreamParser} {item : Item}
    {rest : List UInt8} (before : Before (item.encode ++ rest) parser)
    (placed : item.Placed) : Before rest (item.after parser) := by
  have screen := ScreenBuffer.onScreen_placed before.valid placed
    parser.addressingMode parser.resolveFieldStartPosition
  have notNull : item ≠ .data 0x00 := by
    rintro rfl
    exact placed rfl
  have moved : (item.after parser).parserPos =
      parser.parserPos + item.encode.length := rfl
  have data : (item.after parser).data = parser.data := rfl
  have split : (item.after parser).data.drop (item.after parser).parserPos = rest := by
    rw [moved, data, ← List.drop_drop, before.split, List.drop_left]
  have fits := congrArg List.length before.split
  simp only [List.length_drop, List.length_append] at fits
  refine ⟨screen.1, ⟨?_, ?_⟩, split⟩
  · unfold Item.after
    rw [if_neg notNull]
  · have inside := before.positioned.2
    rw [moved, data]
    omega

theorem placeItems_run {parser : DataStreamParser} {items : List Item}
    {rest : List UInt8} (before : Before (encodeItems items ++ rest) parser)
    (placed : ∀ item ∈ items, item.Placed) :
    placeItems items parser = .ok () (afterItems items parser) ∧
      Before rest (afterItems items parser) ∧
      SameFrame parser.screen (afterItems items parser).screen := by
  induction items generalizing parser with
  | nil => exact ⟨rfl, before, refl_of SameFrame parser.screen⟩
  | cons item items ih =>
      have first : Before (item.encode ++ (encodeItems items ++ rest)) parser := by
        rw [← List.append_assoc]
        exact before
      have here := placed item List.mem_cons_self
      obtain ⟨ran, reached, frame⟩ := ih (first.place here)
        (fun other member => placed other (List.mem_cons_of_mem _ member))
      have stepFrame := (ScreenBuffer.onScreen_placed before.valid here
        parser.addressingMode parser.resolveFieldStartPosition).2.1
      refine ⟨?_, reached, trans_of SameFrame stepFrame frame⟩
      show (placeItem item >>= fun _ => placeItems items) parser = _
      rw [run_bind_ok (placeItem_run first here), ran]
      rfl

/-- The screen after the first items of a sequence. -/
def screenAfter (items : List Item) (parser : DataStreamParser) (count : Nat) :
    ScreenBuffer :=
  (finalState (placeItems (items.take count) parser)).screen

/-- The linear address law for a sequence of stored items. -/
structure LinearAddresses (items : List Item) (parser : DataStreamParser) :
    Prop where
  /-- Each item is stored in the cell at the buffer address, which is its number
  of places after the start. -/
  stored : ∀ index (inside : index < items.length),
    (screenAfter items parser index).cursorAddress =
        (parser.screen.cursorAddress + index) % parser.screen.size ∧
      (screenAfter items parser (index + 1)).buffer =
        (screenAfter items parser index).buffer.set
          ((parser.screen.cursorAddress + index) % parser.screen.size)
          items[index].storedByte
  finish : (screenAfter items parser items.length).cursorAddress =
    (parser.screen.cursorAddress + items.length) % parser.screen.size
  /-- No item is stored in the cell of the one before it. -/
  separate : ∀ index, index + 1 < items.length →
    (screenAfter items parser index).cursorAddress ≠
      (screenAfter items parser (index + 1)).cursorAddress

section Sequence

variable {parser : DataStreamParser} {items : List Item} {rest : List UInt8}

theorem afterItems_take_succ {index : Nat} (inside : index < items.length) :
    afterItems (items.take (index + 1)) parser =
      items[index].after (afterItems (items.take index) parser) := by
  unfold afterItems
  rw [List.take_succ_eq_append_getElem inside, List.foldl_append]
  rfl

/-- The states between the items of a sequence. -/
theorem placeItems_take (before : Before (encodeItems items ++ rest) parser)
    (placed : ∀ item ∈ items, item.Placed) (index : Nat) :
    placeItems (items.take index) parser =
        .ok () (afterItems (items.take index) parser) ∧
      Before (encodeItems (items.drop index) ++ rest)
        (afterItems (items.take index) parser) ∧
      SameFrame parser.screen (afterItems (items.take index) parser).screen := by
  apply placeItems_run
  · have parts : encodeItems (items.take index) ++
        (encodeItems (items.drop index) ++ rest) = encodeItems items ++ rest := by
      rw [← List.append_assoc]
      unfold encodeItems
      rw [← List.flatMap_append, List.take_append_drop]
    rwa [parts]
  · exact fun item member => placed item (List.mem_of_mem_take member)

theorem screenAfter_eq (before : Before (encodeItems items ++ rest) parser)
    (placed : ∀ item ∈ items, item.Placed) (index : Nat) :
    screenAfter items parser index =
      (afterItems (items.take index) parser).screen := by
  unfold screenAfter
  rw [(placeItems_take before placed index).1]
  rfl

theorem screenAfter_succ (before : Before (encodeItems items ++ rest) parser)
    (placed : ∀ item ∈ items, item.Placed) {index : Nat}
    (inside : index < items.length) :
    (screenAfter items parser (index + 1)).cursorAddress =
        items[index].nextAddress parser.screen.rows parser.screen.cols
          (screenAfter items parser index).cursorAddress ∧
      (screenAfter items parser (index + 1)).buffer =
        (screenAfter items parser index).buffer.set
          (screenAfter items parser index).cursorAddress
          items[index].storedByte := by
  obtain ⟨-, here, frame⟩ := placeItems_take before placed index
  have step := ScreenBuffer.onScreen_placed here.valid
    (placed items[index] (List.getElem_mem inside))
    (afterItems (items.take index) parser).addressingMode
    (afterItems (items.take index) parser).resolveFieldStartPosition
  rw [screenAfter_eq before placed, screenAfter_eq before placed,
    afterItems_take_succ inside, ← frame.rows, ← frame.cols]
  exact step.2.2

/-- The address law holds exactly when no data byte of the sequence meets the
last cell and no field order the last column. -/
theorem linearAddresses_iff (before : Before (encodeItems items ++ rest) parser)
    (placed : ∀ item ∈ items, item.Placed) :
    LinearAddresses items parser ↔
      (∀ index (inside : index < items.length),
        items[index].Room parser.screen.rows parser.screen.cols
          ((parser.screen.cursorAddress + index) % parser.screen.size)) ∧
        (parser.screen.size = 1 → items.length ≤ 1) := by
  have start : (screenAfter items parser 0).cursorAddress =
      parser.screen.cursorAddress := rfl
  have bound : ∀ place, place % parser.screen.size < parser.screen.size :=
    fun place => Nat.mod_lt place parser.screen.size_pos
  have succMod : ∀ index,
      ((parser.screen.cursorAddress + index) % parser.screen.size + 1) %
          parser.screen.size =
        (parser.screen.cursorAddress + (index + 1)) % parser.screen.size := by
    intro index
    rw [Nat.mod_add_mod, Nat.add_assoc]
  constructor
  · intro law
    have addresses : ∀ index, index ≤ items.length →
        (screenAfter items parser index).cursorAddress =
          (parser.screen.cursorAddress + index) % parser.screen.size := by
      intro index within
      rcases Nat.lt_or_eq_of_le within with inside | rfl
      · exact (law.stored index inside).1
      · exact law.finish
    refine ⟨fun index inside => ?_, fun single => ?_⟩
    · have moved := (screenAfter_succ before placed inside).1
      rw [addresses (index + 1) inside, addresses index inside.le] at moved
      refine (Item.nextAddress_eq_succ_mod_iff (bound _) _).mp ?_
      exact moved.symm.trans (succMod index).symm
    · by_contra several
      have apart := law.separate 0 (by omega)
      rw [addresses 0 (by omega), addresses 1 (by omega), single] at apart
      exact apart (by rw [Nat.mod_one, Nat.mod_one])
  · rintro ⟨room, single⟩
    have addresses : ∀ index, index ≤ items.length →
        (screenAfter items parser index).cursorAddress =
          (parser.screen.cursorAddress + index) % parser.screen.size := by
      intro index within
      induction index with
      | zero =>
          rw [start, Nat.add_zero, Nat.mod_eq_of_lt before.valid.cursorAddress_lt]
      | succ index ih =>
          have here := ih (by omega)
          rw [(screenAfter_succ before placed within).1, here]
          exact ((Item.nextAddress_eq_succ_mod_iff (bound _) _).mpr
            (room index within)).trans (succMod index)
    refine ⟨fun index inside => ⟨addresses index inside.le, ?_⟩,
      addresses _ (Nat.le_refl _), fun index inside same => ?_⟩
    · rw [(screenAfter_succ before placed inside).2, addresses index inside.le]
    · rw [addresses index (by omega), addresses (index + 1) (by omega),
        ← succMod index] at same
      have here := bound (parser.screen.cursorAddress + index)
      have several : parser.screen.size ≠ 1 := fun one => by
        have few := single one
        omega
      by_cases last : (parser.screen.cursorAddress + index) %
          parser.screen.size + 1 = parser.screen.size
      · rw [last, Nat.mod_self] at same
        omega
      · rw [Nat.mod_eq_of_lt (by omega : _ + 1 < _)] at same
        omega

end Sequence

theorem smallParser_before (row col : Nat) (data : List UInt8) :
    Before data { smallParser row col with data } :=
  ⟨smallParser_valid row col, ⟨Nat.le_refl 0, Nat.zero_le _⟩, rfl⟩

/-- Data, a field and data over the end of a row. -/
theorem linearAddresses_acrossRows :
    LinearAddresses [.data 0xC1, .sf 0x60, .data 0xC2, .data 0xC3]
      { smallParser 0 0 with data := [0xC1, 0x1D, 0x60, 0xC2, 0xC3] } :=
  (linearAddresses_iff (smallParser_before 0 0 ([0xC1, 0x1D, 0x60, 0xC2, 0xC3] ++ []))
      (by simp [Item.Placed])).mpr ⟨by decide, by decide⟩

/-- A field order in the last column of the first row keeps the buffer address,
so that the data byte after it is stored over the attribute. -/
theorem not_linearAddresses_lastColumn :
    ¬ LinearAddresses [.sf 0x60, .data 0xC1]
      { smallParser 0 2 with data := [0x1D, 0x60, 0xC1] } :=
  fun law => absurd (law.separate 0 (by decide)) (by decide)

end DataStreamParser

end Pure3270
