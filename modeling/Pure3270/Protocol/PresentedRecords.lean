import Pure3270.Protocol.DataTransparency
import Pure3270.Protocol.PresentationSpace
import Pure3270.Protocol.PresentedFields

/-!
# Records on the presentation space

The screen buffer keeps rows and columns, three attribute bytes a cell, a list of fields and
two caches.  Order by order it presents the space that the orders describe, and at the end of
every record it displays it.
-/

namespace Pure3270

open Foundations

namespace ScreenBuffer

variable {screen : ScreenBuffer}

structure Presents (screen : ScreenBuffer) (space : PresentationSpace) : Prop where
  valid : screen.Valid
  rows : space.rows = screen.rows
  cols : space.cols = screen.cols
  cells : ∀ pos < screen.size, screen.buffer[pos]? = some (space.cells pos)
  marks : ∀ pos < screen.size, space.marks pos =
    if pos ∈ screen.fieldStarts then screen.attributes[pos * 3]? else none
  address : screen.cursorAddress = space.address
  asciiStops : screen.sortedAsciiFields.map screen.addressOf = space.asciiStops
  looks : screen.Looks space.looksUp

namespace Presents

variable {space : PresentationSpace} (presents : screen.Presents space)

include presents

theorem size : space.size = screen.size := by
  unfold PresentationSpace.size ScreenBuffer.size
  rw [presents.rows, presents.cols]

theorem asciiStops_of {after : ScreenBuffer} (ascii : after.asciiFields = screen.asciiFields)
    (cols : after.cols = screen.cols) :
    after.sortedAsciiFields.map after.addressOf = space.asciiStops := by
  unfold sortedAsciiFields addressOf
  rw [ascii, cols]
  exact presents.asciiStops

theorem cells_set (address : Nat) (byte : UInt8) {pos : Nat} (inside : pos < screen.size) :
    (screen.buffer.set address byte)[pos]? =
      some (Function.update space.cells address byte pos) := by
  rw [List.getElem?_set]
  by_cases here : address = pos
  · have bound : pos < screen.buffer.length := by
      rw [presents.valid.buffer_length]
      exact inside
    subst here
    simp [bound]
  · rw [if_neg here, Function.update_of_ne (Ne.symm here)]
    exact presents.cells pos inside

theorem write {after : ScreenBuffer} (same : SameFields screen after) (valid : after.Valid)
    {cells : Nat → UInt8} (written : ∀ pos < screen.size, after.buffer[pos]? = some (cells pos))
    {address : Nat} (moved : after.cursorAddress = address) :
    after.Presents { space with cells, address } where
  valid
  rows := presents.rows.trans same.rows.symm
  cols := presents.cols.trans same.cols.symm
  cells := by
    rw [same.size]
    exact written
  marks := by
    rw [same.size, same.starts, same.attributes]
    exact presents.marks
  address := moved
  asciiStops := presents.asciiStops_of same.ascii same.cols
  looks := same.looks presents.looks

theorem moveTo {after : ScreenBuffer} (same : SameFields screen after) (valid : after.Valid)
    (kept : after.buffer = screen.buffer) {address : Nat}
    (moved : after.cursorAddress = address) : after.Presents (space.moveTo address) :=
  presents.write same valid (by rw [kept]; exact presents.cells) moved

theorem insertByte (byte : UInt8) : (screen.insertByte byte).Presents (space.put byte) := by
  have address := cursorAddress_insertByte presents.valid byte
  refine presents.write (sameFields_insertByte byte) (presents.valid.insertByte byte) ?_ ?_
  · intro pos inside
    rw [insertByte_buffer, presents.address]
    exact presents.cells_set space.address byte inside
  · rw [address]
    unfold PresentationSpace.next PresentationSpace.size
    rw [presents.address, presents.rows, presents.cols]

theorem storeData (byte : UInt8) : (screen.storeData byte).Presents (space.store byte) := by
  unfold ScreenBuffer.storeData PresentationSpace.store
  split
  · exact presents
  · exact presents.insertByte byte

theorem repeatData (byte : UInt8) (count : Nat) :
    (screen.repeatData byte count).Presents ((PresentationSpace.store byte)^[count] space) := by
  induction count generalizing screen space with
  | zero => exact presents
  | succ count ih => exact ih (presents.storeData byte)

theorem target_eq {before : ScreenBuffer} (rows : screen.rows = before.rows)
    (cols : screen.cols = before.cols) (mode : AddressingMode) (high low : UInt8) :
    before.addressOf (before.targetPosition (decodeAddress mode high low) mode) =
      space.target mode high low := by
  have column := Nat.mod_lt (AddressCalculator.clampAddress (decodeAddress mode high low) mode)
    before.cols_pos
  unfold PresentationSpace.target PresentationSpace.landing addressOf targetPosition
  rw [presents.rows, presents.cols, rows, cols, Nat.min_eq_left (Nat.le_sub_one_of_lt column)]

/-- An order moves the cursor to its target. -/
theorem setTarget {before : ScreenBuffer} (rows : screen.rows = before.rows)
    (cols : screen.cols = before.cols) (mode : AddressingMode) (high low : UInt8) :
    let position := before.targetPosition (decodeAddress mode high low) mode
    (screen.setPosition position.1 position.2).Presents
      (space.moveTo (space.target mode high low)) := by
  intro position
  apply presents.moveTo (sameFields_setPosition _ _) (presents.valid.setPosition _ _) rfl
  rw [cursorAddress_moved rows cols]
  exact presents.target_eq rows cols mode high low

theorem cellsUpTo (mode : AddressingMode) (high low : UInt8) :
    screen.cellsUpTo (screen.targetPosition (decodeAddress mode high low) mode) =
      stepsUpTo space.size space.address (space.target mode high low) := by
  rw [← presents.target_eq rfl rfl, presents.size, ← presents.address]
  rfl

theorem mark (attr : UInt8) : (screen.setAttribute attr none).Presents (space.mark attr) := by
  have valid := presents.valid
  have frame := screen.setAttribute_frame attr none
  have inside : screen.getPosition.1 * screen.cols + screen.getPosition.2 < screen.size :=
    valid.cursorAddress_lt
  have attributes : (screen.setAttribute attr none).attributes =
      screen.attributes.set (screen.cursorAddress * 3) attr := by
    unfold ScreenBuffer.setAttribute
    simp only [Option.getD_none]
    rw [if_pos inside]
    split <;> rfl
  have size := size_congr frame.rows frame.cols
  refine ⟨valid.setAttribute attr none, presents.rows.trans frame.rows.symm,
    presents.cols.trans frame.cols.symm, ?_, ?_, ?_, ?_, presents.looks.setAttribute valid attr⟩
  · intro pos within
    rw [size] at within
    rw [setAttribute_buffer valid, presents.address]
    exact presents.cells_set space.address attr within
  · intro pos within
    rw [size] at within
    have bound : pos * 3 < screen.attributes.length := by
      rw [valid.attributes_length]
      omega
    change Function.update space.marks space.address (some attr) pos = _
    rw [setAttribute_fieldStarts valid, attributes, List.getElem?_set, presents.address]
    by_cases here : space.address = pos
    · subst here
      simp [bound]
    · have apart : ¬ space.address * 3 = pos * 3 := by omega
      rw [Function.update_of_ne (Ne.symm here), if_neg apart, presents.marks pos within]
      simp [Ne.symm here]
  · rw [setAttribute_cursorAddress]
    exact presents.address
  · exact presents.asciiStops_of frame.asciiFields frame.cols

/-- A field order moves one column on. -/
theorem moveOn {before : ScreenBuffer} (position : screen.getPosition = before.getPosition) :
    (screen.setPosition before.cursorRow (before.cursorCol + 1)).Presents
      (space.moveTo space.nextColumn) := by
  obtain ⟨row, col⟩ := Prod.mk.inj position
  apply presents.moveTo (sameFields_setPosition _ _) (presents.valid.setPosition _ _) rfl
  rw [← row, ← col, cursorAddress_nextColumn presents.valid]
  unfold PresentationSpace.nextColumn
  rw [presents.address, presents.cols]

theorem startField (attr : UInt8) :
    (screen.startField attr).Presents (space.startField attr) := by
  unfold ScreenBuffer.startField
  simp only [SortedSet.insert_of_mem (setAttribute_marks presents.valid attr)]
  exact (presents.mark attr).moveOn (setAttribute_position attr none screen)

theorem setExtended (attrType attrValue : UInt8) (position : Option (Nat × Nat)) :
    (screen.setExtendedAttributeSfe attrType attrValue position).Presents space := by
  refine presents.moveTo (sameFields_setExtended attrType attrValue position)
    (presents.valid.setExtendedAttributeSfe _ _ _) ?_ ?_
  · unfold setExtendedAttributeSfe
    simp only
    split <;> rfl
  · rw [← presents.address]
    unfold setExtendedAttributeSfe
    simp only
    split <;> rfl

theorem applySfePair (attrType attrValue : UInt8) :
    (screen.applySfePair attrType attrValue).Presents
      (if attrType = 0xC0 then space.mark attrValue else space) := by
  unfold ScreenBuffer.applySfePair
  split
  · exact presents.mark attrValue
  · split
    · exact presents.setExtended attrType attrValue none
    · exact presents

theorem applySfePairs (pairs : List (UInt8 × UInt8)) :
    (screen.applySfePairs pairs).Presents
      ((baseAttribute pairs).elim space fun attr => space.mark attr) := by
  induction pairs generalizing screen space with
  | nil => exact presents
  | cons pair pairs ih =>
      have later := ih (presents.applySfePair pair.1 pair.2)
      change ((screen.applySfePair pair.1 pair.2).applySfePairs pairs).Presents _
      rw [baseAttribute]
      cases base : baseAttribute pairs with
      | none =>
          rw [base] at later
          rw [Option.none_or]
          by_cases first : pair.1 = 0xC0
          · simpa [first] using later
          · simpa [first] using later
      | some attr =>
          rw [base] at later
          rw [Option.some_or]
          by_cases first : pair.1 = 0xC0
          · simpa [first, PresentationSpace.mark] using later
          · simpa [first] using later

theorem startFieldExtended (pairs : List (UInt8 × UInt8)) :
    (screen.startFieldExtended pairs).Presents (space.startFieldExtended pairs) := by
  have paired := presents.applySfePairs pairs
  have position := (applySfePairs_spec presents.valid pairs).2.2.1
  have base := baseAttribute_isSome pairs
  unfold ScreenBuffer.startFieldExtended PresentationSpace.startFieldExtended
  cases found : baseAttribute pairs with
  | none =>
      rw [found] at paired base
      rw [← base]
      exact paired
  | some attr =>
      rw [found] at paired base
      rw [← base]
      exact paired.moveOn position

theorem mark_of_start {start : Nat} (marked : start ∈ screen.fieldStarts) :
    ∃ attr, screen.attributes[start * 3]? = some attr ∧ space.marks start = some attr := by
  have inside := presents.valid.starts_lt start marked
  have bound : start * 3 < screen.attributes.length := by
    rw [presents.valid.attributes_length]
    omega
  have held := List.getElem?_eq_getElem bound
  refine ⟨_, held, ?_⟩
  rw [presents.marks start inside, if_pos marked, held]

theorem isProtectedCell_eq {start : Nat} (marked : start ∈ screen.fieldStarts) :
    screen.isProtectedCell start = (space.marks start).any PresentationSpace.protectsBy := by
  obtain ⟨attr, held, mark⟩ := presents.mark_of_start marked
  unfold isProtectedCell
  rw [held, mark]
  rfl

theorem marks_isSome {pos : Nat} (inside : pos < screen.size) :
    (space.marks pos).isSome ↔ pos ∈ screen.fieldStarts.toList := by
  constructor
  · intro some
    by_contra absent
    rw [presents.marks pos inside, if_neg (mt SortedSet.mem_iff.mp absent)] at some
    cases some
  · intro marked
    obtain ⟨attr, -, mark⟩ := presents.mark_of_start (SortedSet.mem_iff.mpr marked)
    rw [mark]
    rfl

theorem protects_eq (known : screen.KnowsFields) {pos : Nat} (inside : pos < screen.size) :
    screen.protectsAt pos = space.protects pos := by
  have bounded : ∀ start ∈ screen.fieldStarts.toList, start ≤ screen.size - 1 :=
    fun start marked => Nat.le_sub_one_of_lt (presents.valid.starts_lt start marked)
  have agree : ∀ place ≤ screen.size - 1,
      (space.marks place).isSome ↔ place ∈ screen.fieldStarts.toList :=
    fun place within => presents.marks_isSome (by have := screen.size_pos; omega)
  rw [protectsAt_eq, known.laidOut.layout]
  unfold PresentationSpace.protects markedLayout
  rw [governing_eq_find? screen.fieldStarts.increasing bounded agree (by omega), List.find?_map]
  change (((ranges (screen.size - 1) screen.fieldStarts.toList).find? fun range =>
    range.1 ≤ pos && pos ≤ range.2).map _).any _ = _
  cases found : (ranges (screen.size - 1) screen.fieldStarts.toList).find? fun range =>
      range.1 ≤ pos && pos ≤ range.2 with
  | none => rfl
  | some range =>
      have marked := mem_of_mem_ranges (List.mem_of_find?_eq_some found)
      exact presents.isProtectedCell_eq marked

theorem guards_eq {pos : Nat} (inside : pos < screen.size) :
    screen.protectsAt pos = space.guards pos := by
  have looks := presents.looks
  unfold PresentationSpace.guards
  cases seen : space.looksUp with
  | true =>
      rw [seen] at looks
      exact presents.protects_eq looks inside
  | false =>
      rw [seen] at looks
      unfold protectsAt
      rw [looks.fields]
      rfl

theorem inputs_eq (known : screen.KnowsFields) :
    (screen.fields.filter fun field => !field.isProtected).map
      (Field.startIndex screen.cols) = space.inputs := by
  have starts : (screen.fields.filter fun field => !field.isProtected).map
      (Field.startIndex screen.cols) =
        screen.fieldStarts.toList.filter fun start => !screen.isProtectedCell start := by
    have unprotected := congrArg (fun entries => (entries.filter fun entry => !entry.2).map
      fun entry => entry.1.1) known.laidOut.layout
    unfold layout markedLayout at unprotected
    simp only [List.filter_map, List.map_map] at unprotected
    refine unprotected.trans ?_
    conv_rhs => rw [← map_fst_ranges (screen.size - 1) screen.fieldStarts.toList]
    rw [List.filter_map]
    rfl
  rw [starts]
  apply Eq.symm
  apply markedPlaces_eq (screen.fieldStarts.increasing.filter _)
  intro place
  rw [List.mem_filter, presents.size]
  constructor
  · rintro ⟨marked, free⟩
    refine ⟨presents.valid.starts_lt place marked, ?_⟩
    obtain ⟨attr, -, mark⟩ := presents.mark_of_start marked
    rw [presents.isProtectedCell_eq marked, mark] at free
    rw [mark]
    exact free
  · rintro ⟨inside, free⟩
    have marked := (presents.marks_isSome inside).mp (Option.isSome_of_any free)
    refine ⟨marked, ?_⟩
    obtain ⟨attr, -, mark⟩ := presents.mark_of_start marked
    rw [mark] at free
    rw [presents.isProtectedCell_eq marked, mark]
    exact free

theorem knownInputs_eq :
    (screen.fields.filter fun field => !field.isProtected).map
      (Field.startIndex screen.cols) = space.knownInputs := by
  have looks := presents.looks
  unfold PresentationSpace.knownInputs
  cases seen : space.looksUp with
  | true =>
      rw [seen] at looks
      exact presents.inputs_eq looks
  | false =>
      rw [seen] at looks
      rw [looks.fields]
      rfl

theorem moveToAny {position : Option (Nat × Nat)} {after : ScreenBuffer}
    (moved : after = position.elim screen fun place => screen.moveCursorTo place)
    (valid : after.Valid) {address : Option Nat}
    (named : position.map screen.addressOf = address) :
    after.Presents (space.moveToAny address) := by
  subst moved named
  cases position with
  | none => exact presents
  | some place => exact presents.moveTo (sameFields_moveCursorTo place) valid rfl rfl

theorem firstInputField_eq :
    screen.firstInputField.map (Field.startIndex screen.cols) = space.knownInputs.head? := by
  have looks := presents.looks
  have scanned : (screen.fields.find? fun field => !field.isProtected).map
      (Field.startIndex screen.cols) = space.knownInputs.head? := by
    rw [← presents.knownInputs_eq, List.head?_map, List.head?_filter]
  rw [← scanned]
  unfold firstInputField
  split
  · next field rest valid cache =>
      cases seen : space.looksUp with
      | true =>
          rw [seen] at looks
          have start := looks.inputs valid field (by rw [cache]; rfl)
          obtain ⟨found, here, same⟩ := Option.map_eq_some_iff.mp start
          rw [here]
          unfold Field.startIndex
          rw [Option.map_some, Option.map_some, same]
      | false =>
          rw [seen] at looks
          rw [looks.inputs] at cache
          cases cache
  · rfl

theorem moveCursorToFirstInputField :
    screen.moveCursorToFirstInputField.Presents (space.moveToAny space.knownInputs.head?) := by
  refine @moveToAny screen space presents (screen.firstInputField.map (·.start)) _ ?_
    presents.valid.moveCursorToFirstInputField _ ?_
  · unfold ScreenBuffer.moveCursorToFirstInputField
    cases screen.firstInputField with
    | none => rfl
    | some field => rfl
  · rw [← presents.firstInputField_eq, Option.map_map]
    rfl

theorem sortByStart_fields : sortByStart screen.cols screen.fields = screen.fields := by
  have looks := presents.looks
  cases seen : space.looksUp with
  | true =>
      rw [seen] at looks
      exact sortByStart_of_ordered looks.laidOut.ordered
  | false =>
      rw [seen] at looks
      rw [looks.fields]
      rfl

theorem nextInputPosition_eq :
    screen.nextInputPosition.map screen.addressOf = space.nextInput := by
  have behind : screen.positionBehind.map screen.addressOf =
      (space.knownInputs.find? fun start => space.address < start).or
        (space.asciiStops.find? fun stop => space.address < stop) := by
    unfold positionBehind
    rw [presents.sortByStart_fields, ← presents.knownInputs_eq, ← presents.asciiStops,
      List.find?_map, List.find?_map, List.find?_filter, presents.address, Option.map_or,
      Option.map_map]
    simp only [Bool.decide_and, Bool.decide_eq_true]
    rfl
  have first : screen.firstPosition.map screen.addressOf =
      space.knownInputs.head?.or space.asciiStops.head? := by
    unfold firstPosition
    rw [presents.sortByStart_fields, ← presents.knownInputs_eq, ← presents.asciiStops,
      List.head?_map, List.head?_map, List.head?_filter, Option.map_or, Option.map_map]
    congr 2
    cases screen.sortedAsciiFields <;> rfl
  rw [ScreenBuffer.nextInputPosition_eq, Option.map_or, behind, first]
  rfl

theorem programTab : screen.programTab.Presents (space.moveToAny space.nextInput) := by
  refine @moveToAny screen space presents screen.nextInputPosition _ ?_
    presents.valid.programTab _ presents.nextInputPosition_eq
  unfold ScreenBuffer.programTab moveCursorToNextInputField
  cases screen.nextInputPosition with
  | none => rfl
  | some place => rfl

theorem congr {cells : Nat → UInt8} (agree : ∀ pos < space.size, space.cells pos = cells pos) :
    screen.Presents { space with cells } :=
  { presents with
    cells := by
      intro pos inside
      have same := agree pos (by rw [presents.size]; exact inside)
      rw [presents.cells pos inside, same] }

theorem protectedAt_eq {position : Nat × Nat} (inside : screen.OnScreen position) :
    screen.protectedAt position = space.guards (screen.addressOf position) := by
  have looks := presents.looks
  have looked : screen.protectedAt position =
      (screen.getFieldAtPosition position.1 position.2).any (·.isProtected) := by
    unfold protectedAt
    cases screen.getFieldAtPosition position.1 position.2 <;> rfl
  have address : screen.addressOf position < screen.size := address_lt inside.1 inside.2
  rw [looked, ← presents.guards_eq address]
  cases seen : space.looksUp with
  | true =>
      rw [seen] at looks
      exact getFieldAtPosition_isProtected looks.laidOut inside
  | false =>
      rw [seen] at looks
      unfold OnScreen at inside
      unfold getFieldAtPosition protectsAt
      rw [if_pos inside, looks.fields]
      simp [looks.positions]

/-- A cell is erased, and the cursor goes somewhere. -/
theorem eraseCell {position : Nat × Nat} (inside : screen.OnScreen position) :
    ∃ address, (screen.change (.eraseCell position)).Presents
      { space with
        cells := Function.update space.cells (screen.addressOf position) 0x40
        address } := by
  have frame := screen.change_frame (.eraseCell position)
  have looks := presents.looks.eraseCell presents.valid position
  have attributes := screen.eraseCell_attributes position
  have size := size_congr frame.rows frame.cols
  refine ⟨_, presents.valid.change (.eraseCell position), presents.rows.trans frame.rows.symm,
    presents.cols.trans frame.cols.symm, ?_, ?_, rfl, ?_, looks⟩
  · intro pos within
    rw [size] at within
    have written : (screen.change (.eraseCell position)).buffer =
        screen.buffer.set (screen.addressOf position) 0x40 :=
      (eraseCell_buffer presents.valid position).trans (if_pos inside)
    rw [written]
    exact presents.cells_set (screen.addressOf position) 0x40 within
  · intro pos within
    rw [size] at within
    rw [eraseCell_fieldStarts, attributes]
    exact presents.marks pos within
  · exact presents.asciiStops_of frame.asciiFields frame.cols

theorem eraseUnprotectedCell {position : Nat × Nat} (inside : screen.OnScreen position) :
    ∃ address, (screen.eraseUnprotectedCell position).Presents
      ((space.eraseCell (screen.addressOf position)).moveTo address) := by
  rw [eraseUnprotectedCell_eq, presents.protectedAt_eq inside]
  unfold PresentationSpace.eraseCell
  cases space.guards (screen.addressOf position) with
  | true => exact ⟨space.address, presents⟩
  | false => exact presents.eraseCell inside

theorem eraseUnprotected {position : Nat × Nat} (inside : screen.OnScreen position)
    (count : Nat) :
    ∃ address, (screen.eraseUnprotected count position).Presents
      ((space.sweep count (screen.addressOf position)).moveTo address) := by
  induction count generalizing screen space position with
  | zero =>
      rw [PresentationSpace.sweep_zero]
      exact ⟨space.address, presents⟩
  | succ count ih =>
      obtain ⟨address, erased⟩ := presents.eraseUnprotectedCell inside
      have rows : (screen.eraseUnprotectedCell position).rows = screen.rows :=
        erased.rows.symm.trans presents.rows
      have cols : (screen.eraseUnprotectedCell position).cols = screen.cols :=
        erased.cols.symm.trans presents.cols
      have onScreen : (screen.eraseUnprotectedCell position).OnScreen position := by
        unfold OnScreen
        rw [rows, cols]
        exact inside
      obtain ⟨nextInside, next⟩ := nextCell_spec onScreen
      obtain ⟨last, swept⟩ := ih erased nextInside
      refine ⟨last, ?_⟩
      have address : screen.addressOf position < space.size := by
        rw [presents.size]
        exact address_lt inside.1 inside.2
      have same : (screen.eraseUnprotectedCell position).addressOf position =
          screen.addressOf position := by
        unfold addressOf
        rw [cols]
      rw [PresentationSpace.sweep_succ address]
      rw [next, same, ← erased.size] at swept
      exact swept

theorem target_lt (mode : AddressingMode) (high low : UInt8) :
    space.target mode high low < space.size := by
  have rows := screen.rows_pos
  have cols := screen.cols_pos
  rw [← presents.target_eq rfl rfl, presents.size]
  unfold addressOf targetPosition
  exact address_lt (by simp only; omega) (by simp only; omega)

/-- An order that comes to its target behind what it has done on the way. -/
theorem arrive {before : ScreenBuffer} {home : PresentationSpace} (started : before.Presents home)
    (rows : screen.rows = before.rows) (cols : screen.cols = before.cols)
    (mode : AddressingMode) (high low : UInt8) :
    let position := before.targetPosition (decodeAddress mode high low) mode
    (screen.setPosition position.1 position.2).Presents
      (space.moveTo (home.target mode high low)) := by
  intro position
  rw [← started.target_eq rfl rfl, presents.target_eq rows cols]
  exact presents.setTarget rows cols mode high low

theorem repeatTo (byte : UInt8) (mode : AddressingMode) (high low : UInt8) :
    let position := screen.targetPosition (decodeAddress mode high low) mode
    ((screen.repeatData byte (screen.cellsUpTo position)).setPosition position.1
      position.2).Presents (space.repeatTo byte (space.target mode high low)) := by
  intro position
  have frame := (repeatData_keeps presents.valid byte (screen.cellsUpTo position)).2
  have arrived := (presents.repeatData byte (screen.cellsUpTo position)).arrive presents
    frame.rows frame.cols mode high low
  rw [presents.cellsUpTo] at arrived
  rw [presents.cellsUpTo]
  exact arrived

theorem eraseTo (mode : AddressingMode) (high low : UInt8) :
    let position := screen.targetPosition (decodeAddress mode high low) mode
    ((screen.eraseUnprotected (screen.cellsUpTo position) screen.getPosition).setPosition
      position.1 position.2).Presents (space.eraseTo (space.target mode high low)) := by
  intro position
  have inside : screen.OnScreen screen.getPosition :=
    ⟨presents.valid.cursorRow_lt, presents.valid.cursorCol_lt⟩
  have here : space.address < space.size := by
    rw [presents.size, ← presents.address]
    exact presents.valid.cursorAddress_lt
  have cells : screen.addressOf screen.getPosition = space.address := presents.address
  obtain ⟨address, swept⟩ := presents.eraseUnprotected inside (screen.cellsUpTo position)
  have arrived := swept.arrive presents (swept.rows.symm.trans presents.rows)
    (swept.cols.symm.trans presents.cols) mode high low
  rw [cells, presents.cellsUpTo] at arrived
  rw [presents.cellsUpTo]
  refine arrived.congr fun pos within => ?_
  exact PresentationSpace.sweep_range here (presents.target_lt mode high low) within

/-- What an order does to the screen is what it means on the space. -/
theorem onScreen (item : Item) (mode : AddressingMode) (fieldStart : Nat × Nat) :
    (item.onScreen mode fieldStart screen).Presents (space.perform mode item) := by
  cases item with
  | data byte => exact presents.storeData byte
  | sba high low => exact presents.setTarget rfl rfl mode high low
  | sf attr => exact presents.startField attr
  | sa attrType attrValue => exact presents.setExtended attrType attrValue _
  | sfe pairs => exact presents.startFieldExtended pairs
  | ra high low charToRepeat => exact presents.repeatTo charToRepeat mode high low
  | eua high low => exact presents.eraseTo mode high low
  | ge graphicByte => exact presents.storeData _
  | ic => exact presents.moveCursorToFirstInputField
  | pt => exact presents.programTab

end Presents

end ScreenBuffer

namespace DataStreamParser

open ScreenBuffer

theorem presents_afterItems (items : List Item) {parser : DataStreamParser}
    {space : PresentationSpace} (presents : parser.screen.Presents space) :
    (afterItems items parser).screen.Presents
      (space.performAll parser.addressingMode items) := by
  induction items generalizing parser space with
  | nil => exact presents
  | cons item items ih =>
      have first := presents.onScreen item parser.addressingMode
        parser.resolveFieldStartPosition
      exact @ih (item.after parser) _ first

/-- The blank space before the orders of a record. -/
def blankSpace (data : List UInt8) (screen : ScreenBuffer) : PresentationSpace :=
  PresentationSpace.blank screen.rows screen.cols (data.length ≤ bulkThreshold)
    (screen.sortedAsciiFields.map screen.addressOf)

theorem writeStart_caches (wcc : UInt8) (data : List UInt8) (parser : DataStreamParser) :
    (∀ pos, (writeStart wcc data parser).screen.fieldPositionCache pos = none) ∧
      (writeStart wcc data parser).screen.inputFieldsCache = [] ∧
        (writeStart wcc data parser).screen.asciiFields = parser.screen.asciiFields := by
  have before := erased_caches data
    (prepare (decide (bulkThreshold < data.length)) data parser).screen
  have prepared : (prepare (decide (bulkThreshold < data.length)) data
      parser).screen.asciiFields = parser.screen.asciiFields := by
    cases bulk : decide (bulkThreshold < data.length) <;> rfl
  have same := applyWcc_caches wcc
    ((prepare (decide (bulkThreshold < data.length)) data parser).screen.erased data)
  rw [prepared, ← same.positions, ← same.inputs, ← same.ascii] at before
  exact before

/-- The fields of a short record are known, those of a long one hidden. -/
theorem looks_writeStart (wcc : UInt8) (data : List UInt8) {parser : DataStreamParser}
    (resumed : parser.screen.suspendFieldDetection = 0) :
    (writeStart wcc data parser).screen.Looks (decide (data.length ≤ bulkThreshold)) := by
  have starts := writeStart_fieldStarts wcc data parser
  have fields := writeStart_fields wcc data parser
  have suspended := writeStart_suspended wcc data parser
  obtain ⟨positions, inputs, -⟩ := writeStart_caches wcc data parser
  rw [resumed] at suspended
  by_cases short : data.length ≤ bulkThreshold
  · rw [decide_eq_true short]
    rw [if_neg (Nat.not_lt.mpr short)] at suspended
    exact ⟨Placed.blank fields starts positions inputs, suspended⟩
  · rw [decide_eq_false short]
    rw [if_pos (Nat.not_le.mp short)] at suspended
    exact ⟨fields, positions, inputs, suspended⟩

theorem presents_writeStart {parser : DataStreamParser} (valid : parser.screen.Valid)
    (resumed : parser.screen.suspendFieldDetection = 0) (command wcc : UInt8)
    (body : List UInt8) :
    (writeStart wcc (command :: wcc :: body) parser).screen.Presents
      (blankSpace (command :: wcc :: body) parser.screen) := by
  generalize whole : command :: wcc :: body = data
  have started : (writeStart wcc data parser).screen.Valid := by
    rw [← whole]
    exact (startWrite_before valid _ command wcc body).valid
  have erased : Erased parser.screen (writeStart wcc data parser).screen :=
    (erased_prepareScreen _ data parser.screen).applyWcc wcc
  have starts := writeStart_fieldStarts wcc data parser
  refine ⟨started, erased.rows.symm, erased.cols.symm, ?_, ?_, erased.cursorAddress, ?_,
    looks_writeStart wcc data resumed⟩
  · intro pos inside
    have size := size_congr erased.rows erased.cols
    rw [erased.buffer, List.getElem?_replicate, if_pos (size ▸ inside)]
    rfl
  · intro pos _
    rw [starts, if_neg (SortedSet.not_mem_empty pos)]
    rfl
  · unfold sortedAsciiFields addressOf
    rw [(writeStart_caches wcc data parser).2.2, erased.cols]
    rfl

/-- Detection makes the fields known that a long record has not looked up. -/
theorem presents_endBulkUpdate {screen : ScreenBuffer} {space : PresentationSpace}
    (presents : screen.Presents space) (hidden : space.looksUp = false) :
    screen.endBulkUpdate.Presents { space with looksUp := true } := by
  have looks := presents.looks
  rw [hidden] at looks
  have suspended := looks.suspended
  have ended : screen.endBulkUpdate =
      ({ screen with suspendFieldDetection := 0 } : ScreenBuffer).detectFields := by
    unfold endBulkUpdate
    simp [suspended]
  have valid := presents.valid.endBulkUpdate
  rw [ended] at valid ⊢
  exact ⟨valid, presents.rows, presents.cols, presents.cells, presents.marks, presents.address,
    presents.asciiStops, ⟨Placed.detectFields presents.valid.starts_lt, rfl⟩⟩

theorem presents_resumeScreen {data : List UInt8} {screen : ScreenBuffer}
    {space : PresentationSpace} (presents : screen.Presents space)
    (mode : space.looksUp = decide (data.length ≤ bulkThreshold)) :
    (resumeScreen data screen).Presents { space with looksUp := true } := by
  unfold resumeScreen
  split
  · next long =>
      apply presents_endBulkUpdate presents
      rw [mode]
      exact decide_eq_false (Nat.not_le.mpr long)
  · next short =>
      have seen : space.looksUp = true := by
        rw [mode]
        exact decide_eq_true (Nat.not_lt.mp short)
      rw [← seen]
      exact presents

end DataStreamParser

open DataStreamParser in
/-- A write command, its control character, and complete orders. -/
structure OrderRecord where
  command : UInt8
  write : isWriteCommand command || isEraseWriteCommand command
  wcc : UInt8
  items : List Item
  framed : Framed items []

namespace OrderRecord

def data (record : OrderRecord) : List UInt8 :=
  record.command :: record.wcc :: DataStreamParser.encodeItems record.items

/-- What the record means to a parser. -/
def space (record : OrderRecord) (parser : DataStreamParser) : PresentationSpace :=
  (DataStreamParser.blankSpace record.data parser.screen).performAll parser.addressingMode
    record.items

end OrderRecord

namespace DataStreamParser

open ScreenBuffer

theorem presents_parse {parser : DataStreamParser} (valid : parser.screen.Valid)
    (resumed : parser.screen.suspendFieldDetection = 0) (record : OrderRecord) :
    ∃ after, parse record.data 0x00 parser = .ok .finished after ∧
      after.screen.Presents { record.space parser with looksUp := true } := by
  have start := presents_writeStart valid resumed record.command record.wcc
    (encodeItems record.items)
  have before : Before (encodeItems record.items) (startWrite record.wcc
      (prepare (decide (bulkThreshold < record.data.length)) record.data parser)) :=
    startWrite_before valid _ record.command record.wcc (encodeItems record.items)
  obtain ⟨ended, looped, screen⟩ := parseLoop_items before record.framed
    (some (prepare (decide (bulkThreshold < record.data.length)) record.data
      parser).screen.snapshot)
  have written := presents_afterItems record.items start
  have resumes := presents_resumeScreen written (PresentationSpace.performAll_looksUp _ _ _)
  refine ⟨resume (decide (bulkThreshold < record.data.length)) ended, ?_, ?_⟩
  · rw [parse_tn3270, parseRecord_write record.write rfl rfl, run_tryCatch_ok looped]
    rfl
  · rw [resume_screen, screen]
    exact resumes

end DataStreamParser

namespace ScreenBuffer

/-- The screen shows the bytes of the space, its fields and what they protect, and stands at
its address. -/
structure Displays (screen : ScreenBuffer) (space : PresentationSpace) : Prop where
  cells : ∀ pos < screen.size, screen.buffer[pos]? = some (space.cells pos)
  fields : screen.fields.map (Field.startIndex screen.cols) =
    markedPlaces space.size (fun _ => true) space.marks
  inputs : (screen.fields.filter fun field => !field.isProtected).map
    (Field.startIndex screen.cols) = space.inputs
  protection : ∀ pos < screen.size, screen.protectsAt pos = space.protects pos
  address : screen.cursorAddress = space.address

theorem Presents.displays {screen : ScreenBuffer} {space : PresentationSpace}
    (presents : screen.Presents { space with looksUp := true }) : screen.Displays space where
  cells := presents.cells
  fields := by
    have known : screen.KnowsFields := presents.looks
    rw [known.laidOut.starts]
    apply Eq.symm
    apply markedPlaces_eq screen.fieldStarts.increasing
    intro place
    constructor
    · intro marked
      obtain ⟨attr, -, mark⟩ := presents.mark_of_start (SortedSet.mem_iff.mpr marked)
      have inside := presents.valid.starts_lt place (SortedSet.mem_iff.mpr marked)
      rw [← presents.size] at inside
      refine ⟨inside, ?_⟩
      rw [(mark : space.marks place = some attr)]
      rfl
    · rintro ⟨inside, marked⟩
      have within : place < screen.size := by
        rw [← presents.size]
        exact inside
      exact (presents.marks_isSome within).mp (Option.isSome_of_any marked)
  inputs := presents.inputs_eq presents.looks
  protection := fun _ inside => presents.protects_eq presents.looks inside
  address := presents.address

end ScreenBuffer

namespace DataStreamParser

/-- After any calls of the parser, a record of complete orders is read to its end, and the
screen displays what it means on a blank space. -/
theorem displays_every_record {parser : DataStreamParser} (valid : parser.screen.Valid)
    (resumed : parser.screen.suspendFieldDetection = 0) (calls : List (List UInt8 × UInt8))
    (record : OrderRecord) :
    ∃ after, parse record.data 0x00 (afterCalls parser calls) = .ok .finished after ∧
      after.screen.Displays (record.space (afterCalls parser calls)) := by
  have reached := (afterCalls_valid valid calls).1
  have suspended := (afterCalls_suspended parser calls).trans resumed
  obtain ⟨after, parsed, presents⟩ := presents_parse reached suspended record
  exact ⟨after, parsed, presents.displays⟩

theorem eraseWrite_writes : isWriteCommand 0xF5 || isEraseWriteCommand 0xF5 := rfl

/-- A protected field, a letter in it, and an unprotected field on the next row. -/
def smallRecord : OrderRecord where
  command := 0xF5
  write := eraseWrite_writes
  wcc := 0xC3
  items := [.sf 0x60, .data 0xC1, .sba 0x00 0x04, .sf 0x00, .ic]
  framed := ⟨trivial, nofun, .inl rfl, by simp, trivial, nofun, trivial, nofun, trivial, nofun,
    trivial⟩

theorem displays_small_record :
    ∃ after, parse smallRecord.data 0x00 (afterCalls (smallParser 0 0)
        [([0xF5, 0xC3, 0x1D, 0x60, 0xC1], 0x00), ([0x11], 0x00)]) = .ok .finished after ∧
      after.screen.Displays (smallRecord.space (afterCalls (smallParser 0 0)
        [([0xF5, 0xC3, 0x1D, 0x60, 0xC1], 0x00), ([0x11], 0x00)])) :=
  displays_every_record (smallParser_valid 0 0) rfl
    [([0xF5, 0xC3, 0x1D, 0x60, 0xC1], 0x00), ([0x11], 0x00)] smallRecord

example : (smallRecord.space (smallParser 0 0)).inputs = [4] ∧
    (smallRecord.space (smallParser 0 0)).address = 4 ∧
      (List.range 6).map (fun pos => (smallRecord.space (smallParser 0 0)).protects pos) =
        [true, true, true, true, false, false] := by decide +kernel

end DataStreamParser

end Pure3270
