import Mathlib.Tactic.Linarith
import Pure3270.Emulation.ScreenBuffer

/-!
# The screen invariant

`Valid` collects what every operation of the screen buffer maintains: the
arrays have the size of the screen, the cursor and all field starts lie on it,
and so does every field the screen remembers, in the field list or in a cache.
-/

namespace Pure3270

open Foundations

namespace Field

/-- Both ends of a field lie on a screen of the given size. -/
def InBounds (rows cols : Nat) (field : Field) : Prop :=
  (field.start.1 < rows ∧ field.start.2 < cols) ∧
    field.finish.1 < rows ∧ field.finish.2 < cols

theorem inBounds_init {rows cols : Nat} {params : FieldParams}
    (start : params.start.1 < rows ∧ params.start.2 < cols)
    (finish : params.finish.1 < rows ∧ params.finish.2 < cols) :
    (init params).InBounds rows cols := by
  unfold init
  split
  · exact ⟨start, finish⟩
  · exact ⟨finish, start⟩

theorem init_start {params : FieldParams}
    (ordered : Position.le params.start params.finish) :
    (init params).toFieldParams = params := by
  unfold init
  rw [dif_pos ordered]

theorem replaceContent_toFieldParams (content : List UInt8) (field : Field) :
    (field.replaceContent content).toFieldParams =
      { field.toFieldParams with
        bypass := false
        hidden := false
        codepage := "cp037"
        modified := true
        content } :=
  init_start field.ordered

theorem inBounds_replaceContent {rows cols : Nat} {field : Field}
    (inside : field.InBounds rows cols) (content : List UInt8) :
    (field.replaceContent content).InBounds rows cols :=
  inBounds_init inside.1 inside.2

end Field

namespace ScreenBuffer

structure Valid (screen : ScreenBuffer) : Prop where
  buffer_length : screen.buffer.length = screen.size
  attributes_length : screen.attributes.length = 3 * screen.size
  cursorRow_lt : screen.cursorRow < screen.rows
  cursorCol_lt : screen.cursorCol < screen.cols
  starts_lt : ∀ start ∈ screen.fieldStarts, start < screen.size
  fields_inBounds : ∀ field ∈ screen.fields, field.InBounds screen.rows screen.cols
  cache_inBounds : ∀ pos field, screen.fieldPositionCache pos = some field →
    field.InBounds screen.rows screen.cols
  inputs_inBounds : ∀ field ∈ screen.inputFieldsCache,
    field.InBounds screen.rows screen.cols
  ascii_inBounds : ∀ position ∈ screen.asciiFields,
    position.1 < screen.rows ∧ position.2 < screen.cols

theorem size_pos (screen : ScreenBuffer) : 0 < screen.size :=
  Nat.mul_pos screen.rows_pos screen.cols_pos

/-- Positions on the screen have addresses below its size. -/
theorem address_lt {rows cols row col : Nat} (rowInside : row < rows)
    (colInside : col < cols) : row * cols + col < rows * cols := by
  have rowEnd : (row + 1) * cols ≤ rows * cols := Nat.mul_le_mul_right cols rowInside
  rw [Nat.add_mul, Nat.one_mul] at rowEnd
  omega

theorem Valid.cursorAddress_lt {screen : ScreenBuffer} (valid : screen.Valid) :
    screen.cursorAddress < screen.size :=
  address_lt valid.cursorRow_lt valid.cursorCol_lt

theorem calculateCoords_inBounds {screen : ScreenBuffer} {index : Nat}
    (inside : index < screen.size) :
    (screen.calculateCoords index).1 < screen.rows ∧
      (screen.calculateCoords index).2 < screen.cols :=
  ⟨Nat.div_lt_of_lt_mul (by rwa [size, Nat.mul_comm] at inside),
    Nat.mod_lt index screen.cols_pos⟩

theorem valid_init (rows cols : Nat) (rows_pos : 0 < rows) (cols_pos : 0 < cols)
    (initValue : UInt8) (codepage : String) :
    (init rows cols rows_pos cols_pos initValue codepage).Valid where
  buffer_length := by simp [init, size]
  attributes_length := by simp [init, size, Nat.mul_comm]
  cursorRow_lt := rows_pos
  cursorCol_lt := cols_pos
  starts_lt := by simp [init]
  fields_inBounds := by simp [init]
  cache_inBounds := by simp [init]
  inputs_inBounds := by simp [init]
  ascii_inBounds := by simp [init]

theorem Valid.moveCursorTo {screen : ScreenBuffer} (valid : screen.Valid)
    {position : Nat × Nat} (row : position.1 < screen.rows)
    (col : position.2 < screen.cols) : (screen.moveCursorTo position).Valid :=
  { valid with cursorRow_lt := row, cursorCol_lt := col }

theorem Valid.setPosition {screen : ScreenBuffer} (valid : screen.Valid)
    (row col : Nat) : (screen.setPosition row col).Valid := by
  have rows_pos := screen.rows_pos
  have cols_pos := screen.cols_pos
  exact { valid with
    cursorRow_lt := by simp only [ScreenBuffer.setPosition]; omega
    cursorCol_lt := by simp only [ScreenBuffer.setPosition]; omega }

theorem Valid.setAsciiMode {screen : ScreenBuffer} (valid : screen.Valid)
    (asciiMode : Bool) : (screen.setAsciiMode asciiMode).Valid :=
  { valid with }

theorem Valid.setKeyboardLock {screen : ScreenBuffer} (valid : screen.Valid)
    (locked : Bool) : (screen.setKeyboardLock locked).Valid :=
  { valid with }

@[simp] theorem decodeBasicAttr_start (basicAttr : UInt8) (params : FieldParams) :
    (decodeBasicAttr basicAttr params).start = params.start := rfl

@[simp] theorem decodeBasicAttr_finish (basicAttr : UInt8) (params : FieldParams) :
    (decodeBasicAttr basicAttr params).finish = params.finish := rfl

@[simp] theorem applyExtended_start (extended : Option ExtendedAttributeSet)
    (params : FieldParams) : (applyExtended extended params).start = params.start := by
  unfold applyExtended
  split
  · rfl
  · split <;> rfl

@[simp] theorem applyExtended_finish (extended : Option ExtendedAttributeSet)
    (params : FieldParams) :
    (applyExtended extended params).finish = params.finish := by
  unfold applyExtended
  split
  · rfl
  · split <;> rfl

theorem createFieldFromRange_inBounds {screen : ScreenBuffer}
    {startIdx endIdx : Nat} {field : Field}
    (startInside : startIdx < screen.size) (endInside : endIdx < screen.size)
    (created : screen.createFieldFromRange startIdx endIdx = some field) :
    field.InBounds screen.rows screen.cols := by
  have start := calculateCoords_inBounds startInside
  have finish := calculateCoords_inBounds endInside
  unfold createFieldFromRange at created
  split at created
  · cases created
  · cases created
    apply Field.inBounds_init
    · simp only [applyExtended_start]
      cases screen.attributes[startIdx * 3]? <;> exact start
    · simp only [applyExtended_finish]
      cases screen.attributes[startIdx * 3]? <;> exact finish

theorem detectedFields_inBounds {screen : ScreenBuffer}
    (starts : ∀ start ∈ screen.fieldStarts, start < screen.size)
    {field : Field} (detected : field ∈ screen.detectedFields) :
    field.InBounds screen.rows screen.cols := by
  have size_pos := screen.size_pos
  obtain ⟨range, member, created⟩ := List.mem_filterMap.mp detected
  have bounded : ∀ start ∈ screen.fieldStarts.toList, start ≤ screen.size - 1 :=
    fun start here => by have := starts start here; omega
  have limits := ranges_bounded screen.fieldStarts.increasing bounded member
  exact createFieldFromRange_inBounds (by omega) (by omega) created

theorem mem_sortByStart {cols : Nat} {fields : List Field} {field : Field} :
    field ∈ sortByStart cols fields ↔ field ∈ fields :=
  (List.perm_insertionSort _ fields).mem_iff

/-- Detection needs only the arrays, the cursor and the field starts to be
right; it replaces every remembered field. -/
theorem Valid.detectFields {screen : ScreenBuffer} (valid : screen.Valid) :
    screen.detectFields.Valid :=
  { valid with
    fields_inBounds := fun _ member =>
      detectedFields_inBounds valid.starts_lt member
    cache_inBounds := fun _ _ found =>
      detectedFields_inBounds valid.starts_lt
        (List.mem_reverse.mp (List.mem_of_find?_eq_some found))
    inputs_inBounds := fun _ member =>
      detectedFields_inBounds valid.starts_lt
        (List.mem_filter.mp (mem_sortByStart.mp member)).1 }

theorem Valid.beginBulkUpdate {screen : ScreenBuffer} (valid : screen.Valid) :
    screen.beginBulkUpdate.Valid :=
  { valid with }

theorem Valid.endBulkUpdate {screen : ScreenBuffer} (valid : screen.Valid) :
    screen.endBulkUpdate.Valid := by
  have resumed : Valid { screen with
      suspendFieldDetection := screen.suspendFieldDetection - 1 } := { valid with }
  unfold ScreenBuffer.endBulkUpdate
  simp only
  split
  · exact resumed.detectFields
  · exact resumed

theorem Valid.clear {screen : ScreenBuffer} (valid : screen.Valid) :
    screen.clear.Valid := by
  have erased : Valid { screen with
      buffer := List.replicate screen.size screen.blank
      attributes := List.replicate screen.attributes.length 0
      extendedAttributes := fun _ => none
      fieldStarts := SortedSet.empty
      lightPenSelectedPosition := none
      fields := [] } :=
    { valid with
      buffer_length := by simp [size]
      attributes_length := by simp [valid.attributes_length, size]
      starts_lt := by simp
      fields_inBounds := by simp }
  exact erased.detectFields.setPosition 0 0

theorem Valid.storeChar {screen : ScreenBuffer} (valid : screen.Valid)
    (byte : UInt8) (pos : Nat) (isProtected : Bool) :
    (screen.storeChar byte pos isProtected).Valid :=
  { valid with
    buffer_length := by
      simpa [ScreenBuffer.storeChar, size] using valid.buffer_length
    attributes_length := by
      simpa [ScreenBuffer.storeChar, size] using valid.attributes_length }

theorem Valid.insertFieldStart {screen : ScreenBuffer} (valid : screen.Valid)
    {pos : Nat} (inside : pos < screen.size) :
    Valid { screen with fieldStarts := screen.fieldStarts.insert pos } :=
  { valid with
    starts_lt := by
      intro start member
      rcases SortedSet.mem_insert.mp member with rfl | earlier
      · exact inside
      · exact valid.starts_lt start earlier }

theorem Valid.advanceCursor {screen : ScreenBuffer} (valid : screen.Valid)
    (advance : Nat) : (screen.advanceCursor advance).Valid := by
  have rows_pos := screen.rows_pos
  have cols_pos := screen.cols_pos
  have row := valid.cursorRow_lt
  exact { valid with
    cursorRow_lt := by
      simp only [ScreenBuffer.advanceCursor]
      split
      · exact row
      · split <;> omega
    cursorCol_lt := by
      simp only [ScreenBuffer.advanceCursor]
      split <;> omega }

theorem refreshField_inBounds {screen : ScreenBuffer} {row col : Nat}
    {field refreshed : Field} (inside : field.InBounds screen.rows screen.cols)
    (found : screen.refreshField row col field = some refreshed) :
    refreshed.InBounds screen.rows screen.cols := by
  unfold refreshField at found
  split at found
  · simp only at found
    split at found
    · cases found
    · cases found
      exact Field.inBounds_replaceContent inside _
  · cases found

theorem Valid.updateFieldContent {screen : ScreenBuffer} (valid : screen.Valid)
    (row col : Nat) : (screen.updateFieldContent row col).1.Valid := by
  unfold ScreenBuffer.updateFieldContent
  split
  · refine { valid with fields_inBounds := ?_ }
    rcases List.exists_or_eq_self_of_replaceF (screen.refreshField row col)
      screen.fields with same | ⟨old, new, front, back, _, found, split, replaced⟩
    · rw [same]
      exact valid.fields_inBounds
    · rw [replaced]
      intro field member
      have inside : ∀ other ∈ front ++ old :: back,
          other.InBounds screen.rows screen.cols := by
        rw [← split]
        exact valid.fields_inBounds
      simp only [List.mem_append, List.mem_cons] at member inside
      rcases member with early | rfl | late
      · exact inside field (.inl early)
      · exact refreshField_inBounds (inside old (.inr (.inl rfl))) found
      · exact inside field (.inr (.inr late))
  · exact valid

theorem Valid.invalidateCache {screen : ScreenBuffer} (valid : screen.Valid) :
    Valid { screen with navigationCacheValid := false } :=
  { valid with }

theorem Valid.writeChar {screen : ScreenBuffer} (valid : screen.Valid)
    (byte : UInt8) (position : Option (Nat × Nat))
    (isProtected circumventProtection markFieldStart : Bool) :
    (screen.writeChar byte position isProtected circumventProtection
      markFieldStart).Valid := by
  unfold ScreenBuffer.writeChar
  simp only
  split
  · exact valid
  rename_i onScreen
  push Not at onScreen
  split
  · exact valid
  split
  · exact valid
  split
  · exact valid
  have stored := valid.storeChar byte
    ((position.getD screen.getPosition).1 * screen.cols +
      (position.getD screen.getPosition).2) isProtected
  generalize markedEq : (if markFieldStart = true then _ else _) = marked
  have markedValid : marked.Valid := by
    subst markedEq
    split
    · exact stored.insertFieldStart (address_lt onScreen.1 onScreen.2)
    · exact stored
  generalize movedEq : (if position.isSome = true then _ else _) = moved
  have movedValid : moved.Valid := by
    subst movedEq
    split
    · exact markedValid.advanceCursor _
    · exact markedValid
  have updatedValid := movedValid.updateFieldContent
    (position.getD screen.getPosition).1 (position.getD screen.getPosition).2
  split
  · rename_i updated found
    rw [found] at updatedValid
    exact updatedValid.invalidateCache
  · rename_i updated found
    rw [found] at updatedValid
    split
    · exact updatedValid.detectFields
    · exact updatedValid

theorem Valid.storeAttribute {screen : ScreenBuffer} (valid : screen.Valid)
    (attr : UInt8) {pos : Nat} (inside : pos < screen.size) :
    (screen.storeAttribute attr pos).Valid :=
  { valid.insertFieldStart inside with
    buffer_length := by
      simpa [ScreenBuffer.storeAttribute, size] using valid.buffer_length
    attributes_length := by
      simpa [ScreenBuffer.storeAttribute, size] using valid.attributes_length }

theorem Valid.setAttribute {screen : ScreenBuffer} (valid : screen.Valid)
    (attr : UInt8) (position : Option (Nat × Nat)) :
    (screen.setAttribute attr position).Valid := by
  unfold ScreenBuffer.setAttribute
  simp only
  split
  · rename_i inside
    split
    · exact (valid.storeAttribute attr inside).detectFields
    · exact valid.storeAttribute attr inside
  · exact valid

theorem Valid.setExtendedAttributeSfe {screen : ScreenBuffer}
    (valid : screen.Valid) (attrType attrValue : UInt8)
    (position : Option (Nat × Nat)) :
    (screen.setExtendedAttributeSfe attrType attrValue position).Valid := by
  unfold ScreenBuffer.setExtendedAttributeSfe
  simp only
  split
  · exact valid
  · exact { valid with }

theorem Valid.moveCursorToFirstInputField {screen : ScreenBuffer}
    (valid : screen.Valid) : screen.moveCursorToFirstInputField.Valid := by
  unfold ScreenBuffer.moveCursorToFirstInputField
  split
  · rename_i field found
    have inside : field.InBounds screen.rows screen.cols := by
      unfold firstInputField at found
      split at found
      · rename_i cached
        cases found
        exact valid.inputs_inBounds _ (by rw [cached]; exact List.mem_cons_self)
      · exact valid.fields_inBounds _ (List.mem_of_find?_eq_some found)
    exact valid.moveCursorTo inside.1.1 inside.1.2
  · exact valid

private theorem mem_sortedAsciiFields {screen : ScreenBuffer}
    {position : Nat × Nat} :
    position ∈ screen.sortedAsciiFields ↔ position ∈ screen.asciiFields :=
  (List.perm_insertionSort _ screen.asciiFields).mem_iff

theorem nextInputPosition_inBounds {screen : ScreenBuffer}
    (valid : screen.Valid) {position : Nat × Nat}
    (found : screen.nextInputPosition = some position) :
    position.1 < screen.rows ∧ position.2 < screen.cols := by
  unfold nextInputPosition at found
  simp only at found
  have fieldInside : ∀ {test : Field → Bool} {field : Field},
      (sortByStart screen.cols screen.fields).find? test = some field →
        field.InBounds screen.rows screen.cols :=
    fun here => valid.fields_inBounds _
      (mem_sortByStart.mp (List.mem_of_find?_eq_some here))
  split at found
  · rename_i here
    cases found
    exact (fieldInside here).1
  · rename_i here
    cases found
    exact valid.ascii_inBounds _
      (mem_sortedAsciiFields.mp (List.mem_of_find?_eq_some here))
  · rename_i here
    cases found
    exact (fieldInside here).1
  · rename_i here
    cases found
    exact valid.ascii_inBounds _
      (mem_sortedAsciiFields.mp (by rw [here]; exact List.mem_cons_self))
  · cases found

theorem Valid.programTab {screen : ScreenBuffer} (valid : screen.Valid) :
    screen.programTab.Valid := by
  unfold ScreenBuffer.programTab ScreenBuffer.moveCursorToNextInputField
  split
  · rename_i position found
    have inside := nextInputPosition_inBounds valid found
    exact valid.moveCursorTo inside.1 inside.2
  · exact valid

theorem setAttribute_buffer {screen : ScreenBuffer} (valid : screen.Valid)
    (attr : UInt8) :
    (screen.setAttribute attr none).buffer =
      screen.buffer.set screen.cursorAddress attr := by
  have inside : screen.cursorRow * screen.cols + screen.cursorCol < screen.size :=
    valid.cursorAddress_lt
  unfold setAttribute
  refine (congrArg ScreenBuffer.buffer (if_pos inside)).trans ?_
  split <;> rfl

end ScreenBuffer

end Pure3270
